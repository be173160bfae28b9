import Tabletop.Proofs.Rolling.Completion

/-!
# Outcomes of completed runs

An outcome is nothing or a sorted list of at least one die, and each of its dice was drawn during the
run. Both facts are one invariant, kept by every modifier whatever its value and whatever the source
answers: selections take dice from a sorted list, explosions add what they drew and sort again, and
an outcome is settled after each step.
-/

namespace Tabletop

/-- Nothing, or at least one die in ascending order. -/
def Outcome.Proper (outcome : Outcome) : Prop :=
  ∀ dice ∈ outcome, dice ≠ [] ∧ dice.Pairwise (· ≤ ·)

/-- An answer in the range that it was asked from. -/
def Draw.InRange (draw : Draw) : Prop := draw.range.low ≤ draw.value ∧ draw.value ≤ draw.range.high

instance (draw : Draw) : Decidable draw.InRange := inferInstanceAs (Decidable (_ ∧ _))

/-- A request for one die, answered by some state of the source. -/
def Draw.IsDie (σ : Type) [RandomSource σ] (sides : Int) (draw : Draw) : Prop :=
  ∃ source : σ, draw = ⟨dieRange sides, (RandomSource.draw (dieRange sides) source).1⟩

/-- The outcome is proper and accounted for by the dice at the start and the draws since then, each of
them one die. -/
structure Derives (σ : Type) [RandomSource σ] (sides : Int) (dice : List Int) (draws : List Draw)
    (outcome : Outcome) : Prop where
  proper : outcome.Proper
  subperm : (outcome.getD []).Subperm (dice ++ draws.map Draw.value)
  isDie_of_mem : ∀ draw ∈ draws, draw.IsDie σ sides

/-- Settling sorted dice gives a proper outcome. -/
theorem proper_settle {outcome : Outcome} (h : ∀ dice ∈ outcome, dice.Pairwise (· ≤ ·)) :
    (settle outcome).Proper := by
  intro dice hdice
  cases outcome with
  | none => cases hdice
  | some sorted =>
    cases sorted with
    | nil => cases hdice
    | cons die sorted =>
      cases hdice
      exact ⟨List.cons_ne_nil die sorted, h _ rfl⟩

/-- Settling neither adds nor loses dice. -/
theorem getD_settle (outcome : Outcome) : (settle outcome).getD [] = outcome.getD [] := by
  cases outcome with
  | none => rfl
  | some dice => cases dice <;> rfl

variable {σ : Type} [RandomSource σ] {sides : Int}

/-- Every value of a batch of dice is the answer to a request for one die. -/
theorem isDie_of_mem_drawUntil {counts : Int → Bool} {left wanted : Nat} {source : σ} {value : Int}
    (h : value ∈ (drawUntil (dieRange sides) counts left wanted source).values) :
    (Draw.mk (dieRange sides) value).IsDie σ sides := by
  fun_induction drawUntil (dieRange sides) counts left wanted source with
  | case1 => cases h
  | case2 => cases h
  | case3 left wanted source answer next hanswer ih =>
    rcases List.mem_cons.mp h with rfl | hlater
    · exact ⟨source, by rw [hanswer]⟩
    · exact ih hlater

namespace Derives

variable {dice : List Int} {draws draws' : List Draw} {middle outcome : Outcome}

/-- A proper outcome derives from its own dice without draws. -/
theorem refl (h : outcome.Proper) : Derives σ sides (outcome.getD []) [] outcome :=
  ⟨h, by rw [List.map_nil, List.append_nil], by simp⟩

/-- Derivations follow each other. -/
theorem trans (h : Derives σ sides dice draws middle)
    (h' : Derives σ sides (middle.getD []) draws' outcome) :
    Derives σ sides dice (draws ++ draws') outcome := by
  refine ⟨h'.proper, ?_, ?_⟩
  · rw [List.map_append, ← List.append_assoc]
    exact h'.subperm.trans ((List.subperm_append_right _).mpr h.subperm)
  · intro draw hdraw
    rcases List.mem_append.mp hdraw with hfirst | hsecond
    · exact h.isDie_of_mem draw hfirst
    · exact h'.isDie_of_mem draw hsecond

/-- A selection from sorted dice derives from them. -/
theorem of_select {modifier : Modifier} (hsorted : dice.Pairwise (· ≤ ·)) :
    Derives σ sides dice [] (settle (modifier.select dice)) := by
  refine ⟨proper_settle ?_, ?_, by simp⟩
  · intro selected hselected
    exact hsorted.sublist (Modifier.sublist_of_mem_select hselected)
  · rw [getD_settle, List.map_nil, List.append_nil]
    cases hselect : modifier.select dice with
    | none => exact List.nil_subperm
    | some selected => exact (Modifier.sublist_of_mem_select hselect).subperm

/-- Dice that are sorted together with a batch derive from them. -/
theorem of_ascending (dice : List Int) {counts : Int → Bool} {left wanted : Nat} {source : σ}
    {values : List Int} {after : Supply σ}
    (hbatch : drawUntil (dieRange sides) counts left wanted source = ⟨values, after, true⟩) :
    Derives σ sides dice (values.map (Draw.mk (dieRange sides)))
      (settle (some (ascending (dice ++ values)))) := by
  refine ⟨proper_settle ?_, ?_, ?_⟩
  · intro sorted hsorted
    cases hsorted
    exact ascending_pairwise _
  · have hvalues : (values.map (Draw.mk (dieRange sides))).map Draw.value = values := by
      simp [Function.comp_def]
    rw [getD_settle, hvalues]
    exact (ascending_perm _).subperm
  · intro draw hdraw
    obtain ⟨value, hvalue, rfl⟩ := List.mem_map.mp hdraw
    exact isDie_of_mem_drawUntil (by rw [hbatch]; exact hvalue)

end Derives

variable {supply after : Supply σ} {draws : List Draw} {events : List Event}

/-- One modifier keeps outcomes proper and accounted for. -/
theorem derives_of_apply {modifier : Modifier} {dice : List Int} {result : Outcome}
    (hsorted : dice.Pairwise (· ≤ ·))
    (h : modifier.apply sides dice supply = ⟨.ok result, after, draws, events⟩) :
    Derives σ sides dice draws (settle result) := by
  by_cases hkind : modifier.kind = .explode
  · obtain ⟨exploded, hexplode, rfl⟩ := (Modifier.apply_eq_ok_iff_of_explode hkind).mp h
    obtain ⟨-, added, hbatch, rfl, rfl, -⟩ := explode_eq_ok_iff.mp hexplode
    exact Derives.of_ascending dice hbatch
  · rw [Modifier.apply_eq_pure hkind, Play.pure_eq_ok_iff] at h
    obtain ⟨rfl, -, rfl, -⟩ := h
    exact Derives.of_select hsorted

/-- Any number of modifiers keep outcomes proper and accounted for. -/
theorem derives_of_applyModifiers {modifiers : List Modifier} {start outcome : Outcome}
    (hstart : start.Proper)
    (h : applyModifiers sides modifiers start supply = ⟨.ok outcome, after, draws, events⟩) :
    Derives σ sides (start.getD []) draws outcome := by
  induction modifiers generalizing start supply draws events with
  | nil =>
    rw [applyModifiers, Play.pure_eq_ok_iff] at h
    obtain ⟨rfl, -, rfl, -⟩ := h
    exact Derives.refl hstart
  | cons modifier modifiers ih =>
    cases start with
    | none =>
      rw [applyModifiers, Play.pure_eq_ok_iff] at h
      obtain ⟨rfl, -, rfl, -⟩ := h
      exact Derives.refl hstart
    | some dice =>
      obtain ⟨result, middle, draws₁, events₁, draws₂, events₂, hstep, hrest, rfl, -⟩ :=
        applyModifiers_cons_eq_ok_iff.mp h
      have hfirst := derives_of_apply (hstart dice rfl).2 hstep
      exact hfirst.trans (ih hfirst.proper hrest)

/-- The outcome of a roll is proper and accounted for by the draws of its run alone. -/
theorem derives_of_evaluate {settings : Settings} {roll : Roll} {outcome : Outcome}
    (h : evaluate settings roll supply = ⟨.ok outcome, after, draws, events⟩) :
    Derives σ roll.dice.sides [] draws outcome := by
  obtain ⟨-, dice, middle, draws₁, events₁, draws₂, events₂, hdice, hrest, rfl, -⟩ :=
    evaluate_eq_ok_iff.mp h
  obtain ⟨values, hbatch, rfl, rfl, -⟩ := rollDice_eq_ok_iff.mp hdice
  have hfirst : Derives σ roll.dice.sides [] _ (settle (some (ascending values))) :=
    Derives.of_ascending [] hbatch
  exact hfirst.trans (derives_of_applyModifiers hfirst.proper hrest)

/-- A roll is accepted only if its dice have sides. -/
theorem one_le_sides_of_accepted {settings : Settings} {roll : Roll}
    (h : roll.rejection? settings = none) : 1 ≤ roll.dice.sides := by
  rw [Roll.rejection?] at h
  split at h
  · cases h
  · rename_i hsides
    exact Int.not_lt.mp hsides

/-- Whatever the roll, the limits and the source, an outcome is nothing or at least one die in
ascending order. If every answer of the run lies in the range that was asked for, every die lies between
one and the number of sides. -/
theorem evaluate_proper (settings : Settings) (roll : Roll) (supply : Supply σ) (outcome : Outcome)
    (h : (evaluate settings roll supply).ending = .ok outcome) :
    (outcome = none ∨ ∃ dice, outcome = some dice ∧ dice ≠ [] ∧ dice.Pairwise (· ≤ ·)) ∧
    ((∀ draw ∈ (evaluate settings roll supply).draws, draw.InRange) →
      ∀ dice ∈ outcome, ∀ die ∈ dice, 1 ≤ die ∧ die ≤ roll.dice.sides) := by
  have hderives := derives_of_evaluate (Play.eq_of_ending_eq_ok h)
  refine ⟨?_, ?_⟩
  · cases outcome with
    | none => exact Or.inl rfl
    | some dice => exact Or.inr ⟨dice, rfl, hderives.proper dice rfl⟩
  · intro hrange dice hdice die hdie
    cases hdice
    have hdrawn := hderives.subperm.subset hdie
    rw [List.nil_append] at hdrawn
    obtain ⟨draw, hdraw, rfl⟩ := List.mem_map.mp hdrawn
    obtain ⟨source, rfl⟩ := hderives.isDie_of_mem draw hdraw
    exact hrange _ hdraw

/-- A run with an explosion and a negative count. -/
theorem evaluate_proper_script :
    (evaluate Settings.standard ⟨⟨3, 6⟩, [⟨.explode, 6⟩, ⟨.remove, -2⟩]⟩
      (⟨.script [6, 2, 5, 3], 4⟩ : Supply Generator)).ending = .ok (some [5, 6]) ∧
    ∀ dice ∈ (some [5, 6] : Outcome), ∀ die ∈ dice, 1 ≤ die ∧ die ≤ 6 := by
  have hrolled : rollDice ⟨3, 6⟩ (⟨.script [6, 2, 5, 3], 4⟩ : Supply Generator) =
      ⟨.ok [2, 5, 6], ⟨.script [3], 1⟩, [6, 2, 5].map (Draw.mk ⟨1, 6⟩), []⟩ := by
    cbv
  have hexploded : explode [2, 5, 6] 6 6 (⟨.script [3], 1⟩ : Supply Generator) =
      ⟨.ok [2, 3, 5, 6], ⟨.script [3], 0⟩, [3].map (Draw.mk ⟨1, 6⟩), [.exploded 6 1]⟩ := by
    cbv
  have hrun : evaluate Settings.standard ⟨⟨3, 6⟩, [⟨.explode, 6⟩, ⟨.remove, -2⟩]⟩
      (⟨.script [6, 2, 5, 3], 4⟩ : Supply Generator) = ⟨.ok (some [5, 6]), _, _, _⟩ :=
    evaluate_of_eq rfl hrolled (applyModifiers_explode_of_eq hexploded rfl)
  have hending := congrArg Record.ending hrun
  refine ⟨hending, (evaluate_proper _ _ _ _ hending).2 ?_⟩
  rw [hrun]
  decide

end Tabletop
