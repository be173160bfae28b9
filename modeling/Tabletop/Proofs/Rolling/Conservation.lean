import Mathlib.Algebra.GroupWithZero.Nat
import Tabletop.Proofs.Rolling.History
import Tabletop.Proofs.Rolling.Outcome

/-!
# Conservation of dice

Every die of a completed run was drawn in it, and no draw counts twice. The base roll draws as many
dice as the roll asks for, an explosion draws exactly the dice that it adds, and selections draw
nothing. Without selections nothing is dropped either, so the outcome consists of all draws.
-/

namespace Tabletop

/-! ## Sorted dice -/

/-- The same dice have one ascending order. -/
theorem ascending_eq_of_perm {dice dice' : List Int} (h : dice.Perm dice') :
    ascending dice = ascending dice' :=
  ((ascending_perm dice).trans (h.trans (ascending_perm dice').symm)).eq_of_pairwise
    (fun _ _ _ _ => le_antisymm) (ascending_pairwise dice) (ascending_pairwise dice')

/-- Ascending dice are their own ascending order. -/
theorem ascending_of_pairwise {dice : List Int} (h : dice.Pairwise (· ≤ ·)) :
    ascending dice = dice :=
  (ascending_perm dice).eq_of_pairwise (fun _ _ _ _ => le_antisymm) (ascending_pairwise dice) h

/-- Sorting some of the dice beforehand makes no difference. -/
theorem ascending_ascending_append (dice added : List Int) :
    ascending (ascending dice ++ added) = ascending (dice ++ added) :=
  ascending_eq_of_perm ((ascending_perm dice).append_right added)

/-- Values keep their order among the draws of one range. -/
theorem map_value_map_mk (range : Range) (values : List Int) :
    (values.map (Draw.mk range)).map Draw.value = values := by
  rw [List.map_map]
  exact List.map_id values

/-! ## Counting -/

/-- The number of dice that a step adds. Only an explosion adds dice. -/
def Step.added (step : Step) : Nat :=
  if step.modifier.kind = .explode then (step.after.getD []).length - step.before.length else 0

variable {σ : Type} [RandomSource σ] {sides : Int} {supply after : Supply σ} {draws : List Draw}
  {events : List Event}

/-- An explosion leaves the dice that it found together with its draws, in ascending order. -/
theorem getD_of_apply_explode {modifier : Modifier} (hkind : modifier.kind = .explode)
    {dice : List Int} {result : Outcome}
    (h : modifier.apply sides dice supply = ⟨.ok result, after, draws, events⟩) :
    (settle result).getD [] = ascending (dice ++ draws.map Draw.value) := by
  obtain ⟨exploded, hexplode, rfl⟩ := (Modifier.apply_eq_ok_iff_of_explode hkind).mp h
  obtain ⟨-, added, -, rfl, rfl, -⟩ := explode_eq_ok_iff.mp hexplode
  rw [getD_settle, map_value_map_mk]
  rfl

/-- A step adds as many dice as it draws. -/
theorem length_draws_of_apply {modifier : Modifier} {dice : List Int} {result : Outcome}
    (h : modifier.apply sides dice supply = ⟨.ok result, after, draws, events⟩) :
    draws.length = (Step.mk modifier dice (settle result)).added := by
  rw [Step.added]
  split
  · rename_i hkind
    rw [getD_of_apply_explode hkind h, (ascending_perm _).length_eq, List.length_append,
      List.length_map, Nat.add_sub_cancel_left]
  · rename_i hkind
    rw [Modifier.apply_eq_pure hkind, Play.pure_eq_ok_iff] at h
    obtain ⟨-, -, rfl, -⟩ := h
    rfl

/-- Applying modifiers draws as many dice as their steps add. -/
theorem length_draws_of_applyModifiers {modifiers : List Modifier} {start outcome : Outcome}
    (h : applyModifiers sides modifiers start supply = ⟨.ok outcome, after, draws, events⟩) :
    draws.length = ((stepsFrom sides modifiers start supply).map Step.added).sum := by
  induction modifiers generalizing start supply draws events with
  | nil =>
    rw [applyModifiers, Play.pure_eq_ok_iff] at h
    obtain ⟨-, -, rfl, -⟩ := h
    rfl
  | cons modifier modifiers ih =>
    cases start with
    | none =>
      rw [applyModifiers, Play.pure_eq_ok_iff] at h
      obtain ⟨-, -, rfl, -⟩ := h
      rfl
    | some dice =>
      obtain ⟨result, middle, draws₁, events₁, draws₂, events₂, hstep, hrest, rfl, -⟩ :=
        applyModifiers_cons_eq_ok_iff.mp h
      rw [stepsFrom_cons hstep, List.map_cons, List.sum_cons, List.length_append,
        length_draws_of_apply hstep, ih hrest]

/-- A completed run draws its base dice and then what its steps add. -/
theorem length_draws_of_evaluate {settings : Settings} {roll : Roll} {outcome : Outcome}
    (h : evaluate settings roll supply = ⟨.ok outcome, after, draws, events⟩) :
    draws.length = roll.dice.count.toNat + ((roll.steps supply).map Step.added).sum := by
  obtain ⟨-, dice, middle, draws₁, events₁, draws₂, events₂, hdice, hrest, rfl, -⟩ :=
    evaluate_eq_ok_iff.mp h
  obtain ⟨values, hbatch, -, rfl, -⟩ := rollDice_eq_ok_iff.mp hdice
  have hvalues : values.length = roll.dice.count.toNat := by
    have hcount := countP_of_drawUntil (congrArg Batch.complete hbatch)
    rwa [hbatch, List.countP_true] at hcount
  rw [roll.steps_eq hdice, List.length_append, List.length_map, hvalues,
    length_draws_of_applyModifiers hrest]

/-! ## Explosions alone -/

/-- Explosions keep all dice that they find and all that they draw. -/
theorem getD_of_explosions {modifiers : List Modifier} {start outcome : Outcome}
    (hmodifiers : ∀ modifier ∈ modifiers, modifier.kind = .explode)
    (hstart : (start.getD []).Pairwise (· ≤ ·))
    (h : applyModifiers sides modifiers start supply = ⟨.ok outcome, after, draws, events⟩) :
    outcome.getD [] = ascending (start.getD [] ++ draws.map Draw.value) := by
  induction modifiers generalizing start supply draws events with
  | nil =>
    rw [applyModifiers, Play.pure_eq_ok_iff] at h
    obtain ⟨rfl, -, rfl, -⟩ := h
    rw [List.map_nil, List.append_nil, ascending_of_pairwise hstart]
  | cons modifier modifiers ih =>
    cases start with
    | none =>
      rw [applyModifiers, Play.pure_eq_ok_iff] at h
      obtain ⟨rfl, -, rfl, -⟩ := h
      rw [List.map_nil, List.append_nil, ascending_of_pairwise hstart]
    | some dice =>
      obtain ⟨result, middle, draws₁, events₁, draws₂, events₂, hstep, hrest, rfl, -⟩ :=
        applyModifiers_cons_eq_ok_iff.mp h
      have hfirst := getD_of_apply_explode (hmodifiers modifier List.mem_cons_self) hstep
      have hsorted : ((settle result).getD []).Pairwise (· ≤ ·) := by
        rw [hfirst]
        exact ascending_pairwise _
      rw [ih (fun other hother => hmodifiers other (List.mem_cons_of_mem _ hother)) hsorted hrest,
        hfirst, ascending_ascending_append, List.map_append, List.append_assoc, Option.getD_some]

/-- Without selections the outcome is made of all draws. -/
theorem getD_of_evaluate_explosions {settings : Settings} {roll : Roll} {outcome : Outcome}
    (hmodifiers : ∀ modifier ∈ roll.modifiers, modifier.kind = .explode)
    (h : evaluate settings roll supply = ⟨.ok outcome, after, draws, events⟩) :
    outcome.getD [] = ascending (draws.map Draw.value) := by
  obtain ⟨-, dice, middle, draws₁, events₁, draws₂, events₂, hdice, hrest, rfl, -⟩ :=
    evaluate_eq_ok_iff.mp h
  obtain ⟨values, -, rfl, rfl, -⟩ := rollDice_eq_ok_iff.mp hdice
  have hstart : (settle (some (ascending values))).getD [] = ascending values := getD_settle _
  have hsorted : ((settle (some (ascending values))).getD []).Pairwise (· ≤ ·) := by
    rw [hstart]
    exact ascending_pairwise values
  rw [getD_of_explosions hmodifiers hsorted hrest, hstart, ascending_ascending_append,
    List.map_append, map_value_map_mk]

/-- In a run that ends with an outcome every request is for one die of the roll and the values drawn
are the first answers of the source. There are as many as the roll asks for and its explosions add.
The outcome consists of some of these values, each taken at most once, and without selections of all
of them. -/
theorem evaluate_conserves_dice (settings : Settings) (roll : Roll) (supply : Supply σ)
    (outcome : Outcome) (h : (evaluate settings roll supply).ending = .ok outcome) :
    let draws := (evaluate settings roll supply).draws
    let values := draws.map Draw.value
    (∀ draw ∈ draws, draw.range = ⟨1, roll.dice.sides⟩) ∧
    values = answers ⟨1, roll.dice.sides⟩ draws.length supply.source ∧
    draws.length = roll.dice.count.toNat + ((roll.steps supply).map Step.added).sum ∧
    (outcome.getD []).Subperm values ∧
    ((∀ modifier ∈ roll.modifiers, modifier.kind = .explode) →
      outcome.getD [] = ascending values) := by
  intro draws values
  have hrecord := Play.eq_of_ending_eq_ok h
  have hgives := asksOnly_evaluate settings roll supply
  refine ⟨hgives.range_eq, hgives.values_eq, length_draws_of_evaluate hrecord,
    (derives_of_evaluate hrecord).subperm, fun hexplosions => ?_⟩
  exact getD_of_evaluate_explosions hexplosions hrecord

/-- Two explosions add one and two dice to three, and all six make the outcome. -/
theorem evaluate_conserves_dice_script :
    let roll : Roll := ⟨⟨3, 6⟩, [⟨.explode, 6⟩, ⟨.explode, 5⟩]⟩
    let supply : Supply Generator := ⟨.script [6, 2, 5, 3, 4, 1], 20⟩
    (evaluate .standard roll supply).ending = .ok (some [1, 2, 3, 4, 5, 6]) ∧
    (roll.steps supply).map Step.added = [1, 2] ∧
    (evaluate .standard roll supply).draws.length = 3 + (1 + 2) ∧
    [1, 2, 3, 4, 5, 6] = ascending ((evaluate .standard roll supply).draws.map Draw.value) := by
  intro roll supply
  have hrolled : rollDice ⟨3, 6⟩ supply =
      ⟨.ok [2, 5, 6], ⟨.script [3, 4, 1], 17⟩, [6, 2, 5].map (Draw.mk ⟨1, 6⟩), []⟩ := by
    cbv
  have hfirst : explode [2, 5, 6] 6 6 (⟨.script [3, 4, 1], 17⟩ : Supply Generator) =
      ⟨.ok [2, 3, 5, 6], ⟨.script [4, 1], 16⟩, [3].map (Draw.mk ⟨1, 6⟩), [.exploded 6 1]⟩ := by
    cbv
  have hsecond : explode [2, 3, 5, 6] 5 6 (⟨.script [4, 1], 16⟩ : Supply Generator) =
      ⟨.ok [1, 2, 3, 4, 5, 6], ⟨.script [1], 14⟩, [4, 1].map (Draw.mk ⟨1, 6⟩), [.exploded 5 2]⟩ := by
    cbv
  have hending : (evaluate .standard roll supply).ending = .ok (some [1, 2, 3, 4, 5, 6]) :=
    congrArg Record.ending (evaluate_of_eq rfl hrolled
      (applyModifiers_explode_of_eq hfirst (applyModifiers_explode_of_eq hsecond rfl)))
  have hadded : (roll.steps supply).map Step.added = [1, 2] := by cbv
  obtain ⟨-, -, hlength, -, hall⟩ := evaluate_conserves_dice .standard roll supply _ hending
  rw [hadded] at hlength
  exact ⟨hending, hadded, hlength, hall (by decide)⟩

end Tabletop
