import Tabletop.Proofs.Rolling.Chains
import Tabletop.Proofs.Rolling.Outcome
import Tabletop.Proofs.Rolling.Sequencing

/-!
# Deleting modifiers without effect

Removing no dice, exploding above the sides of the dice and keeping at least as many dice as there are
change nothing. For the explosion this rests on what holds of every outcome on the way: its dice ascend,
so sorting them again changes nothing, and none of them has more than the sides of the dice if the source
keeps to its range. The step of such a modifier only reports, so the modifier can be deleted wherever it
stands among the others.
-/

namespace Tabletop

/-- A modifier that has no effect on an outcome, given the number of sides of the dice. -/
inductive Modifier.Ineffective (sides : Int) (outcome : Outcome) : Modifier → Prop
  /-- No dice are removed. -/
  | remove : Ineffective sides outcome ⟨.remove, 0⟩
  /-- The threshold is out of reach for every die. -/
  | explode {threshold : Int} (h : sides < threshold) : Ineffective sides outcome ⟨.explode, threshold⟩
  /-- All dice are among the highest that are kept. -/
  | keep {count : Int} (h : (outcome.getD []).length ≤ count) : Ineffective sides outcome ⟨.keep, count⟩
  /-- All dice are among the lowest that are kept. -/
  | keepLower {count : Int} (h : (outcome.getD []).length ≤ count) :
    Ineffective sides outcome ⟨.keepLower, count⟩

/-! ## Without effect on some dice -/

section Dice

variable {σ : Type} [RandomSource σ] {dice : List Int} {count : Int}

/-- Removing no dice leaves all of them, if there are any. -/
theorem remove_zero (h : dice ≠ []) : remove dice 0 = some dice := by
  have hlength := List.length_pos_of_ne_nil h
  rw [remove, if_neg (by omega)]
  rfl

/-- Keeping at least as many of the highest dice as there are keeps all of them. -/
theorem keep_of_length_le (h : dice.length ≤ count) : keep dice count = dice := by
  rw [keep, if_neg (not_lt.mpr h)]

/-- Keeping at least as many of the lowest dice as there are keeps all of them. -/
theorem keepLower_of_length_le (h : dice.length ≤ count) : keepLower dice count = dice := by
  rw [keepLower, if_neg (not_lt.mpr h)]

/-- Dice that are all below the threshold do not explode, and if they ascend they stay in place. -/
theorem explode_of_lt {threshold : Int} (hthreshold : isEndless threshold = false)
    (hbelow : ∀ die ∈ dice, die < threshold) (hsorted : dice.Pairwise (· ≤ ·)) (sides : Int) :
    (explode dice threshold sides : Play σ (List Int)) = pure dice := by
  have hnone : reaching threshold dice = 0 := by
    rw [reaching, List.countP_eq_zero]
    intro die hdie
    rw [decide_eq_true_eq, not_le]
    exact hbelow die hdie
  rw [explode, hthreshold, hnone, Play.drawBatch_zero, pure_bind]
  simp only [Bool.false_eq_true, ↓reduceIte, ne_eq, not_true_eq_false, List.append_nil,
    ascending_of_pairwise hsorted]

end Dice

variable {σ : Type} [RandomSource σ] {sides : Int} {modifier : Modifier}

/-- No die of an outcome has more than the sides of the dice if all draws that it derives from keep to
their range. -/
theorem Derives.le_sides {draws : List Draw} {outcome : Outcome}
    (h : Derives σ sides [] draws outcome) (hrange : ∀ draw ∈ draws, draw.InRange) :
    ∀ dice ∈ outcome, ∀ die ∈ dice, die ≤ sides := by
  intro dice hdice die hdie
  cases hdice
  obtain ⟨draw, hdraw, rfl⟩ := List.mem_map.mp (h.subperm.subset hdie)
  obtain ⟨source, rfl⟩ := h.isDie_of_mem draw hdraw
  exact (hrange _ hdraw).2

/-- Without effect a modifier leaves the dice of an outcome as they are and draws none. -/
theorem Modifier.Ineffective.apply_eq_pure {dice : List Int}
    (h : modifier.Ineffective sides (some dice)) (hsides : 1 ≤ sides) (hdice : dice ≠ [])
    (hsorted : dice.Pairwise (· ≤ ·)) (hle : ∀ die ∈ dice, die ≤ sides) :
    (modifier.apply sides dice : Play σ Outcome) = pure (some dice) := by
  cases h with
  | remove =>
    change (pure (Tabletop.remove dice 0) : Play σ Outcome) = _
    rw [remove_zero hdice]
  | @explode threshold hthreshold =>
    have hendless : Tabletop.isEndless threshold = false := decide_eq_false (by omega)
    have hbelow : ∀ die ∈ dice, die < threshold := fun die hdie => (hle die hdie).trans_lt hthreshold
    change (Tabletop.explode dice threshold sides >>= fun exploded => pure (some exploded)) = _
    rw [explode_of_lt hendless hbelow hsorted, pure_bind]
  | @keep count hcount =>
    have hkept : Tabletop.keep dice count = dice := keep_of_length_le hcount
    change (pure (some (Tabletop.keep dice count)) : Play σ Outcome) = _
    rw [hkept]
  | @keepLower count hcount =>
    have hkept : Tabletop.keepLower dice count = dice := keepLower_of_length_le hcount
    change (pure (some (Tabletop.keepLower dice count)) : Play σ Outcome) = _
    rw [hkept]

/-- Without effect a step ends with the outcome that it found, and draws nothing. -/
theorem Modifier.Ineffective.exists_step_eq {outcome : Outcome}
    (h : modifier.Ineffective sides outcome) (hsides : 1 ≤ sides) (hproper : outcome.Proper)
    (hle : ∀ dice ∈ outcome, ∀ die ∈ dice, die ≤ sides) (supply : Supply σ) :
    ∃ events, modifier.step sides outcome supply = ⟨.ok outcome, supply, [], events⟩ := by
  cases outcome with
  | none => exact ⟨[], rfl⟩
  | some dice =>
    obtain ⟨hdice, hsorted⟩ := hproper dice rfl
    have hsettle : settle (some dice) = some dice := by
      cases dice with
      | nil => exact absurd rfl hdice
      | cons die dice => rfl
    refine ⟨[.applied modifier (some dice)], ?_⟩
    rw [Modifier.step, h.apply_eq_pure hsides hdice hsorted (hle dice rfl), pure_bind, hsettle]
    rfl

/-! ## Without effect in a roll -/

variable {settings : Settings} {dice : DiceTerm} {first second : List Modifier}

/-- A roll stays accepted without one of its modifiers. -/
theorem Roll.rejection?_delete
    (h : (Roll.mk dice (first ++ modifier :: second)).rejection? settings = none) :
    (Roll.mk dice (first ++ second)).rejection? settings = none := by
  obtain ⟨hfirst, hothers⟩ := Roll.rejection?_append_eq_none_iff.mp h
  exact Roll.rejection?_append_eq_none_iff.mpr
    ⟨hfirst, fun other hother => hothers other (List.mem_cons_of_mem modifier hother)⟩

/-- A modifier without effect can be deleted anywhere among the modifiers of an accepted roll, if the
source keeps to its range in the run with the modifiers in front of it: if it removes no dice, explodes
above the sides of the dice, or keeps at least as many dice as those modifiers leave. The roll is still
accepted without it, and its run ends alike, with the same outcome if it ends with one, after the same
draws and with the same supply left. -/
theorem evaluate_delete (settings : Settings) (dice : DiceTerm) (first second : List Modifier)
    (modifier : Modifier) (supply : Supply σ)
    (haccepted : (Roll.mk dice (first ++ modifier :: second)).rejection? settings = none)
    (hrange : ∀ draw ∈ (evaluate settings ⟨dice, first⟩ supply).draws, draw.InRange)
    (hineffective : ∀ outcome, (evaluate settings ⟨dice, first⟩ supply).ending = .ok outcome →
      modifier.Ineffective dice.sides outcome) :
    let whole := evaluate settings ⟨dice, first ++ modifier :: second⟩ supply
    let others := evaluate settings ⟨dice, first ++ second⟩ supply
    (Roll.mk dice (first ++ second)).rejection? settings = none ∧
      others.ending = whole.ending ∧ others.draws = whole.draws ∧ others.supply = whole.supply := by
  intro whole others
  have hdeleted := Roll.rejection?_delete haccepted
  refine ⟨hdeleted, ?_⟩
  cases hpart : (evaluate settings ⟨dice, first⟩ supply).ending with
  | error failure =>
    have hwhole : whole = _ :=
      (congrFun (evaluate_append_eq_bind haccepted) supply).trans (Play.bind_apply_of_error hpart)
    have hothers : others = _ :=
      (congrFun (evaluate_append_eq_bind hdeleted) supply).trans (Play.bind_apply_of_error hpart)
    rw [hothers, hwhole]
    exact ⟨rfl, rfl, rfl⟩
  | ok outcome =>
    have hfirst := Play.eq_of_ending_eq_ok hpart
    have hsides : 1 ≤ dice.sides := one_le_sides_of_accepted haccepted
    have hderives := derives_of_evaluate hfirst
    obtain ⟨events, hstep⟩ := (hineffective outcome hpart).exists_step_eq hsides hderives.proper
      (hderives.le_sides hrange) (evaluate settings ⟨dice, first⟩ supply).supply
    have hothers : others = _ := evaluate_append_eq hdeleted hfirst rfl
    have hwhole : whole = _ := evaluate_append_eq haccepted hfirst (Play.bind_apply_of_eq hstep)
    rw [hothers, hwhole]
    exact ⟨rfl, rfl, rfl⟩

/-- Three dice explode to four. Between this explosion and the highest two dice that are kept, neither
keeping four dice nor exploding above six makes a difference. -/
theorem evaluate_delete_script :
    let supply : Supply Generator := ⟨.script [6, 2, 1, 5], 20⟩
    let others := evaluate .standard ⟨⟨3, 6⟩, [⟨.explode, 6⟩] ++ [⟨.keep, 2⟩]⟩ supply
    (∀ draw ∈ (evaluate .standard ⟨⟨3, 6⟩, [⟨.explode, 6⟩]⟩ supply).draws, draw.InRange) ∧
    others.ending = .ok (some [5, 6]) ∧
    (∀ modifier ∈ [⟨.keepLower, 4⟩, ⟨.explode, 7⟩],
      let roll : Roll := ⟨⟨3, 6⟩, [⟨.explode, 6⟩] ++ modifier :: [⟨.keep, 2⟩]⟩
      roll.rejection? .standard = none ∧
        (∀ outcome, (evaluate .standard ⟨⟨3, 6⟩, [⟨.explode, 6⟩]⟩ supply).ending = .ok outcome →
          modifier.Ineffective 6 outcome) ∧
        (evaluate .standard roll supply).ending = .ok (some [5, 6]) ∧
        (evaluate .standard roll supply).draws = others.draws) := by
  intro supply others
  have hrolled : rollDice ⟨3, 6⟩ supply =
      ⟨.ok [1, 2, 6], ⟨.script [5], 17⟩, [6, 2, 1].map (Draw.mk ⟨1, 6⟩), []⟩ := by
    cbv
  have hexploded : explode [1, 2, 6] 6 6 (⟨.script [5], 17⟩ : Supply Generator) =
      ⟨.ok [1, 2, 5, 6], ⟨.script [5], 16⟩, [5].map (Draw.mk ⟨1, 6⟩), [.exploded 6 1]⟩ := by
    cbv
  have hpart : evaluate .standard ⟨⟨3, 6⟩, [⟨.explode, 6⟩]⟩ supply = ⟨.ok (some [1, 2, 5, 6]), _, _, _⟩ :=
    evaluate_of_eq rfl hrolled (applyModifiers_explode_of_eq hexploded rfl)
  have hrange : ∀ draw ∈ (evaluate .standard ⟨⟨3, 6⟩, [⟨.explode, 6⟩]⟩ supply).draws, draw.InRange := by
    rw [hpart]
    decide
  have hothers : others.ending = .ok (some [5, 6]) :=
    congrArg Record.ending (evaluate_of_eq rfl hrolled (applyModifiers_explode_of_eq hexploded rfl))
  refine ⟨hrange, hothers, ?_⟩
  intro modifier hmodifier roll
  have haccepted : roll.rejection? .standard = none := by
    rcases List.mem_pair.mp hmodifier with rfl | rfl <;> rfl
  have hineffective : ∀ outcome,
      (evaluate .standard ⟨⟨3, 6⟩, [⟨.explode, 6⟩]⟩ supply).ending = .ok outcome →
        modifier.Ineffective 6 outcome := by
    intro outcome houtcome
    obtain rfl : some [1, 2, 5, 6] = outcome := Except.ok.inj (hpart ▸ houtcome)
    rcases List.mem_pair.mp hmodifier with rfl | rfl
    · exact .keepLower (by decide)
    · exact .explode (by decide)
  obtain ⟨-, hending, hsame, -⟩ := evaluate_delete .standard ⟨3, 6⟩ [⟨.explode, 6⟩] [⟨.keep, 2⟩]
    modifier supply haccepted hrange hineffective
  exact ⟨haccepted, hineffective, hending.symm.trans hothers, hsame.symm⟩

end Tabletop
