import Mathlib.Data.List.Forall2
import Tabletop.Proofs.Rolling.Window
import Tabletop.Rolling.Summary

/-!
# Better dice

If every base die is replaced by one that shows no less, then at each place of the sorted dice stands no
less either: a place reaches a threshold exactly if as many dice reach it as stand from this place on,
and better dice reach no threshold less often. A roll without explosions takes a window of the sorted
dice that does not depend on them, so its outcome gets no worse, and neither do total and successes.
-/

namespace Tabletop

variable {dice dice' : List Int}

/-! ## Dice that show no less -/

/-- Counting goes along with a relation of dice that takes each die that counts to one that counts. -/
theorem countP_le_of_forall₂ {related : Int → Int → Prop} {counts counts' : Int → Bool}
    (hcounts : ∀ die die', related die die' → counts die = true → counts' die' = true)
    (h : List.Forall₂ related dice dice') : dice.countP counts ≤ dice'.countP counts' := by
  induction h with
  | nil => exact Nat.le_refl _
  | cons hdie _ ih =>
    rw [List.countP_cons, List.countP_cons]
    refine Nat.add_le_add ih ?_
    split
    · rw [if_pos (hcounts _ _ hdie ‹_›)]
    · exact Nat.zero_le _

/-- Better dice reach a threshold no less often. -/
theorem reaching_le_reaching (h : List.Forall₂ (· ≤ ·) dice dice') (threshold : Int) :
    reaching threshold dice ≤ reaching threshold dice' := by
  refine countP_le_of_forall₂ (fun die die' hdie hreach => ?_) h
  exact decide_eq_true ((of_decide_eq_true hreach).trans hdie)

/-- Better dice stay at or below a bound no more often. -/
theorem countP_le_bound_le (h : List.Forall₂ (· ≤ ·) dice dice') (bound : Int) :
    (dice'.countP fun die => decide (die ≤ bound)) ≤ dice.countP fun die => decide (die ≤ bound) := by
  refine countP_le_of_forall₂ (fun die' die hdie hlow => ?_) h.flip
  exact decide_eq_true (le_trans hdie (of_decide_eq_true hlow))

/-- Better dice have no smaller total. -/
theorem total_le_total (h : List.Forall₂ (· ≤ ·) dice dice') : total dice ≤ total dice' := by
  induction h with
  | nil => exact le_rfl
  | cons hdie _ ih => exact Int.add_le_add hdie ih

/-- A place of ascending dice reaches a threshold exactly if as many dice do as stand from there on. -/
theorem le_getElem_iff (hsorted : dice.Pairwise (· ≤ ·)) (threshold : Int) {place : Nat}
    (hplace : place < dice.length) :
    threshold ≤ dice[place] ↔ dice.length - place ≤ reaching threshold dice := by
  induction dice generalizing place with
  | nil => exact absurd hplace (Nat.not_lt_zero place)
  | cons die dice ih =>
    obtain ⟨hlowest, hothers⟩ := List.pairwise_cons.mp hsorted
    by_cases hdie : threshold ≤ die
    · -- All dice reach what the lowest one reaches.
      have hall : ∀ other ∈ die :: dice, threshold ≤ other :=
        List.forall_mem_cons.mpr ⟨hdie, fun other hother => hdie.trans (hlowest other hother)⟩
      have hcount : reaching threshold (die :: dice) = (die :: dice).length :=
        List.countP_eq_length.mpr fun other hother => decide_eq_true (hall other hother)
      rw [hcount]
      exact iff_of_true (hall _ (List.getElem_mem hplace)) (Nat.sub_le _ _)
    · have hcount : reaching threshold (die :: dice) = reaching threshold dice :=
        List.countP_cons_of_neg (by simpa using hdie)
      rw [hcount, List.length_cons]
      cases place with
      | zero =>
        have hmost : reaching threshold dice ≤ dice.length := List.countP_le_length
        exact iff_of_false hdie (by omega)
      | succ place =>
        rw [List.getElem_cons_succ, ih hothers (Nat.lt_of_succ_lt_succ hplace), Nat.add_sub_add_right]

/-- Sorting better dice puts no less at each place. -/
theorem forall₂_ascending (h : List.Forall₂ (· ≤ ·) dice dice') :
    List.Forall₂ (· ≤ ·) (ascending dice) (ascending dice') := by
  have hlength : (ascending dice).length = (ascending dice').length :=
    (ascending_perm dice).length_eq.trans (h.length_eq.trans (ascending_perm dice').length_eq.symm)
  refine List.forall₂_iff_get.mpr ⟨hlength, fun place hplace hplace' => ?_⟩
  rw [List.get_eq_getElem, List.get_eq_getElem, le_getElem_iff (ascending_pairwise dice')]
  generalize hthreshold : (ascending dice)[place] = threshold
  calc
    (ascending dice').length - place = (ascending dice).length - place := by rw [hlength]
    _ ≤ reaching threshold (ascending dice) :=
      (le_getElem_iff (ascending_pairwise dice) threshold hplace).mp hthreshold.ge
    _ = reaching threshold dice := (ascending_perm dice).countP_eq _
    _ ≤ reaching threshold dice' := reaching_le_reaching h threshold
    _ = reaching threshold (ascending dice') := ((ascending_perm dice').countP_eq _).symm

/-! ## Outcomes that are no worse -/

/-- Nothing beside nothing, or equally many dice of which each is at most the one at its place. -/
def Outcome.AtMost (outcome outcome' : Outcome) : Prop :=
  Option.Rel (List.Forall₂ (· ≤ ·)) outcome outcome'

/-- The same window shows no less of better sorted dice. -/
theorem Window.atMost_outcome {size : Nat} (window : Window size)
    (h : List.Forall₂ (· ≤ ·) dice dice') : (window.outcome dice).AtMost (window.outcome dice') := by
  rw [Window.outcome, Window.outcome]
  split
  · rw [List.extract_eq_take_drop, List.extract_eq_take_drop]
    exact Option.Rel.some (List.forall₂_take _ (List.forall₂_drop _ h))
  · exact Option.Rel.none

/-- All dice of both outcomes, place by place. -/
theorem Outcome.AtMost.getD {outcome outcome' : Outcome} (h : outcome.AtMost outcome') :
    List.Forall₂ (· ≤ ·) (outcome.getD []) (outcome'.getD []) := by
  cases h with
  | some hdice => exact hdice
  | none => exact List.Forall₂.nil

/-- A better outcome has no smaller total, no fewer successes and no more failures. -/
theorem Outcome.AtMost.summarize {outcome outcome' : Outcome} (h : outcome.AtMost outcome')
    (successAt failureAt : Option Int) :
    let summary := Tabletop.summarize outcome successAt failureAt
    let summary' := Tabletop.summarize outcome' successAt failureAt
    summary.total ≤ summary'.total ∧ summary.successes ≤ summary'.successes ∧
      summary'.failures ≤ summary.failures := by
  refine ⟨total_le_total h.getD, ?_, ?_⟩
  · cases successAt with
    | none => exact Nat.le_refl 0
    | some bound => exact reaching_le_reaching h.getD bound
  · cases failureAt with
    | none => exact Nat.le_refl 0
    | some bound => exact countP_le_bound_le h.getD bound

/-! ## Rolls without explosions -/

variable {σ τ : Type} [RandomSource σ] [RandomSource τ]

/-- Without explosions better base dice give no worse outcome. If the answers of one source to the
requests for the base dice are at most those of another, one by one, then a roll is evaluated from both,
and either both leave nothing or both leave equally many dice, of which each is at most the one at its
place. So neither the total nor the successes get smaller, and the failures get no more. -/
theorem evaluate_monotone (settings : Settings) (dice : DiceTerm) (cuts : List Cut) (first : σ)
    (second : τ) (left left' : Nat)
    (haccepted : (Roll.mk dice (cuts.map Cut.modifier)).rejection? settings = none)
    (hanswers : List.Forall₂ (· ≤ ·) (answers ⟨1, dice.sides⟩ dice.count.toNat first)
      (answers ⟨1, dice.sides⟩ dice.count.toNat second)) :
    ∃ outcome outcome',
      (evaluate settings ⟨dice, cuts.map Cut.modifier⟩ ⟨first, dice.count.toNat + left⟩).ending =
        .ok outcome ∧
      (evaluate settings ⟨dice, cuts.map Cut.modifier⟩ ⟨second, dice.count.toNat + left'⟩).ending =
        .ok outcome' ∧
      outcome.AtMost outcome' ∧
      ∀ successAt failureAt,
        let summary := summarize outcome successAt failureAt
        let summary' := summarize outcome' successAt failureAt
        summary.total ≤ summary'.total ∧ summary.successes ≤ summary'.successes ∧
          summary'.failures ≤ summary.failures := by
  obtain ⟨_, _, hfirst⟩ := exists_evaluate_toNat_eq haccepted first left
  obtain ⟨_, _, hsecond⟩ := exists_evaluate_toNat_eq haccepted second left'
  have hatMost := (cuts.foldl Window.narrow (Window.full dice.count.toNat)).atMost_outcome
    (forall₂_ascending hanswers)
  exact ⟨_, _, congrArg Record.ending hfirst, congrArg Record.ending hsecond, hatMost,
    hatMost.summarize⟩

/-- Each of four dice shows no less in the second script, so no less is left at either of two places. -/
theorem evaluate_monotone_scripts :
    let cuts : List Cut := [.keep 3, .remove 1]
    let roll : Roll := ⟨⟨4, 6⟩, cuts.map Cut.modifier⟩
    roll.rejection? .standard = none ∧
    List.Forall₂ (· ≤ ·) (answers ⟨1, 6⟩ 4 (Generator.script [3, 6, 1, 4]))
      (answers ⟨1, 6⟩ 4 (Generator.script [5, 6, 4, 4])) ∧
    (evaluate .standard roll (⟨.script [3, 6, 1, 4], 4⟩ : Supply Generator)).ending =
      .ok (some [4, 6]) ∧
    ∃ better, (evaluate .standard roll (⟨.script [5, 6, 4, 4], 4⟩ : Supply Generator)).ending =
      .ok better ∧ Outcome.AtMost (some [4, 6]) better ∧ 10 ≤ (summarize better none none).total := by
  intro cuts roll
  have hanswers : List.Forall₂ (· ≤ ·) (answers ⟨1, 6⟩ 4 (Generator.script [3, 6, 1, 4]))
      (answers ⟨1, 6⟩ 4 (Generator.script [5, 6, 4, 4])) := by decide
  have hrolled : rollDice ⟨4, 6⟩ (⟨.script [3, 6, 1, 4], 4⟩ : Supply Generator) =
      ⟨.ok [1, 3, 4, 6], ⟨.script [4], 0⟩, [3, 6, 1, 4].map (Draw.mk ⟨1, 6⟩), []⟩ := by
    cbv
  have hending : (evaluate .standard roll (⟨.script [3, 6, 1, 4], 4⟩ : Supply Generator)).ending =
      .ok (some [4, 6]) := congrArg Record.ending (evaluate_of_eq rfl hrolled rfl)
  obtain ⟨outcome, better, houtcome, hbetter, hatMost, hsummaries⟩ :=
    evaluate_monotone .standard ⟨4, 6⟩ cuts (Generator.script [3, 6, 1, 4])
      (Generator.script [5, 6, 4, 4]) 0 0 rfl hanswers
  obtain rfl : outcome = some [4, 6] := Except.ok.inj (houtcome.symm.trans hending)
  exact ⟨rfl, hanswers, hending, better, hbetter, hatMost, (hsummaries none none).1⟩

end Tabletop
