import Tabletop.Proofs.Rolling.Outcome
import Tabletop.Proofs.Rolling.Sequencing
import Tabletop.Proofs.Rolling.Window
import Tabletop.Rolling.Summary

/-!
# Complementary selections

The dice of an outcome ascend, so the lowest of them and the others divide it at one place. Whatever roll
the outcome comes from, one more selection cuts this outcome and draws nothing. So keeping some of the
highest dice and keeping as many of the lowest as there are others are two runs that share the dice
among them, and their summaries add up to that of the whole.
-/

namespace Tabletop

/-! ## Dice in two parts -/

/-- Dice in two parts are worth as much as both together. -/
theorem total_append (front back : List Int) : total (front ++ back) = total front + total back := by
  induction front with
  | nil => exact (Int.zero_add _).symm
  | cons die front ih =>
    change die + total (front ++ back) = die + total front + total back
    rw [ih, Int.add_assoc]

/-- Two summaries that together make a third one. -/
structure Summary.AddUpTo (lower upper whole : Summary) : Prop where
  kept : lower.kept ++ upper.kept = whole.kept
  total : lower.total + upper.total = whole.total
  successes : lower.successes + upper.successes = whole.successes
  failures : lower.failures + upper.failures = whole.failures

/-- The summaries of two outcomes add up to that of the outcome which they share. -/
theorem summarize_addUpTo {lower upper whole : Outcome}
    (h : lower.getD [] ++ upper.getD [] = whole.getD []) (successAt failureAt : Option Int) :
    (summarize lower successAt failureAt).AddUpTo (summarize upper successAt failureAt)
      (summarize whole successAt failureAt) where
  kept := h
  total := by
    simp only [summarize]
    rw [← h, total_append]
  successes := by
    simp only [summarize]
    rw [← h]
    cases successAt with
    | none => rfl
    | some bound => exact List.countP_append.symm
  failures := by
    simp only [summarize]
    rw [← h]
    cases failureAt with
    | none => rfl
    | some bound => exact List.countP_append.symm

/-- The lowest dice and the others, kept as the highest, are all dice. -/
theorem getD_keepLower_append_getD_keep (dice : List Int) (count : Nat) :
    (settle (some ((Cut.keepLower (dice.length - count)).kept dice))).getD [] ++
      (settle (some ((Cut.keep count).kept dice))).getD [] = dice := by
  rw [getD_settle, getD_settle]
  exact List.take_append_drop _ dice

/-- Removing some of the lowest dice keeps the others. -/
theorem kept_remove {dice : List Int} {count : Nat} (h : count ≤ dice.length) :
    (Cut.remove count).kept dice = (Cut.keep (dice.length - count)).kept dice := by
  rw [Cut.kept, Cut.kept, Nat.sub_sub_self h]

/-! ## One more selection -/

/-- A roll with one more modifier behind the others. -/
def Roll.followedBy (roll : Roll) (modifier : Modifier) : Roll :=
  ⟨roll.dice, roll.modifiers ++ [modifier]⟩

variable {σ : Type} [RandomSource σ] {settings : Settings} {roll : Roll} {supply : Supply σ}

/-- The step of a selection settles what it keeps and draws nothing. -/
theorem foldlM_step_modifier (cut : Cut) (sides : Int) (dice : List Int) (supply : Supply σ) :
    [cut.modifier].foldlM (Modifier.step sides) (some dice) supply =
      ⟨.ok (settle (some (cut.kept dice))), supply, [],
        [.applied cut.modifier (settle (some (cut.kept dice)))]⟩ := by
  have hplay : ([cut.modifier].foldlM (Modifier.step sides) (some dice) : Play σ Outcome) =
      Play.report (.applied cut.modifier (settle (some (cut.kept dice)))) >>= fun _ =>
        pure (settle (some (cut.kept dice))) := by
    simp only [List.foldlM_cons, List.foldlM_nil, Modifier.step,
      Modifier.apply_eq_pure cut.kind_modifier_ne_explode, pure_bind, bind_pure, cut.settle_select]
  exact congrFun hplay supply

/-- One more selection cuts the dice that a roll leaves, and draws nothing more. -/
theorem evaluate_followedBy {dice : List Int}
    (h : (evaluate settings roll supply).ending = .ok (some dice)) (cut : Cut) :
    let run := evaluate settings (roll.followedBy cut.modifier) supply
    run.ending = .ok (settle (some (cut.kept dice))) ∧
      run.draws = (evaluate settings roll supply).draws := by
  intro run
  have hpart := Play.eq_of_ending_eq_ok h
  have hmodifier : cut.modifier.isEndless = false := by
    rw [Modifier.isEndless, beq_false_of_ne cut.kind_modifier_ne_explode, Bool.false_and]
  have haccepted : (roll.followedBy cut.modifier).rejection? settings = none := by
    refine Roll.rejection?_append_eq_none_iff.mpr ⟨(evaluate_eq_ok_iff.mp hpart).1, ?_⟩
    exact List.forall_mem_singleton.mpr hmodifier
  have hrun : run = _ := evaluate_append_eq haccepted hpart (foldlM_step_modifier cut _ dice _)
  rw [hrun]
  exact ⟨rfl, List.append_nil _⟩

/-- Whatever roll leaves some dice, keeping the highest of them and keeping as many of the lowest as there
are others shares these dice among two outcomes. None of the lower dice is above one of the higher dice,
and the summaries of both add up to that of all the dice. Removing the lowest dice is keeping the others,
which leaves nothing if there are none. None of these selections draws anything. -/
theorem evaluate_shares_dice (settings : Settings) (roll : Roll) (supply : Supply σ) (dice : List Int)
    (count : Nat) (hdice : (evaluate settings roll supply).ending = .ok (some dice))
    (hcount : count ≤ dice.length) :
    let run := fun modifier => evaluate settings (roll.followedBy modifier) supply
    (∃ upper lower, (run ⟨.keep, count⟩).ending = .ok upper ∧
      (run ⟨.keepLower, (dice.length - count : Nat)⟩).ending = .ok lower ∧
      lower.getD [] ++ upper.getD [] = dice ∧
      (∀ low ∈ lower.getD [], ∀ high ∈ upper.getD [], low ≤ high) ∧
      ∀ successAt failureAt, (summarize lower successAt failureAt).AddUpTo
        (summarize upper successAt failureAt) (summarize (some dice) successAt failureAt)) ∧
    (∃ others, (run ⟨.remove, count⟩).ending = .ok others ∧
      (run ⟨.keep, (dice.length - count : Nat)⟩).ending = .ok others ∧
      (count = dice.length → others = none)) ∧
    ∀ cut : Cut, (run cut.modifier).draws = (evaluate settings roll supply).draws := by
  intro run
  have hrun (cut : Cut) : (run cut.modifier).ending = .ok (settle (some (cut.kept dice))) ∧
      (run cut.modifier).draws = (evaluate settings roll supply).draws :=
    evaluate_followedBy hdice cut
  have hsorted : dice.Pairwise (· ≤ ·) :=
    ((derives_of_evaluate (Play.eq_of_ending_eq_ok hdice)).proper dice rfl).2
  have hshared := getD_keepLower_append_getD_keep dice count
  refine ⟨⟨_, _, (hrun (.keep count)).1, (hrun (.keepLower (dice.length - count))).1, hshared, ?_,
    summarize_addUpTo hshared⟩, ⟨_, (hrun (.remove count)).1, ?_, ?_⟩, fun cut => (hrun cut).2⟩
  · rw [← hshared] at hsorted
    exact (List.pairwise_append.mp hsorted).2.2
  · rw [kept_remove hcount]
    exact (hrun (.keep (dice.length - count))).1
  · rintro rfl
    rw [Cut.kept, List.drop_length]
    rfl

/-- A roll with an explosion leaves four dice. The highest of them and the lowest three share the total of
fourteen, the two successes and the only failure, and nothing is left when four are removed. -/
theorem evaluate_shares_dice_script :
    let supply : Supply Generator := ⟨.script [6, 2, 1, 5], 20⟩
    let roll : Roll := ⟨⟨3, 6⟩, [⟨.explode, 6⟩]⟩
    (evaluate .standard roll supply).ending = .ok (some [1, 2, 5, 6]) ∧ 1 ≤ 4 ∧
    (∃ upper lower, (evaluate .standard (roll.followedBy ⟨.keep, 1⟩) supply).ending = .ok upper ∧
      (evaluate .standard (roll.followedBy ⟨.keepLower, 3⟩) supply).ending = .ok lower ∧
      lower.getD [] ++ upper.getD [] = [1, 2, 5, 6] ∧
      (summarize lower (some 5) (some 1)).total + (summarize upper (some 5) (some 1)).total = 14 ∧
      (summarize lower (some 5) (some 1)).successes +
        (summarize upper (some 5) (some 1)).successes = 2 ∧
      (summarize lower (some 5) (some 1)).failures +
        (summarize upper (some 5) (some 1)).failures = 1) ∧
    (evaluate .standard (roll.followedBy ⟨.remove, 4⟩) supply).ending = .ok none := by
  intro supply roll
  have hrolled : rollDice ⟨3, 6⟩ supply =
      ⟨.ok [1, 2, 6], ⟨.script [5], 17⟩, [6, 2, 1].map (Draw.mk ⟨1, 6⟩), []⟩ := by
    cbv
  have hexploded : explode [1, 2, 6] 6 6 (⟨.script [5], 17⟩ : Supply Generator) =
      ⟨.ok [1, 2, 5, 6], ⟨.script [5], 16⟩, [5].map (Draw.mk ⟨1, 6⟩), [.exploded 6 1]⟩ := by
    cbv
  have hdice : (evaluate .standard roll supply).ending = .ok (some [1, 2, 5, 6]) :=
    congrArg Record.ending (evaluate_of_eq rfl hrolled (applyModifiers_explode_of_eq hexploded rfl))
  obtain ⟨⟨upper, lower, hupper, hlower, hshared, -, hsummaries⟩, -⟩ :=
    evaluate_shares_dice .standard roll supply _ 1 hdice (by decide)
  obtain ⟨-, ⟨others, hremove, -, hothers⟩, -⟩ :=
    evaluate_shares_dice .standard roll supply _ 4 hdice (by decide)
  obtain ⟨-, htotal, hsuccesses, hfailures⟩ := hsummaries (some 5) (some 1)
  refine ⟨hdice, by decide, ⟨upper, lower, hupper, hlower, hshared, htotal, hsuccesses, hfailures⟩, ?_⟩
  rw [← hothers rfl]
  exact hremove

end Tabletop
