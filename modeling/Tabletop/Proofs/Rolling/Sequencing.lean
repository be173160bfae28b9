import Mathlib.Data.List.Infix
import Tabletop.Proofs.Rolling.Composition

/-!
# Evaluation in parts

The modifiers of a roll are steps in a row. A step leaves an outcome without dice as it is, and
otherwise applies its modifier, settles what comes of it and reports it. Applying modifiers takes all
of their steps, although it looks at no further modifier once no dice remain. So the modifiers of a
roll may be split at any place: the roll is evaluated with those in front of it, and the steps of the
others follow from the outcome and the supply that are left there.
-/

namespace Tabletop

variable {σ : Type} [RandomSource σ]

/-! ## Steps in a row -/

/-- Take one step from an outcome, given the number of sides for further dice. -/
def Modifier.step (sides : Int) (outcome : Outcome) (modifier : Modifier) : Play σ Outcome :=
  match outcome with
  | none => return none
  | some dice => do
    let settled := settle (← modifier.apply sides dice)
    Play.report (.applied modifier settled)
    return settled

/-- Without dice every step leaves the outcome as it is. -/
theorem foldlM_step_none (sides : Int) (modifiers : List Modifier) :
    (modifiers.foldlM (Modifier.step sides) none : Play σ Outcome) = pure none := by
  induction modifiers with
  | nil => rfl
  | cons modifier modifiers ih => rw [List.foldlM_cons, Modifier.step, pure_bind, ih]

/-- Applying modifiers takes their steps from the first to the last. -/
theorem applyModifiers_eq_foldlM (sides : Int) (modifiers : List Modifier) :
    (applyModifiers sides modifiers : Outcome → Play σ Outcome) =
      modifiers.foldlM (Modifier.step sides) := by
  funext outcome
  induction modifiers generalizing outcome with
  | nil => rfl
  | cons modifier modifiers ih =>
    cases outcome with
    | none =>
      -- The modifiers are not looked at any more, while the fold goes on without effect.
      rw [applyModifiers_none, foldlM_step_none]
    | some dice =>
      rw [applyModifiers, List.foldlM_cons, Modifier.step]
      simp only [bind_assoc, pure_bind, ih]

/-- Modifiers behind others are applied to what those leave. -/
theorem applyModifiers_append (sides : Int) (first second : List Modifier) (outcome : Outcome) :
    (applyModifiers sides (first ++ second) outcome : Play σ Outcome) =
      applyModifiers sides first outcome >>= applyModifiers sides second := by
  simp only [applyModifiers_eq_foldlM, List.foldlM_append]

/-! ## Rolls with more modifiers -/

/-- A roll with more modifiers is accepted exactly if it is accepted without them and none of them is an
endless explosion. -/
theorem Roll.rejection?_append_eq_none_iff {settings : Settings} {dice : DiceTerm}
    {first second : List Modifier} :
    (Roll.mk dice (first ++ second)).rejection? settings = none ↔
      (Roll.mk dice first).rejection? settings = none ∧
        ∀ modifier ∈ second, modifier.isEndless = false := by
  simp only [Roll.rejection?]
  split
  · simp
  · split
    · simp
    · split
      · simp
      · simp only [Option.map_eq_none_iff, List.find?_append, Option.or_eq_none_iff,
          List.find?_eq_none, Bool.not_eq_true]

/-- An accepted roll is evaluated with its first modifiers, and then the steps of the others follow. -/
theorem evaluate_append_eq_bind {settings : Settings} {dice : DiceTerm} {first second : List Modifier}
    (haccepted : (Roll.mk dice (first ++ second)).rejection? settings = none) :
    (evaluate settings ⟨dice, first ++ second⟩ : Play σ Outcome) =
      evaluate settings ⟨dice, first⟩ >>= second.foldlM (Modifier.step dice.sides) := by
  obtain ⟨hfirst, -⟩ := Roll.rejection?_append_eq_none_iff.mp haccepted
  rw [← applyModifiers_eq_foldlM]
  simp only [evaluate, haccepted, hfirst, applyModifiers_append, bind_assoc]

/-- Where the run with the first modifiers ends with an outcome, the steps of the others follow from this
outcome and from the supply that is left. -/
theorem evaluate_append_eq {settings : Settings} {dice : DiceTerm} {first second : List Modifier}
    {supply middle after : Supply σ} {outcome : Outcome} {ending : Except Failure Outcome}
    {draws draws' : List Draw} {events events' : List Event}
    (haccepted : (Roll.mk dice (first ++ second)).rejection? settings = none)
    (hfirst : evaluate settings ⟨dice, first⟩ supply = ⟨.ok outcome, middle, draws, events⟩)
    (hsecond : second.foldlM (Modifier.step dice.sides) outcome middle =
      ⟨ending, after, draws', events'⟩) :
    evaluate settings ⟨dice, first ++ second⟩ supply =
      ⟨ending, after, draws ++ draws', events ++ events'⟩ := by
  rw [evaluate_append_eq_bind haccepted]
  refine (Play.bind_apply_of_eq hfirst).trans ?_
  rw [hsecond]

/-- The modifiers of an accepted roll may be split at any place. The run of the roll first is the run
with the first modifiers alone, and that is all if no dice are left by it, whatever the others are, or
if it fails. Otherwise the steps of the others follow from the dice and the supply that it leaves. -/
theorem evaluate_append (settings : Settings) (dice : DiceTerm) (first second : List Modifier)
    (supply : Supply σ)
    (haccepted : (Roll.mk dice (first ++ second)).rejection? settings = none) :
    let part := evaluate settings ⟨dice, first⟩ supply
    let whole := evaluate settings ⟨dice, first ++ second⟩ supply
    part.draws <+: whole.draws ∧
    (part.ending = .ok none → whole = part) ∧
    (∀ sorted, part.ending = .ok (some sorted) →
      let rest := second.foldlM (Modifier.step dice.sides) (some sorted) part.supply
      whole.ending = rest.ending ∧ whole.draws = part.draws ++ rest.draws ∧
        whole.events = part.events ++ rest.events ∧ whole.supply = rest.supply) ∧
    ∀ failure, part.ending = .error failure → whole = part := by
  intro part whole
  have hfollows {outcome : Outcome} (h : part.ending = .ok outcome) :
      whole =
        let rest := second.foldlM (Modifier.step dice.sides) outcome part.supply
        ⟨rest.ending, rest.supply, part.draws ++ rest.draws, part.events ++ rest.events⟩ :=
    evaluate_append_eq haccepted (Play.eq_of_ending_eq_ok h) rfl
  have hnone (h : part.ending = .ok none) : whole = part := by
    have hrest : second.foldlM (Modifier.step dice.sides) none part.supply =
        ⟨.ok none, part.supply, [], []⟩ := congrFun (foldlM_step_none dice.sides second) part.supply
    calc
      whole = ⟨.ok none, part.supply, part.draws ++ [], part.events ++ []⟩ :=
        evaluate_append_eq haccepted (Play.eq_of_ending_eq_ok h) hrest
      _ = ⟨.ok none, part.supply, part.draws, part.events⟩ := by rw [List.append_nil, List.append_nil]
      _ = part := (Play.eq_of_ending_eq_ok h).symm
  have herror (failure : Failure) (h : part.ending = .error failure) : whole = part := by
    calc
      whole = ⟨.error failure, part.supply, part.draws, part.events⟩ :=
        (congrFun (evaluate_append_eq_bind haccepted) supply).trans (Play.bind_apply_of_error h)
      _ = part := by rw [← h]
  refine ⟨?_, hnone, fun sorted h => ?_, herror⟩
  · cases hpart : part.ending with
    | error failure => rw [herror failure hpart]
    | ok outcome =>
      rw [hfollows hpart]
      exact List.prefix_append _ _
  · rw [hfollows h]
    exact ⟨rfl, rfl, rfl, rfl⟩

/-- After one explosion the highest two dice explode again and add two more. Where no die is kept, an
explosion of all but ones draws nothing. -/
theorem evaluate_append_script :
    let supply : Supply Generator := ⟨.script [6, 2, 1, 5, 4], 20⟩
    let others : List Modifier := [⟨.keep, 2⟩, ⟨.explode, 5⟩]
    let part := evaluate .standard ⟨⟨3, 6⟩, [⟨.explode, 6⟩]⟩ supply
    let whole := evaluate .standard ⟨⟨3, 6⟩, [⟨.explode, 6⟩] ++ others⟩ supply
    let rest := others.foldlM (Modifier.step 6) (some [1, 2, 5, 6]) part.supply
    (Roll.mk ⟨3, 6⟩ ([⟨.explode, 6⟩] ++ others)).rejection? .standard = none ∧
    part.ending = .ok (some [1, 2, 5, 6]) ∧ rest.ending = .ok (some [4, 4, 5, 6]) ∧
    whole.ending = .ok (some [4, 4, 5, 6]) ∧ whole.draws = part.draws ++ rest.draws ∧
    (Roll.mk ⟨3, 6⟩ ([⟨.keep, 0⟩] ++ [⟨.explode, 2⟩])).rejection? .standard = none ∧
    evaluate .standard ⟨⟨3, 6⟩, [⟨.keep, 0⟩] ++ [⟨.explode, 2⟩]⟩ supply =
      evaluate .standard ⟨⟨3, 6⟩, [⟨.keep, 0⟩]⟩ supply := by
  intro supply others part whole rest
  have hrolled : rollDice ⟨3, 6⟩ supply =
      ⟨.ok [1, 2, 6], ⟨.script [5, 4], 17⟩, [6, 2, 1].map (Draw.mk ⟨1, 6⟩), []⟩ := by
    cbv
  have hexploded : explode [1, 2, 6] 6 6 (⟨.script [5, 4], 17⟩ : Supply Generator) =
      ⟨.ok [1, 2, 5, 6], ⟨.script [4], 16⟩, [⟨⟨1, 6⟩, 5⟩], [.exploded 6 1]⟩ := by
    cbv
  have hagain : explode [5, 6] 5 6 (⟨.script [4], 16⟩ : Supply Generator) =
      ⟨.ok [4, 4, 5, 6], ⟨.script [4], 14⟩, [4, 4].map (Draw.mk ⟨1, 6⟩), [.exploded 5 2]⟩ := by
    cbv
  have hpart : part = ⟨.ok (some [1, 2, 5, 6]), ⟨.script [4], 16⟩, _, _⟩ :=
    evaluate_of_eq rfl hrolled (applyModifiers_explode_of_eq hexploded rfl)
  have hothers : applyModifiers 6 others (some [1, 2, 5, 6]) (⟨.script [4], 16⟩ : Supply Generator) =
      ⟨.ok (some [4, 4, 5, 6]), _, _, _⟩ :=
    applyModifiers_cons_of_eq rfl (applyModifiers_explode_of_eq hagain rfl)
  rw [applyModifiers_eq_foldlM] at hothers
  have hrest : rest.ending = .ok (some [4, 4, 5, 6]) := by
    change (others.foldlM (Modifier.step 6) (some [1, 2, 5, 6]) part.supply).ending = _
    rw [hpart]
    exact congrArg Record.ending hothers
  have hnothing : (evaluate .standard ⟨⟨3, 6⟩, [⟨.keep, 0⟩]⟩ supply).ending = .ok none :=
    congrArg Record.ending (evaluate_of_eq rfl hrolled rfl)
  obtain ⟨-, -, hsome, -⟩ := evaluate_append .standard ⟨3, 6⟩ [⟨.explode, 6⟩] others supply rfl
  obtain ⟨hending, hdraws, -⟩ := hsome _ (congrArg Record.ending hpart)
  obtain ⟨-, hnone, -⟩ := evaluate_append .standard ⟨3, 6⟩ [⟨.keep, 0⟩] [⟨.explode, 2⟩] supply rfl
  exact ⟨rfl, congrArg Record.ending hpart, hrest, hending.trans hrest, hdraws, rfl, hnone hnothing⟩

end Tabletop
