import Tabletop.Proofs.Rolling.Composition
import Tabletop.Session.Step

/-!
# Refused rolls

A roll is refused before its first draw or not at all. The check of the whole roll covers every
explosion in it, so the check that each explosion makes for itself never fails within a run: once a
roll is accepted, nothing but the end of the supply can keep it from its outcome.
-/

namespace Tabletop

variable {σ : Type} {allowed : Failure → Prop}

/-! ## How plays fail -/

namespace Play

/-- Whenever the play fails, its failure is one of the allowed ones. -/
def FailsOnly {α : Type} (allowed : Failure → Prop) (play : Play σ α) : Prop :=
  ∀ supply failure, (play supply).ending = .error failure → allowed failure

/-- Plays in a row fail only as one of them does. -/
theorem FailsOnly.compositional : Compositional (FailsOnly (σ := σ) allowed) where
  pure value := by
    intro supply failure h
    cases h
  report event := by
    intro supply failure h
    cases h
  bind {α β play next} hplay hnext := by
    intro supply failure h
    change (andThen play next supply).ending = _ at h
    simp only [andThen] at h
    split at h
    · rename_i first hfirst
      cases h
      exact hplay supply _ hfirst
    · exact hnext _ _ _ h

/-- A batch fails only when the source must not be asked again. -/
theorem failsOnly_drawBatch [RandomSource σ] (hallowed : allowed .exhausted) (range : Range)
    (counts : Int → Bool) (wanted : Nat) :
    FailsOnly allowed (drawBatch range counts wanted : Play σ (List Int)) := by
  intro supply failure h
  simp only [drawBatch] at h
  split at h
  · cases h
  · cases h
    exact hallowed

end Play

variable [RandomSource σ]

/-- An explosion that can end fails only for want of draws. -/
theorem failsOnly_explode (hallowed : allowed .exhausted) {threshold : Int}
    (h : isEndless threshold = false) (dice : List Int) (sides : Int) :
    Play.FailsOnly allowed (explode dice threshold sides : Play σ (List Int)) :=
  Play.FailsOnly.compositional.explode
    (fun counts wanted _ => Play.failsOnly_drawBatch hallowed _ counts wanted) h dice

/-- An accepted roll fails only for want of draws. -/
theorem failsOnly_evaluate (hallowed : allowed .exhausted) {settings : Settings} {roll : Roll}
    (h : roll.rejection? settings = none) :
    Play.FailsOnly allowed (evaluate settings roll : Play σ Outcome) := by
  refine Play.FailsOnly.compositional.evaluate
    (fun counts wanted _ => Play.failsOnly_drawBatch hallowed _ counts wanted) ?_
  intro rejection hrejection
  rw [h] at hrejection
  cases hrejection

/-! ## The check of the whole roll -/

/-- A roll without sides, with too many dice or sides, or with an explosion that every die reaches,
wherever it stands among the modifiers. -/
def Roll.Refused (roll : Roll) (settings : Settings) : Prop :=
  roll.dice.sides < 1 ∨ settings.maxDice < roll.dice.count ∨ settings.maxSides < roll.dice.sides ∨
    ∃ modifier ∈ roll.modifiers, modifier.kind = .explode ∧ modifier.value ≤ 1

instance (roll : Roll) (settings : Settings) : Decidable (roll.Refused settings) :=
  inferInstanceAs (Decidable (_ ∨ _ ∨ _ ∨ _))

/-- An endless explosion is an explosion at one or below. -/
theorem Modifier.isEndless_iff {modifier : Modifier} :
    modifier.isEndless = true ↔ modifier.kind = .explode ∧ modifier.value ≤ 1 := by
  rw [Modifier.isEndless, Bool.and_eq_true, beq_iff_eq, Tabletop.isEndless, decide_eq_true_eq]

/-- The check finds no reason exactly if there is none. -/
theorem Roll.rejection?_eq_none_iff {roll : Roll} {settings : Settings} :
    roll.rejection? settings = none ↔ ¬ roll.Refused settings := by
  rw [Roll.rejection?, Roll.Refused]
  split
  · rename_i hsides
    simp [hsides]
  · rename_i hsides
    split
    · rename_i hcount
      simp [hcount]
    · rename_i hcount
      split
      · rename_i hlimit
        simp [hlimit]
      · rename_i hlimit
        simp only [Option.map_eq_none_iff, List.find?_eq_none, Modifier.isEndless_iff, hsides, hcount,
          hlimit, false_or, not_exists, not_and]

/-- A refused roll draws nothing and reports its rejection alone. -/
theorem evaluate_of_rejection {settings : Settings} {roll : Roll} {rejection : Rejection}
    (h : roll.rejection? settings = some rejection) (supply : Supply σ) :
    evaluate settings roll supply =
      ⟨.error (.rejected rejection), supply, [], [.rejected roll rejection]⟩ := by
  rw [evaluate, h]
  rfl

/-- A roll is rejected exactly if it is refused as a whole, and then before any draw, with the supply
left as it was and one warning as its only message. Otherwise it ends with an outcome or for want of
draws, and none of its explosions can be rejected, whatever dice and supply it meets. -/
theorem evaluate_rejects_refused (settings : Settings) (roll : Roll) (supply : Supply σ) :
    let record := evaluate settings roll supply
    ((∃ rejection, record.ending = .error (.rejected rejection)) ↔ roll.Refused settings) ∧
    (roll.Refused settings → record.draws = [] ∧ record.supply = supply ∧
      record.events.map Event.level = [.warning] ∧
      (∃ rejection, record.ending = .error (.rejected rejection) ∧
        record.events = [.rejected roll rejection]) ∧
      ∀ session : Session, session.shown record.events =
        if session.level.shows .warning then record.events else []) ∧
    (¬ roll.Refused settings →
      ((∃ outcome, record.ending = .ok outcome) ∨ record.ending = .error .exhausted) ∧
      ∀ modifier ∈ roll.modifiers, modifier.kind = .explode →
        ∀ (dice : List Int) (middle : Supply σ) (rejection : Rejection),
          (explode dice modifier.value roll.dice.sides middle).ending ≠
            .error (.rejected rejection)) := by
  intro record
  cases hrejection : roll.rejection? settings with
  | some rejection =>
    have hrefused : roll.Refused settings := by
      by_contra hnot
      rw [Roll.rejection?_eq_none_iff.mpr hnot] at hrejection
      cases hrejection
    have hrecord : record = _ := evaluate_of_rejection hrejection supply
    rw [hrecord]
    refine ⟨⟨fun _ => hrefused, fun _ => ⟨rejection, rfl⟩⟩, fun _ => ?_, fun h => absurd hrefused h⟩
    refine ⟨rfl, rfl, rfl, ⟨rejection, rfl, rfl⟩, fun session => ?_⟩
    rw [Session.shown, List.filter_singleton]
    exact Bool.cond_eq_ite _ _ _
  | none =>
    have hnot := Roll.rejection?_eq_none_iff.mp hrejection
    have hfails : ∀ failure, record.ending = .error failure → .exhausted = failure :=
      failsOnly_evaluate rfl hrejection supply
    refine ⟨⟨fun h => ?_, fun h => absurd h hnot⟩, fun h => absurd h hnot, fun _ => ⟨?_, ?_⟩⟩
    · obtain ⟨rejection, hending⟩ := h
      cases hfails _ hending
    · cases hending : record.ending with
      | ok outcome => exact Or.inl ⟨outcome, rfl⟩
      | error failure => exact Or.inr (congrArg Except.error (hfails failure hending).symm)
    · intro modifier hmem hkind dice middle rejection hending
      have hthreshold := isEndless_eq_false_of_accepted hrejection modifier hmem
      rw [Modifier.isEndless_of_explode hkind] at hthreshold
      have hfailure : .exhausted = Failure.rejected rejection :=
        failsOnly_explode rfl hthreshold dice roll.dice.sides middle _ hending
      cases hfailure

/-- An endless explosion is refused even where no dice would be left for it, and explosions at two or
above are never rejected. -/
theorem evaluate_rejects_refused_unreachable :
    (Roll.mk ⟨2, 6⟩ [⟨.remove, 2⟩, ⟨.explode, 1⟩]).Refused .standard ∧
    (∃ rejection, (evaluate .standard ⟨⟨2, 6⟩, [⟨.remove, 2⟩, ⟨.explode, 1⟩]⟩
      (⟨.highest, 20⟩ : Supply Generator)).ending = .error (.rejected rejection)) ∧
    (evaluate .standard ⟨⟨2, 6⟩, [⟨.remove, 2⟩, ⟨.explode, 1⟩]⟩
      (⟨.highest, 20⟩ : Supply Generator)).draws = [] ∧
    ¬ (Roll.mk ⟨2, 6⟩ [⟨.explode, 2⟩]).Refused .standard ∧
    ((∃ outcome, (evaluate .standard ⟨⟨2, 6⟩, [⟨.explode, 2⟩]⟩
        (⟨.highest, 20⟩ : Supply Generator)).ending = .ok outcome) ∨
      (evaluate .standard ⟨⟨2, 6⟩, [⟨.explode, 2⟩]⟩
        (⟨.highest, 20⟩ : Supply Generator)).ending = .error .exhausted) := by
  have hrefused : (Roll.mk ⟨2, 6⟩ [⟨.remove, 2⟩, ⟨.explode, 1⟩]).Refused .standard := by decide
  have haccepted : ¬ (Roll.mk ⟨2, 6⟩ [⟨.explode, 2⟩]).Refused .standard := by decide
  obtain ⟨hiff, hcut, -⟩ := evaluate_rejects_refused .standard
    ⟨⟨2, 6⟩, [⟨.remove, 2⟩, ⟨.explode, 1⟩]⟩ (⟨.highest, 20⟩ : Supply Generator)
  obtain ⟨-, -, hends⟩ := evaluate_rejects_refused .standard ⟨⟨2, 6⟩, [⟨.explode, 2⟩]⟩
    (⟨.highest, 20⟩ : Supply Generator)
  exact ⟨hrefused, hiff.mpr hrefused, (hcut hrefused).1, haccepted, (hends haccepted).1⟩

end Tabletop
