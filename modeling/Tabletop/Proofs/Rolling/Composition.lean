import Tabletop.Proofs.Rolling.Completion

/-!
# Properties of plays that composition keeps

Rolls are evaluated by playing batches, reports and failures in a row. A property that holds of these
parts and of every composition of plays with the property therefore holds of the whole evaluation. Once
a roll has been accepted, a one counts in each of its batches, since no threshold is reached by a one.
The only failures to be looked at are rejections: the check that each explosion makes for itself has
been made before.
-/

namespace Tabletop

variable {σ : Type}

/-- A property of plays that plays in a row have if each of them has it. -/
structure Play.Compositional (holds : ∀ {α : Type}, Play σ α → Prop) : Prop where
  /-- Ending at once has the property. -/
  pure : ∀ {α : Type} (value : α), holds (pure value : Play σ α)
  /-- A report has the property. -/
  report : ∀ event, holds (Play.report event)
  /-- A play followed by another one has the property if both have. -/
  bind : ∀ {α β : Type} {play : Play σ α} {next : α → Play σ β},
    holds play → (∀ value, holds (next value)) → holds (play >>= next)

/-- An explosion among the modifiers is endless exactly if its value is. -/
theorem Modifier.isEndless_of_explode {modifier : Modifier} (h : modifier.kind = .explode) :
    modifier.isEndless = Tabletop.isEndless modifier.value := by
  rw [Modifier.isEndless, h, beq_self_eq_true, Bool.true_and]

/-- An accepted roll has no endless explosion. -/
theorem isEndless_eq_false_of_accepted {settings : Settings} {roll : Roll}
    (h : roll.rejection? settings = none) :
    ∀ modifier ∈ roll.modifiers, modifier.isEndless = false := by
  rw [Roll.rejection?] at h
  split at h
  · cases h
  · split at h
    · cases h
    · split at h
      · cases h
      · intro modifier hmem
        rw [Option.map_eq_none_iff, List.find?_eq_none] at h
        exact Bool.eq_false_iff.mpr (h modifier hmem)

namespace Play.Compositional

variable [RandomSource σ] {holds : ∀ {α : Type}, Play σ α → Prop} {sides : Int}

/-- A property of batches is one of rolling dice. -/
theorem rollDice (h : Compositional holds) {dice : DiceTerm}
    (hbatch : ∀ counts wanted, counts 1 = true → holds (drawBatch (dieRange dice.sides) counts wanted)) :
    holds (Tabletop.rollDice dice) := by
  rw [Tabletop.rollDice]
  exact h.bind (hbatch _ _ rfl) fun _ => h.pure _

/-- A property of batches is one of explosions that end. -/
theorem explode (h : Compositional holds)
    (hbatch : ∀ counts wanted, counts 1 = true → holds (drawBatch (dieRange sides) counts wanted))
    {threshold : Int} (hthreshold : isEndless threshold = false) (dice : List Int) :
    holds (Tabletop.explode dice threshold sides) := by
  have hone : 1 < threshold := by simpa [isEndless] using hthreshold
  rw [Tabletop.explode, hthreshold]
  refine h.bind (hbatch _ _ (decide_eq_true hone)) fun added => ?_
  split
  · exact h.bind (h.report _) fun _ => h.pure _
  · exact h.pure _

/-- A property of batches is one of applying a modifier that is no endless explosion. -/
theorem apply (h : Compositional holds)
    (hbatch : ∀ counts wanted, counts 1 = true → holds (drawBatch (dieRange sides) counts wanted))
    {modifier : Modifier} (hmodifier : modifier.isEndless = false) (dice : List Int) :
    holds (modifier.apply sides dice) := by
  by_cases hkind : modifier.kind = .explode
  · rw [Modifier.isEndless_of_explode hkind] at hmodifier
    rw [Modifier.apply, hkind]
    exact h.bind (h.explode hbatch hmodifier dice) fun _ => h.pure _
  · rw [Modifier.apply_eq_pure hkind]
    exact h.pure _

/-- A property of batches is one of applying modifiers without an endless explosion to any outcome. -/
theorem applyModifiers (h : Compositional holds)
    (hbatch : ∀ counts wanted, counts 1 = true → holds (drawBatch (dieRange sides) counts wanted))
    {modifiers : List Modifier} (hmodifiers : ∀ modifier ∈ modifiers, modifier.isEndless = false)
    (outcome : Outcome) : holds (Tabletop.applyModifiers sides modifiers outcome) := by
  induction modifiers generalizing outcome with
  | nil => exact h.pure outcome
  | cons modifier modifiers ih =>
    cases outcome with
    | none => exact h.pure none
    | some dice =>
      refine h.bind (h.apply hbatch (hmodifiers modifier List.mem_cons_self) dice) fun result => ?_
      refine h.bind (h.report _) fun _ => ?_
      exact ih (fun other hother => hmodifiers other (List.mem_cons_of_mem _ hother)) (settle result)

/-- A property of batches and of the rejection of a roll, if there is one, is one of evaluating it. -/
theorem evaluate (h : Compositional holds) {settings : Settings} {roll : Roll}
    (hbatch : ∀ counts wanted, counts 1 = true →
      holds (drawBatch (dieRange roll.dice.sides) counts wanted))
    (hreject : ∀ rejection, roll.rejection? settings = some rejection →
      holds (fail (.rejected rejection) : Play σ Outcome)) :
    holds (Tabletop.evaluate settings roll) := by
  rw [Tabletop.evaluate]
  cases hrejection : roll.rejection? settings with
  | some rejection => exact h.bind (h.report _) fun _ => hreject rejection hrejection
  | none =>
    refine h.bind (h.rollDice hbatch) fun dice => h.bind (h.report _) fun _ => ?_
    exact h.applyModifiers hbatch (isEndless_eq_false_of_accepted hrejection) _

end Play.Compositional

end Tabletop
