import Mathlib.Data.List.Permutation
import Tabletop.Rolling.Evaluation

/-!
# Completed plays

A play completes when it ends with a value. For each way of building plays one statement says exactly
when the result completes and with which draws and events, so that later proofs take a completed run
apart step by step without opening a definition.
-/

namespace Tabletop

namespace Play

variable {σ α β : Type} {supply after : Supply σ} {draws : List Draw} {events : List Event}

/-- A play that ends with a value completes with its own record. -/
theorem eq_of_ending_eq_ok {play : Play σ α} {value : α} (h : (play supply).ending = .ok value) :
    play supply = ⟨.ok value, (play supply).supply, (play supply).draws, (play supply).events⟩ := by
  rw [← h]

/-- What follows a completed play adds its draws and events behind it. -/
theorem bind_apply_of_eq {play : Play σ α} {next : α → Play σ β} {first : α}
    (h : play supply = ⟨.ok first, after, draws, events⟩) :
    (play >>= next) supply =
      { next first after with
        draws := draws ++ (next first after).draws
        events := events ++ (next first after).events } := by
  change andThen play next supply = _
  simp only [andThen, h]

/-- Nothing follows a failed play. -/
theorem bind_apply_of_error {play : Play σ α} {next : α → Play σ β} {failure : Failure}
    (h : (play supply).ending = .error failure) :
    (play >>= next) supply =
      ⟨.error failure, (play supply).supply, (play supply).draws, (play supply).events⟩ := by
  change andThen play next supply = _
  simp only [andThen, h]

/-- Two plays in a row complete exactly if both do. -/
theorem bind_eq_ok_iff {play : Play σ α} {next : α → Play σ β} {value : β} :
    (play >>= next) supply = ⟨.ok value, after, draws, events⟩ ↔
      ∃ first middle draws₁ events₁ draws₂ events₂,
        play supply = ⟨.ok first, middle, draws₁, events₁⟩ ∧
        next first middle = ⟨.ok value, after, draws₂, events₂⟩ ∧
        draws = draws₁ ++ draws₂ ∧ events = events₁ ++ events₂ := by
  refine ⟨fun h => ?_, fun h => ?_⟩
  · cases hfirst : (play supply).ending with
    | error failure =>
      change andThen play next supply = _ at h
      simp [andThen, hfirst] at h
    | ok first =>
      have hplay := eq_of_ending_eq_ok hfirst
      rw [bind_apply_of_eq hplay] at h
      cases hnext : next first (play supply).supply with
      | mk ending rest draws₂ events₂ =>
        rw [hnext] at h
        cases h
        exact ⟨first, _, _, _, draws₂, events₂, hplay, hnext, rfl, rfl⟩
  · obtain ⟨first, middle, draws₁, events₁, draws₂, events₂, hplay, hnext, rfl, rfl⟩ := h
    rw [bind_apply_of_eq hplay, hnext]

/-- A play without effects completes with its value and nothing else. -/
theorem pure_eq_ok_iff {first value : α} :
    (pure first : Play σ α) supply = ⟨.ok value, after, draws, events⟩ ↔
      first = value ∧ supply = after ∧ draws = [] ∧ events = [] := by
  change Record.mk (.ok first) supply [] [] = _ ↔ _
  simp only [Record.mk.injEq, Except.ok.injEq, eq_comm (a := ([] : List _))]

/-- A report between two plays puts its event between their events. -/
theorem bind_report_eq_ok_iff {play : Play σ α} {event : α → Event} {next : α → Play σ β}
    {value : β} :
    (play >>= fun first => report (event first) >>= fun _ => next first) supply =
        ⟨.ok value, after, draws, events⟩ ↔
      ∃ first middle draws₁ events₁ draws₂ events₂,
        play supply = ⟨.ok first, middle, draws₁, events₁⟩ ∧
        next first middle = ⟨.ok value, after, draws₂, events₂⟩ ∧
        draws = draws₁ ++ draws₂ ∧ events = events₁ ++ event first :: events₂ := by
  have hreport (first : α) (middle : Supply σ) :
      report (event first) middle = ⟨.ok (), middle, [], [event first]⟩ := rfl
  rw [bind_eq_ok_iff]
  refine ⟨fun h => ?_, fun h => ?_⟩
  · obtain ⟨first, middle, draws₁, events₁, _, _, hplay, hothers, hdraws, hevents⟩ := h
    obtain ⟨_, _, _, _, draws₂, events₂, hevent, hnext, rfl, rfl⟩ := bind_eq_ok_iff.mp hothers
    rw [hreport] at hevent
    cases hevent
    exact ⟨first, middle, draws₁, events₁, draws₂, events₂, hplay, hnext, hdraws, hevents⟩
  · obtain ⟨first, middle, draws₁, events₁, draws₂, events₂, hplay, hnext, hdraws, hevents⟩ := h
    exact ⟨first, middle, draws₁, events₁, draws₂, event first :: events₂, hplay,
      bind_eq_ok_iff.mpr ⟨(), middle, [], [event first], draws₂, events₂, hreport first middle, hnext,
        rfl, rfl⟩, hdraws, hevents⟩

/-- Plays that neither draw nor touch the supply leave all draws to the play before them. -/
theorem bind_of_quiet {play : Play σ α} {next : α → Play σ β} {result : α → Except Failure β}
    (hnext : ∀ value supply, ∃ events, next value supply = ⟨result value, supply, [], events⟩)
    (supply : Supply σ) :
    ((play >>= next) supply).draws = (play supply).draws ∧
      ((play >>= next) supply).supply = (play supply).supply ∧
      ((play >>= next) supply).ending = (play supply).ending >>= result := by
  change (andThen play next supply).draws = _ ∧ (andThen play next supply).supply = _ ∧
    (andThen play next supply).ending = _
  simp only [andThen]
  cases (play supply).ending with
  | error failure => exact ⟨rfl, rfl, rfl⟩
  | ok value =>
    obtain ⟨events, hrecord⟩ := hnext value (play supply).supply
    simp only [hrecord, List.append_nil, true_and]
    rfl

/-- A batch completes exactly if all values that were wanted came up. -/
theorem drawBatch_eq_ok_iff [RandomSource σ] {range : Range} {counts : Int → Bool} {wanted : Nat}
    {values : List Int} :
    drawBatch range counts wanted supply = ⟨.ok values, after, draws, events⟩ ↔
      drawUntil range counts supply.left wanted supply.source = ⟨values, after, true⟩ ∧
        draws = values.map (Draw.mk range) ∧ events = [] := by
  rw [drawBatch]
  cases drawUntil range counts supply.left wanted supply.source with
  | mk drawn rest complete =>
    cases complete with
    | false => simp
    | true =>
      refine ⟨fun h => ?_, fun h => ?_⟩
      · cases h
        exact ⟨rfl, rfl, rfl⟩
      · obtain ⟨h, rfl, rfl⟩ := h
        cases h
        rfl

end Play

variable {σ : Type} [RandomSource σ] {supply after : Supply σ} {draws : List Draw}
  {events : List Event}

/-- Rolling dice sorts one batch, and fails if that is not complete. -/
theorem rollDice_apply (dice : DiceTerm) (supply : Supply σ) :
    rollDice dice supply =
      let batch := drawUntil (dieRange dice.sides) (fun _ => true) supply.left dice.count.toNat
        supply.source
      ⟨if batch.complete then .ok (ascending batch.values) else .error .exhausted, batch.supply,
        batch.values.map (Draw.mk (dieRange dice.sides)), []⟩ := by
  change Play.andThen (Play.drawBatch _ _ _) _ supply = _
  simp only [Play.andThen, Play.drawBatch]
  cases drawUntil (dieRange dice.sides) (fun _ => true) supply.left dice.count.toNat
      supply.source with
  | mk values after complete =>
    cases complete with
    | false => rfl
    | true =>
      simp only [↓reduceIte, pure, Play.succeed, List.append_nil]

/-- Rolling completes with a batch of as many values as there are dice, in ascending order. -/
theorem rollDice_eq_ok_iff {dice : DiceTerm} {result : List Int} :
    rollDice dice supply = ⟨.ok result, after, draws, events⟩ ↔
      ∃ values, drawUntil (dieRange dice.sides) (fun _ => true) supply.left dice.count.toNat
          supply.source = ⟨values, after, true⟩ ∧
        result = ascending values ∧ draws = values.map (Draw.mk (dieRange dice.sides)) ∧
        events = [] := by
  simp only [rollDice, Play.bind_eq_ok_iff, Play.drawBatch_eq_ok_iff, Play.pure_eq_ok_iff]
  refine ⟨fun h => ?_, fun h => ?_⟩
  · obtain ⟨values, _, _, _, _, _, ⟨hbatch, rfl, rfl⟩, ⟨rfl, rfl, rfl, rfl⟩, rfl, rfl⟩ := h
    exact ⟨values, hbatch, rfl, by simp, rfl⟩
  · obtain ⟨values, hbatch, rfl, rfl, rfl⟩ := h
    exact ⟨values, after, _, [], [], [], ⟨hbatch, rfl, rfl⟩, ⟨rfl, rfl, rfl, rfl⟩, by simp, rfl⟩

/-- What an explosion reports about the dice that it adds. -/
def explosionEvents (threshold : Int) (added : List Int) : List Event :=
  if added = [] then [] else [.exploded threshold added.length]

/-- An explosion completes if its threshold allows it to end, with a batch in which as many dice stay
below the threshold as dice reached it before. -/
theorem explode_eq_ok_iff {dice : List Int} {threshold sides : Int} {result : List Int} :
    explode dice threshold sides supply = ⟨.ok result, after, draws, events⟩ ↔
      isEndless threshold = false ∧ ∃ added,
        drawUntil (dieRange sides) (fun die => decide (die < threshold)) supply.left
          (reaching threshold dice) supply.source = ⟨added, after, true⟩ ∧
        result = ascending (dice ++ added) ∧ draws = added.map (Draw.mk (dieRange sides)) ∧
        events = explosionEvents threshold added := by
  have hreport (added : List Int) (middle : Supply σ) :
      (if added ≠ [] then do
          Play.report (Event.exploded threshold added.length)
          pure (ascending (dice ++ added))
        else pure (ascending (dice ++ added)) : Play σ (List Int)) middle =
      ⟨.ok (ascending (dice ++ added)), middle, [], explosionEvents threshold added⟩ := by
    cases added <;> rfl
  rw [explode]
  cases isEndless threshold with
  | true => simp [Play.fail]
  | false =>
    simp only [Bool.false_eq_true, ↓reduceIte, true_and, Play.bind_eq_ok_iff,
      Play.drawBatch_eq_ok_iff, hreport]
    refine ⟨fun h => ?_, fun h => ?_⟩
    · obtain ⟨added, _, _, _, _, _, ⟨hbatch, rfl, rfl⟩, hrest, rfl, rfl⟩ := h
      cases hrest
      exact ⟨added, hbatch, rfl, by simp, rfl⟩
    · obtain ⟨added, hbatch, rfl, rfl, rfl⟩ := h
      exact ⟨added, after, _, [], [], _, ⟨hbatch, rfl, rfl⟩, rfl, by simp, rfl⟩

/-- The dice that a modifier selects. An explosion selects all of them. -/
def Modifier.select (modifier : Modifier) (dice : List Int) : Outcome :=
  match modifier.kind with
  | .explode => some dice
  | .remove => remove dice modifier.value
  | .keep => some (keep dice modifier.value)
  | .keepLower => some (keepLower dice modifier.value)

/-- A selection keeps dice in their order and adds none. -/
theorem Modifier.sublist_of_mem_select {modifier : Modifier} {dice selected : List Int}
    (h : selected ∈ modifier.select dice) : selected.Sublist dice := by
  rw [Modifier.select] at h
  cases hkind : modifier.kind with
  | explode =>
    simp only [hkind, Option.mem_some_iff] at h
    exact h ▸ List.Sublist.refl _
  | remove =>
    simp only [hkind, remove, Option.mem_def] at h
    split at h
    · cases h
    · cases h
      exact List.drop_sublist _ _
  | keep =>
    simp only [hkind, keep, Option.mem_some_iff] at h
    subst h
    split
    · exact List.drop_sublist _ _
    · exact List.Sublist.refl _
  | keepLower =>
    simp only [hkind, keepLower, Option.mem_some_iff] at h
    subst h
    split
    · exact List.take_sublist _ _
    · exact List.Sublist.refl _

/-- A modifier that is no explosion selects dice without drawing any. -/
theorem Modifier.apply_eq_pure {modifier : Modifier} (h : modifier.kind ≠ .explode) (sides : Int)
    (dice : List Int) : (modifier.apply sides dice : Play σ Outcome) = pure (modifier.select dice) := by
  rw [Modifier.apply, Modifier.select]
  cases hkind : modifier.kind with
  | explode => exact absurd hkind h
  | remove => rfl
  | keep => rfl
  | keepLower => rfl

/-- An exploding modifier completes exactly if its explosion does. -/
theorem Modifier.apply_eq_ok_iff_of_explode {modifier : Modifier} (h : modifier.kind = .explode)
    {sides : Int} {dice : List Int} {result : Outcome} :
    modifier.apply sides dice supply = ⟨.ok result, after, draws, events⟩ ↔
      ∃ exploded, explode dice modifier.value sides supply = ⟨.ok exploded, after, draws, events⟩ ∧
        result = some exploded := by
  rw [Modifier.apply, h]
  simp only [Play.bind_eq_ok_iff, Play.pure_eq_ok_iff]
  refine ⟨fun h => ?_, fun h => ?_⟩
  · obtain ⟨exploded, _, _, _, _, _, hexplode, ⟨rfl, rfl, rfl, rfl⟩, rfl, rfl⟩ := h
    exact ⟨exploded, by simpa using hexplode, rfl⟩
  · obtain ⟨exploded, hexplode, rfl⟩ := h
    exact ⟨exploded, after, draws, events, [], [], hexplode, ⟨rfl, rfl, rfl, rfl⟩, by simp, by simp⟩

/-- Without dice no modifier is applied. -/
theorem applyModifiers_none (sides : Int) (modifiers : List Modifier) :
    (applyModifiers sides modifiers none : Play σ Outcome) = pure none := by
  cases modifiers <;> rfl

/-- Applying modifiers to dice applies the first one, settles and reports its outcome, and goes on. -/
theorem applyModifiers_cons_eq_ok_iff {sides : Int} {modifier : Modifier} {modifiers : List Modifier}
    {dice : List Int} {outcome : Outcome} :
    applyModifiers sides (modifier :: modifiers) (some dice) supply =
        ⟨.ok outcome, after, draws, events⟩ ↔
      ∃ result middle draws₁ events₁ draws₂ events₂,
        modifier.apply sides dice supply = ⟨.ok result, middle, draws₁, events₁⟩ ∧
        applyModifiers sides modifiers (settle result) middle = ⟨.ok outcome, after, draws₂, events₂⟩ ∧
        draws = draws₁ ++ draws₂ ∧
        events = events₁ ++ .applied modifier (settle result) :: events₂ := by
  rw [applyModifiers]
  exact Play.bind_report_eq_ok_iff

/-- A roll is evaluated to an outcome if it is accepted, and then by rolling its dice and applying its
modifiers to them. -/
theorem evaluate_eq_ok_iff {settings : Settings} {roll : Roll} {outcome : Outcome} :
    evaluate settings roll supply = ⟨.ok outcome, after, draws, events⟩ ↔
      roll.rejection? settings = none ∧ ∃ dice middle draws₁ events₁ draws₂ events₂,
        rollDice roll.dice supply = ⟨.ok dice, middle, draws₁, events₁⟩ ∧
        applyModifiers roll.dice.sides roll.modifiers (settle (some dice)) middle =
          ⟨.ok outcome, after, draws₂, events₂⟩ ∧
        draws = draws₁ ++ draws₂ ∧
        events = events₁ ++ .rolled roll.dice (settle (some dice)) :: events₂ := by
  rw [evaluate]
  cases roll.rejection? settings with
  | some rejection =>
    simp only [reduceCtorEq, false_and, iff_false]
    intro h
    obtain ⟨_, _, _, _, _, _, -, hfail, -, -⟩ := Play.bind_eq_ok_iff.mp h
    cases hfail
  | none =>
    simp only [true_and]
    exact Play.bind_report_eq_ok_iff

/-! ## Runs put together from completed parts -/

section Parts

variable {sides : Int} {modifiers : List Modifier} {dice : List Int} {outcome : Outcome}
  {middle : Supply σ} {draws₁ draws₂ : List Draw} {events₁ events₂ : List Event}

/-- A modifier that completes and the modifiers that complete behind it complete together. -/
theorem applyModifiers_cons_of_eq {modifier : Modifier} {result : Outcome}
    (hstep : modifier.apply sides dice supply = ⟨.ok result, middle, draws₁, events₁⟩)
    (hrest : applyModifiers sides modifiers (settle result) middle =
      ⟨.ok outcome, after, draws₂, events₂⟩) :
    applyModifiers sides (modifier :: modifiers) (some dice) supply =
      ⟨.ok outcome, after, draws₁ ++ draws₂, events₁ ++ .applied modifier (settle result) :: events₂⟩ :=
  applyModifiers_cons_eq_ok_iff.mpr ⟨_, _, _, _, _, _, hstep, hrest, rfl, rfl⟩

/-- An explosion that completes and the modifiers that complete behind it complete together. -/
theorem applyModifiers_explode_of_eq {threshold : Int} {exploded : List Int}
    (hexplode : explode dice threshold sides supply = ⟨.ok exploded, middle, draws₁, events₁⟩)
    (hrest : applyModifiers sides modifiers (settle (some exploded)) middle =
      ⟨.ok outcome, after, draws₂, events₂⟩) :
    applyModifiers sides (⟨.explode, threshold⟩ :: modifiers) (some dice) supply =
      ⟨.ok outcome, after, draws₁ ++ draws₂,
        events₁ ++ .applied ⟨.explode, threshold⟩ (settle (some exploded)) :: events₂⟩ :=
  applyModifiers_cons_of_eq ((Modifier.apply_eq_ok_iff_of_explode rfl).mpr ⟨_, hexplode, rfl⟩) hrest

/-- An accepted roll whose dice are rolled and whose modifiers complete is evaluated. -/
theorem evaluate_of_eq {settings : Settings} {roll : Roll} (haccepted : roll.rejection? settings = none)
    (hdice : rollDice roll.dice supply = ⟨.ok dice, middle, draws₁, events₁⟩)
    (hrest : applyModifiers roll.dice.sides roll.modifiers (settle (some dice)) middle =
      ⟨.ok outcome, after, draws₂, events₂⟩) :
    evaluate settings roll supply =
      ⟨.ok outcome, after, draws₁ ++ draws₂,
        events₁ ++ .rolled roll.dice (settle (some dice)) :: events₂⟩ :=
  evaluate_eq_ok_iff.mpr ⟨haccepted, _, _, _, _, _, _, hdice, hrest, rfl, rfl⟩

end Parts

end Tabletop
