import Tabletop.Proofs.Rolling.Composition
import Tabletop.Proofs.Rolling.Window

/-!
# Histories of runs

What a run leaves behind besides its ending. Its draws are the answers that the source gives when it
is asked for one die again and again, however the run ends. Its steps are the modifiers that were
applied, each with the dice that it found and the outcome that it left.
-/

namespace Tabletop

variable {σ α β : Type} [RandomSource σ]

/-! ## Draws -/

/-- Asked for one range again and again, the supply gives these draws in order and goes on behind
them. -/
inductive Supply.Gives (range : Range) : Supply σ → List Draw → Supply σ → Prop
  | nothing (supply : Supply σ) : Gives range supply [] supply
  | next {source : σ} {left : Nat} {draws : List Draw} {after : Supply σ}
      (later : Gives range ⟨(RandomSource.draw range source).2, left⟩ draws after) :
      Gives range ⟨source, left + 1⟩ (⟨range, (RandomSource.draw range source).1⟩ :: draws) after

namespace Supply.Gives

variable {range : Range} {supply middle after : Supply σ} {draws draws' : List Draw}

/-- What is given next comes behind what was given before. -/
theorem trans (h : supply.Gives range draws middle) (h' : middle.Gives range draws' after) :
    supply.Gives range (draws ++ draws') after := by
  induction h with
  | nothing supply => exact h'
  | next later ih => exact .next (ih h')

/-- Every request is for the same range. -/
theorem range_eq (h : supply.Gives range draws after) : ∀ draw ∈ draws, draw.range = range := by
  induction h with
  | nothing supply => simp
  | next later ih =>
    intro draw hdraw
    rcases List.mem_cons.mp hdraw with rfl | hlater
    · rfl
    · exact ih draw hlater

/-- The values are the first answers of the source. -/
theorem values_eq (h : supply.Gives range draws after) :
    draws.map Draw.value = answers range draws.length supply.source := by
  induction h with
  | nothing supply => rfl
  | next later ih => rw [List.map_cons, ih, List.length_cons, answers]

end Supply.Gives

/-- A batch consists of the next answers of the source. -/
theorem gives_drawUntil (range : Range) (counts : Int → Bool) (left wanted : Nat) (source : σ) :
    Supply.Gives range ⟨source, left⟩
      ((drawUntil range counts left wanted source).values.map (Draw.mk range))
      (drawUntil range counts left wanted source).supply := by
  fun_induction drawUntil range counts left wanted source with
  | case1 left source => exact .nothing _
  | case2 wanted source => exact .nothing _
  | case3 left wanted source value next hanswer ih =>
    have hvalue : value = (RandomSource.draw range source).1 := by rw [hanswer]
    have hnext : next = (RandomSource.draw range source).2 := by rw [hanswer]
    subst hvalue hnext
    exact .next ih

/-- In a complete batch as many values count as were wanted. -/
theorem countP_of_drawUntil {range : Range} {counts : Int → Bool} {left wanted : Nat} {source : σ}
    (h : (drawUntil range counts left wanted source).complete = true) :
    (drawUntil range counts left wanted source).values.countP counts = wanted := by
  fun_induction drawUntil range counts left wanted source with
  | case1 left source => rfl
  | case2 wanted source => cases h
  | case3 left wanted source value next hanswer ih =>
    rw [Batch.cons, List.countP_cons, ih h]
    split <;> rfl

/-- Whatever its supply and however it ends, the play draws from one range only. -/
def Play.AsksOnly (range : Range) (play : Play σ α) : Prop :=
  ∀ supply : Supply σ, supply.Gives range (play supply).draws (play supply).supply

/-- Plays in a row draw from one range if all of them do. -/
theorem Play.AsksOnly.compositional {range : Range} :
    Compositional (AsksOnly (σ := σ) range) where
  pure value := fun supply => .nothing supply
  report event := fun supply => .nothing supply
  bind {α β play next} hplay hnext := by
    intro supply
    have hfirst := hplay supply
    change Supply.Gives range supply (andThen play next supply).draws
      (andThen play next supply).supply
    simp only [andThen]
    split
    · exact hfirst
    · exact hfirst.trans (hnext _ _)

/-- Evaluating a roll draws dice of the roll, whether or not it ends with an outcome. -/
theorem asksOnly_evaluate (settings : Settings) (roll : Roll) :
    Play.AsksOnly (dieRange roll.dice.sides) (evaluate settings roll : Play σ Outcome) := by
  refine Play.AsksOnly.compositional.evaluate ?_ ?_
  · exact fun counts wanted _ supply => gives_drawUntil _ counts supply.left wanted supply.source
  · exact fun rejection _ supply => .nothing supply

/-! ## Steps -/

/-- A modifier that was applied, with the dice that it found and the outcome that it left. -/
structure Step where
  modifier : Modifier
  before : List Int
  after : Outcome
  deriving DecidableEq

/-- The steps of applying modifiers, for as long as dice remain and no step fails. -/
def stepsFrom (sides : Int) : List Modifier → Outcome → Supply σ → List Step
  | modifier :: modifiers, some dice, supply =>
    let record := modifier.apply sides dice supply
    match record.ending with
    | .error _ => []
    | .ok result => ⟨modifier, dice, settle result⟩ ::
        stepsFrom sides modifiers (settle result) record.supply
  | _, _, _ => []

/-- The steps that follow when the dice of a roll have been rolled. -/
def Roll.steps (roll : Roll) (supply : Supply σ) : List Step :=
  let record := rollDice roll.dice supply
  match record.ending with
  | .error _ => []
  | .ok dice => stepsFrom roll.dice.sides roll.modifiers (settle (some dice)) record.supply

variable {supply middle : Supply σ} {draws : List Draw} {events : List Event}

/-- A modifier that completes is the first step. -/
theorem stepsFrom_cons {sides : Int} {modifier : Modifier} {dice : List Int} {result : Outcome}
    (h : modifier.apply sides dice supply = ⟨.ok result, middle, draws, events⟩)
    (modifiers : List Modifier) :
    stepsFrom sides (modifier :: modifiers) (some dice) supply =
      ⟨modifier, dice, settle result⟩ :: stepsFrom sides modifiers (settle result) middle := by
  rw [stepsFrom]
  simp only [h]

/-- An explosion that completes is the first step. -/
theorem stepsFrom_explode {sides threshold : Int} {dice exploded : List Int}
    (h : explode dice threshold sides supply = ⟨.ok exploded, middle, draws, events⟩)
    (modifiers : List Modifier) :
    stepsFrom sides (⟨.explode, threshold⟩ :: modifiers) (some dice) supply =
      ⟨⟨.explode, threshold⟩, dice, settle (some exploded)⟩ ::
        stepsFrom sides modifiers (settle (some exploded)) middle :=
  stepsFrom_cons ((Modifier.apply_eq_ok_iff_of_explode rfl).mpr ⟨_, h, rfl⟩) modifiers

/-- The steps of a roll start with its dice. -/
theorem Roll.steps_eq {roll : Roll} {dice : List Int}
    (h : rollDice roll.dice supply = ⟨.ok dice, middle, draws, events⟩) :
    roll.steps supply =
      stepsFrom roll.dice.sides roll.modifiers (settle (some dice)) middle := by
  rw [Roll.steps]
  simp only [h]

end Tabletop
