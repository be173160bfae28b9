import Tabletop.Failure
import Tabletop.Rolling.Event
import Tabletop.Rolling.Source

/-!
# Plays

A play uses a supply of random numbers and ends with a value or a failure. Its record keeps every draw
and every event in order, whichever way it ends. Plays are composed one after the other; a failed play
ends the whole composition.
-/

namespace Tabletop

/-- A value drawn, and the range it was asked from. -/
structure Draw where
  range : Range
  value : Int
  deriving DecidableEq

/-- What is known after a play: how it ended, what is left of the supply, and what happened. -/
structure Record (σ α : Type) where
  ending : Except Failure α
  supply : Supply σ
  draws : List Draw
  events : List Event

/-- A computation that may draw random numbers, report events and fail. -/
def Play (σ α : Type) : Type := Supply σ → Record σ α

namespace Play

variable {σ α β : Type}

/-- End with a value at once. -/
def succeed (value : α) : Play σ α := fun supply => ⟨.ok value, supply, [], []⟩

/-- End with a failure at once. -/
def fail (failure : Failure) : Play σ α := fun supply => ⟨.error failure, supply, [], []⟩

/-- Go on with the value of a play, unless it failed. -/
def andThen (play : Play σ α) (next : α → Play σ β) : Play σ β := fun supply =>
  let first := play supply
  match first.ending with
  | .error failure => { first with ending := .error failure }
  | .ok value =>
    let second := next value first.supply
    { second with draws := first.draws ++ second.draws, events := first.events ++ second.events }

instance : Monad (Play σ) where
  pure := succeed
  bind := andThen

/-- End with the value or the failure of a computation without effects. -/
def ofExcept : Except Failure α → Play σ α
  | .ok value => succeed value
  | .error failure => fail failure

/-- Report an event. -/
def report (event : Event) : Play σ Unit := fun supply => ⟨.ok (), supply, [], [event]⟩

/-- Draw until the wanted number of values that count has come up, and return all values drawn. -/
def drawBatch [RandomSource σ] (range : Range) (counts : Int → Bool) (wanted : Nat) :
    Play σ (List Int) := fun supply =>
  let batch := drawUntil range counts supply.left wanted supply.source
  { ending := if batch.complete then .ok batch.values else .error .exhausted
    supply := batch.supply
    draws := batch.values.map fun value => ⟨range, value⟩
    events := [] }

/-- Ending at once after a play changes nothing. -/
theorem andThen_succeed (play : Play σ α) : andThen play succeed = play := by
  funext supply
  simp only [andThen, succeed]
  split
  · rename_i failure hending
    simp [← hending]
  · rename_i value hending
    simp [← hending]

/-- Playing on is associative. -/
theorem andThen_assoc {γ : Type} (play : Play σ α) (next : α → Play σ β) (last : β → Play σ γ) :
    andThen (andThen play next) last = andThen play fun value => andThen (next value) last := by
  funext supply
  simp only [andThen]
  cases (play supply).ending with
  | error failure => rfl
  | ok value =>
    simp only
    cases (next value (play supply).supply).ending with
    | error failure => rfl
    | ok value => simp only [List.append_assoc]

instance : LawfulMonad (Play σ) :=
  LawfulMonad.mk' _ andThen_succeed (fun _ _ => rfl) andThen_assoc

end Play

end Tabletop
