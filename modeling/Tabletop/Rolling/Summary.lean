import Tabletop.Rolling.Selection

/-!
# Summaries

The total of an outcome, and how many of its dice count as successes and as failures.
-/

namespace Tabletop

/-- What an outcome amounts to. -/
structure Summary where
  kept : List Int
  total : Int
  successes : Nat
  failures : Nat
  deriving DecidableEq

/-- No dice remained. -/
def Summary.isEmpty (summary : Summary) : Bool := summary.kept.isEmpty

/-- Total an outcome. Dice at or above `successAt` are successes, dice at or below `failureAt` are
failures, and without these bounds there are none. -/
def summarize (outcome : Outcome) (successAt failureAt : Option Int) : Summary :=
  let kept := outcome.getD []
  { kept
    total := total kept
    successes := successAt.elim 0 fun bound => kept.countP fun die => decide (bound ≤ die)
    failures := failureAt.elim 0 fun bound => kept.countP fun die => decide (die ≤ bound) }

end Tabletop
