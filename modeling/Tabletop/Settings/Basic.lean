import Tabletop.Text.Basic

/-!
# Settings

The limits on what may be rolled and the level of messages that are shown. Limits are positive.
-/

namespace Tabletop

/-- How important a message is. -/
inductive Level
  | debug
  | info
  | warning
  | error
  | critical
  deriving DecidableEq

namespace Level

/-- All levels, from the least to the most important. -/
def all : List Level := [debug, info, warning, error, critical]

/-- The place of a level among all levels. -/
def rank : Level → Nat
  | debug => 0
  | info => 1
  | warning => 2
  | error => 3
  | critical => 4

/-- The name of a level. -/
def name : Level → Text
  | debug => "DEBUG".toList
  | info => "INFO".toList
  | warning => "WARNING".toList
  | error => "ERROR".toList
  | critical => "CRITICAL".toList

/-- The level with exactly this name. -/
def ofName? (text : Text) : Option Level := all.find? fun level => level.name == text

/-- Is a message of the given level shown when this is the least level to be shown? -/
def shows (least level : Level) : Bool := least.rank ≤ level.rank

end Level

/-- Limits on rolls, and the least level of messages to be shown. -/
structure Settings where
  maxDice : Nat
  maxSides : Nat
  logLevel : Level
  maxDice_pos : 0 < maxDice
  maxSides_pos : 0 < maxSides
  deriving DecidableEq

/-- The settings where nothing else is said. -/
def Settings.standard : Settings :=
  ⟨10000, 1000000, .warning, by decide, by decide⟩

end Tabletop
