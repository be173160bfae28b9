import Tabletop.Settings.Basic

/-!
# Settings that are refused

Each setting is checked on its own, and all settings with an invalid value are reported together.
-/

namespace Tabletop

/-- A setting, in the alphabetical order of their names. -/
inductive Setting
  | logLevel
  | maxDice
  | maxSides
  deriving DecidableEq

/-- The name of a setting. -/
def Setting.name : Setting → Text
  | logLevel => "log_level".toList
  | maxDice => "max_dice".toList
  | maxSides => "max_sides".toList

/-- What is wrong with the value of a setting. -/
inductive Flaw
  /-- A whole number below one. -/
  | notPositive
  /-- A text that is no whole number. -/
  | notWhole
  /-- A text with more digits than are read, or a number beyond the range of words. -/
  | tooLong
  /-- A number with a fraction. -/
  | fractional
  /-- An infinite number, or no number at all. -/
  | infinite
  /-- A value of a kind that is never a number. -/
  | notNumeric
  /-- A level without one of the five names. -/
  | unknownLevel
  deriving DecidableEq

/-- The settings with an invalid value, each with its flaw. -/
structure SettingsError where
  flaws : List (Setting × Flaw)
  deriving DecidableEq

end Tabletop
