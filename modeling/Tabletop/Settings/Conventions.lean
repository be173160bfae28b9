import Tabletop.Settings.EnvFile
import Tabletop.Settings.Value
import Tabletop.Text.LowerCase

/-!
# Conventions for settings from outside

Settings come in from layers that others fill: keywords, the environment, a file. Which layer counts
before which, when two names are the same, how a file is written and what counts as a whole number are
conventions of whoever hands the layers over. They are a parameter here, with one instance that is used.
-/

namespace Tabletop

/-- A layer above the standard settings. -/
inductive Layer
  | keywords
  | environment
  | file
  deriving DecidableEq

/-- The conventions that those who fill the layers follow. -/
structure Conventions where
  /-- The layers, from the one that counts first. -/
  order : List Layer
  /-- Keywords with the same key are for the same setting. -/
  keywordKey : Text → Text
  /-- Variables with the same key are for the same setting. -/
  variableKey : Text → Text
  /-- The lines of a file that define something. -/
  linesOf : Text → List EnvFile.Entry
  /-- A value of a line with the references in it replaced. -/
  expand : Bindings (Option Text) → Text → Text
  /-- The whole number that a value stands for. -/
  wholeOf : Datum → Except Flaw Int

/-- The conventions in use: names agree in any case. -/
def Conventions.standard : Conventions where
  order := [.keywords, .environment, .file]
  keywordKey := Text.lower
  variableKey := Text.lower
  linesOf := EnvFile.linesOf
  expand := EnvFile.expand
  wholeOf := Tabletop.wholeOf

end Tabletop
