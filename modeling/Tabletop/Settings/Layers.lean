import Tabletop.Settings.Conventions

/-!
# Where settings come from

A setting takes its value from the first layer that defines it, in the order of the conventions, and else
from the standard settings. Keywords carry the name of the setting, and variables have the name of the
application in front of it. Only the value that is taken is checked.
-/

namespace Tabletop

/-- The layers above the standard settings, with the conventions for them. -/
structure Layers where
  conventions : Conventions
  application : Text
  keywords : Bindings Datum
  environment : Bindings Text
  /-- The text of the file of variables, if there is one. -/
  file : Option Text

namespace Layers

/-- The name of the variable for a setting. -/
def variableName (layers : Layers) (setting : Setting) : Text :=
  layers.application ++ '_' :: setting.name

/-- The lines of the file of variables, of which there are none without a file. -/
def lines (layers : Layers) : List EnvFile.Entry :=
  (layers.file.map layers.conventions.linesOf).getD []

/-- The value of a setting in the keywords. -/
def keyword? (layers : Layers) (setting : Setting) : Option Datum :=
  Bindings.latest? layers.conventions.keywordKey setting.name layers.keywords

/-- The value of a setting in the environment. -/
def environmentValue? (layers : Layers) (setting : Setting) : Option Text :=
  Bindings.latest? layers.conventions.variableKey (layers.variableName setting) layers.environment

/-- The value of a setting in the file, where a name without a value defines nothing. -/
def fileValue? (layers : Layers) (setting : Setting) : Option Text :=
  (Bindings.latest? layers.conventions.variableKey (layers.variableName setting)
    (EnvFile.define layers.conventions.expand layers.environment layers.lines)).join

/-- The value of a setting in one layer. -/
def valueIn? (layers : Layers) (setting : Setting) : Layer → Option Datum
  | .keywords => layers.keyword? setting
  | .environment => (layers.environmentValue? setting).map .text
  | .file => (layers.fileValue? setting).map .text

/-- The value of a setting in the first layer that defines it. -/
def value? (layers : Layers) (setting : Setting) : Option Datum :=
  layers.conventions.order.findSome? (layers.valueIn? setting)

/-- The checked value of a setting, or the standard one where no layer defines it. -/
def resolve {α : Type} (layers : Layers) (setting : Setting) (check : Datum → Except Flaw α)
    (standard : α) : Except Flaw α :=
  (layers.value? setting).elim (.ok standard) check

/-- The flaw of a setting that was not accepted. -/
def flaw {α : Type} (setting : Setting) : Except Flaw α → List (Setting × Flaw)
  | .ok _ => []
  | .error flaw => [(setting, flaw)]

/-- The settings that the layers define, or all settings with an invalid value. -/
def settings (layers : Layers) : Except SettingsError Settings :=
  let standard := Settings.standard
  let logLevel := layers.resolve .logLevel levelOf standard.logLevel
  let limit := limitOf layers.conventions.wholeOf
  let maxDice := layers.resolve .maxDice limit ⟨standard.maxDice, standard.maxDice_pos⟩
  let maxSides := layers.resolve .maxSides limit ⟨standard.maxSides, standard.maxSides_pos⟩
  match logLevel, maxDice, maxSides with
  | .ok logLevel, .ok maxDice, .ok maxSides =>
    .ok ⟨maxDice.1, maxSides.1, logLevel, maxDice.2, maxSides.2⟩
  | logLevel, maxDice, maxSides =>
    .error ⟨flaw .logLevel logLevel ++ flaw .maxDice maxDice ++ flaw .maxSides maxSides⟩

end Layers

end Tabletop
