import Tabletop.Rolling.Draft
import Tabletop.Settings.Layers

/-!
# Sessions

A session is what one command leaves behind for the next: the environment and the file of variables,
the settings in use, the random source, and the last outcome and roll. Settings are built when they are
first needed and then used until they are cleared; settings that are refused are not kept.
-/

namespace Tabletop

/-- The state between two commands. -/
structure Session where
  /-- The name in front of the names of variables. -/
  application : Text
  environment : Bindings Text
  /-- The text of the file of variables, if there is one. -/
  file : Option Text
  /-- The settings in use. -/
  cached : Option Settings
  /-- The least level of messages that are shown. -/
  level : Level
  /-- The random source, if one was given. -/
  supply : Option (Supply Generator)
  /-- The number of values drawn so far. -/
  drawn : Nat
  /-- The ranges asked for so far, in order of first use. -/
  ranges : List Range
  outcome : Outcome
  roll : Option Roll

/-- What to do with a roll is told by giving its text, a draft of it, or nothing for the current one. -/
inductive Target
  | text (text : Text)
  | draft (draft : Draft)
  | current

namespace Session

/-- The session before the first command. -/
def start (application : Text) (environment : Bindings Text) (file : Option Text)
    (supply : Option (Supply Generator)) : Session :=
  { application, environment, file, supply, cached := none, level := .warning, drawn := 0, ranges := [],
    outcome := none, roll := none }

/-- The layers of settings given by keywords, with the environment and the file. -/
def layers (session : Session) (keywords : Bindings Datum) : Layers :=
  { conventions := .standard
    application := session.application
    keywords
    environment := session.environment
    file := session.file }

/-- The settings given by keywords and the environment alone. -/
def explicitSettings (session : Session) (keywords : Bindings Datum) : Except SettingsError Settings :=
  Layers.settings { session.layers keywords with file := none }

/-- The settings in use, or those that would be built now. -/
def commonSettings (session : Session) : Except SettingsError Settings :=
  match session.cached with
  | some settings => .ok settings
  | none => (session.layers []).settings

/-- Keep the settings in use, building them if necessary. -/
def remember (session : Session) : Session := { session with cached := session.commonSettings.toOption }

/-- The settings for a command, which are those in use unless the command brings keywords. -/
def settingsFor (session : Session) : Option (Bindings Datum) → Except SettingsError Settings
  | some keywords => session.explicitSettings keywords
  | none => session.commonSettings

/-- The session after the settings for a command have been looked up. -/
def afterSettingsFor (session : Session) : Option (Bindings Datum) → Session
  | some _ => session
  | none => session.remember

/-- Note that a range was asked for. -/
def addRange (ranges : List Range) (range : Range) : List Range :=
  if ranges.contains range then ranges else ranges ++ [range]

/-- Run a play on the random source. Without one, the play has a source of its own that gives the lowest
values, for as many draws as are allowed then. -/
def run {α : Type} (session : Session) (allowed : Nat) (play : Play Generator α) :
    Record Generator α × Session :=
  match session.supply with
  | none => (play ⟨.lowest, allowed⟩, session)
  | some supply =>
    let record := play supply
    (record,
      { session with
        supply := some record.supply
        drawn := session.drawn + record.draws.length
        ranges := (record.draws.map Draw.range).foldl addRange session.ranges })

/-- The roll that a target means, if there is one. -/
def find (session : Session) : Target → Except Failure (Option Draft)
  | .text text => ((Roll.parse text).map fun reading => some (Draft.ofRoll reading.value)).mapError .parse
  | .draft draft => .ok (some draft)
  | .current => .ok (session.roll.map Draft.ofRoll)

end Session

end Tabletop
