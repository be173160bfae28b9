import Tabletop.Scalar.RollCalculation
import Tabletop.Session.Command

/-!
# Running commands

One command takes a session to its reply and the next session. A command that fails leaves the current
outcome and the current roll as they were.
-/

namespace Tabletop

namespace Session

/-- Reply without any events. -/
def reply (session : Session) (answer : Except Failure Answer) : Reply × Session :=
  (⟨answer, []⟩, session)

/-- The events that are shown at the level of the session. -/
def shown (session : Session) (events : List Event) : List Event :=
  events.filter fun event => session.level.shows event.level

/-- The most draws that a roll can need when every die shows its lowest face. -/
def privateAllowance : Nat := UInt64.size

/-- Run a play for an outcome, which becomes the current one. -/
def replyOutcome (session : Session) (allowed : Nat) (play : Play Generator Outcome) : Reply × Session :=
  let (record, next) := session.run allowed play
  let next :=
    match record.ending with
    | .ok outcome => { next with outcome }
    | .error _ => next
  (⟨record.ending.map .outcome, session.shown record.events⟩, next)

/-- Run a play for a number. -/
def replyFloat (session : Session) (allowed : Nat) (play : Play Generator Float) : Reply × Session :=
  let (record, next) := session.run allowed play
  (⟨record.ending.map .float, session.shown record.events⟩, next)

/-- The given outcome, or the current one. -/
def given (session : Session) (outcome : Option Outcome) : Outcome := outcome.getD session.outcome

/-- The given outcome, or the current one, as dice. -/
def dice (session : Session) (outcome : Option Outcome) : List Int := (session.given outcome).getD []

/-- The given operand, or the current outcome. -/
def operand (session : Session) (operand : Option Operand) : Operand :=
  operand.getD (.scalar (.roll session.outcome))

/-- Look for a roll and then for the settings, and go on with both. -/
def withRoll (session : Session) (target : Target) (keywords : Option (Bindings Datum))
    (next : Session → Settings → Draft → Reply × Session) : Reply × Session :=
  match session.find target with
  | .error failure => session.reply (.error failure)
  | .ok draft =>
    let after := session.afterSettingsFor keywords
    match session.settingsFor keywords, draft with
    | .error error, _ => after.reply (.error (.settings error))
    | .ok _, none => after.reply (.error .missingRoll)
    | .ok settings, some draft => next after settings draft

/-- Look for the settings and go on with them. -/
def withSettings (session : Session) (keywords : Option (Bindings Datum))
    (next : Session → Settings → Reply × Session) : Reply × Session :=
  let after := session.afterSettingsFor keywords
  match session.settingsFor keywords with
  | .error error => after.reply (.error (.settings error))
  | .ok settings => next after settings

/-- Read a text, and make the roll read the current one. -/
def readRoll {α : Type} (session : Session) (reading : Except ParseError α) (roll : α → Roll)
    (answer : α → Answer) : Reply × Session :=
  match reading with
  | .error error => session.reply (.error (.parse error))
  | .ok value => { session with roll := some (roll value) }.reply (.ok (answer value))

/-- Check a draft against the settings. -/
def checked (settings : Settings) (draft : Draft) : Except Failure Answer :=
  match draft.rejection? settings with
  | some rejection => .error (.rejected rejection)
  | none => .ok .valid

/-- Run one command. -/
def step (session : Session) : Command → Reply × Session
  | .parseRoll text => session.readRoll (Roll.parse text) Reading.value .parsedRoll
  | .parseOperation text => session.reply ((Operation.parse text).map .parsedOperation |>.mapError .parse)
  | .parseCalculation text =>
    session.readRoll (Calculation.parse text) (fun reading => reading.value.roll) .parsedCalculation
  | .nameKind letter => session.reply ((ModifierKind.named letter).map .kind)
  | .nameOperation symbol => session.reply ((Operation.named symbol).map .operation)
  | .write draft => session.reply draft.written
  | .compareRolls first second => session.reply ((compareRolls first second).mapError .parse)
  | .compareScalars first second => session.reply (.ok (.equal (first.equals second)))
  | .validate target keywords =>
    session.withRoll target keywords fun after settings draft => after.reply (checked settings draft)
  | .rollDice dice => session.replyOutcome 0 (some <$> rollDice dice)
  | .explode outcome threshold sides =>
    session.replyOutcome 0 (some <$> explode (session.dice outcome) threshold sides)
  | .remove outcome count => session.replyOutcome 0 (pure (remove (session.dice outcome) count))
  | .keep outcome count => session.replyOutcome 0 (pure (some (keep (session.dice outcome) count)))
  | .keepLower outcome count => session.replyOutcome 0 (pure (some (keepLower (session.dice outcome) count)))
  | .evaluate target keywords =>
    session.withRoll target keywords fun after settings draft => after.replyOutcome 0 (draft.evaluate settings)
  | .roll text =>
    let after := if (Roll.parseWhole text).isOk then session.remember else session
    after.replyOutcome privateAllowance (rollText session.commonSettings text)
  | .summarize outcome successAt failureAt =>
    session.reply (.ok (.summary (summarize (session.given outcome) successAt failureAt)))
  | .reduce operand => session.reply (operand.toFloat.map .float)
  | .combine first second symbol =>
    session.reply ((combineOperands (session.operand first) (session.operand second) symbol).map .float)
  | .rollAndCalculate text =>
    let after := if (Calculation.parseWhole text).isOk then session.remember else session
    after.replyFloat privateAllowance (rollAndCalculate session.commonSettings text)
  | .buildSettings keywords =>
    session.reply (((session.layers keywords).settings.map .settings).mapError .settings)
  | .showSettings => session.withSettings none fun after settings => after.reply (.ok (.settings settings))
  | .clearSettings => { session with cached := none }.reply (.ok .done)
  | .configureMessages keywords =>
    session.withSettings keywords fun after settings =>
      { after with level := settings.logLevel }.reply (.ok (.level settings.logLevel))
  | .setVariable name value =>
    { session with environment := Bindings.put name value session.environment }.reply (.ok .done)
  | .unsetVariable name =>
    { session with environment := Bindings.unbind name session.environment }.reply (.ok .done)
  | .writeFile text => { session with file := text }.reply (.ok .done)

/-- Run commands one after the other, noting each reply with the session after it. -/
def trace : Session → List Command → List (Reply × Session)
  | _, [] => []
  | session, command :: commands =>
    let (reply, next) := session.step command
    (reply, next) :: trace next commands

end Session

end Tabletop
