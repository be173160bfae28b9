import Mathlib.Data.List.DropRight
import Tabletop.Proofs.Scalar.Failures
import Tabletop.Session.Step

/-!
# The settings in use

Settings are built when a command first needs them, and every later command that needs them gets the
same ones until they are cleared, however the environment and the file have changed by then. Settings
that are refused are not kept, so the next command that needs settings builds them again. Commands
that bring their own settings or fail before they need any leave the settings in use alone.
-/

namespace Tabletop

/-- A computation that went well has a value. -/
theorem exists_of_isOk {ε α : Type} {result : Except ε α} (h : result.isOk = true) :
    ∃ value, result = .ok value := by
  cases result with
  | error e => cases h
  | ok value => exact ⟨value, rfl⟩

/-- A computation that did not go well has an error. -/
theorem exists_of_not_isOk {ε α : Type} {result : Except ε α} (h : result.isOk = false) :
    ∃ e, result = .error e := by
  cases result with
  | error e => exact ⟨e, rfl⟩
  | ok value => cases h

/-- Does the command drop the settings in use? -/
def Command.clears : Command → Bool
  | clearSettings => true
  | _ => false

namespace Session

/-- The settings that the environment and the file give now. -/
def builtSettings (session : Session) : Except SettingsError Settings := (session.layers []).settings

/-- Does the command get as far as needing the settings in use? It must not bring its own, and the roll
that it is about must be found first. -/
def needsSettings (session : Session) : Command → Bool
  | .validate target none => (session.find target).isOk
  | .evaluate target none => (session.find target).isOk
  | .roll text => (Roll.parseWhole text).isOk
  | .rollAndCalculate text => (Calculation.parseWhole text).isOk
  | .showSettings => true
  | .configureMessages none => true
  | _ => false

/-- Look for a roll and go on with it. -/
def withDraft (session : Session) (target : Target) (next : Draft → Reply × Session) : Reply × Session :=
  match session.find target with
  | .error failure => session.reply (.error failure)
  | .ok none => session.reply (.error .missingRoll)
  | .ok (some draft) => next draft

/-- What the session answers to a command that works with the given settings. -/
def answerWith (session : Session) (settings : Settings) : Command → Reply × Session
  | .validate target _ => session.withDraft target fun draft => session.reply (checked settings draft)
  | .evaluate target _ =>
    session.withDraft target fun draft => session.replyOutcome 0 (draft.evaluate settings)
  | .roll text => session.replyOutcome privateAllowance (rollText (.ok settings) text)
  | .rollAndCalculate text => session.replyFloat privateAllowance (rollAndCalculate (.ok settings) text)
  | .showSettings => session.reply (.ok (.settings settings))
  | .configureMessages _ =>
    { session with level := settings.logLevel }.reply (.ok (.level settings.logLevel))
  | command => session.step command

/-- The session with other settings in use, or none. -/
def withCached (session : Session) (cached : Option Settings) : Session := { session with cached }

/-! ## One command -/

variable {session : Session} {command : Command} {settings : Settings} {error : SettingsError}

/-- Which roll is found does not depend on the settings in use. -/
theorem find_withCached (session : Session) (cached : Option Settings) (target : Target) :
    (session.withCached cached).find target = session.find target := by
  cases target <;> rfl

/-- A command gets the settings in use, or else those that can be built. -/
theorem commonSettings_eq_ok_iff : session.commonSettings = .ok settings ↔
    session.cached.or session.builtSettings.toOption = some settings := by
  rw [commonSettings, builtSettings]
  cases session.cached with
  | some cached => simp
  | none => cases (session.layers []).settings <;> simp [Except.toOption]

/-- A command gets no settings if there are none in use and those to be built are refused. -/
theorem commonSettings_eq_error_iff : session.commonSettings = .error error ↔
    session.cached = none ∧ session.builtSettings = .error error := by
  rw [commonSettings, builtSettings]
  cases session.cached with
  | some cached => simp
  | none => simp

/-- Settings in use, or built now, are remembered. -/
theorem remember_of_ok (h : session.commonSettings = .ok settings) :
    session.remember = session.withCached (some settings) := by
  rw [remember, h]
  rfl

/-- Settings that are refused leave the session as it was. -/
theorem remember_of_error (h : session.commonSettings = .error error) : session.remember = session := by
  rw [remember, h]
  exact congrArg session.withCached (commonSettings_eq_error_iff.mp h).1.symm

/-- A play that fails at once leaves the session as it was. -/
theorem run_fail {α : Type} (session : Session) (allowed : Nat) (failure : Failure) :
    ∃ supply, session.run allowed (Play.fail failure : Play Generator α) =
      (⟨.error failure, supply, [], []⟩, session) := by
  cases hsupply : session.supply with
  | none => exact ⟨⟨.lowest, allowed⟩, by simp [run, hsupply, Play.fail]⟩
  | some supply =>
    refine ⟨supply, ?_⟩
    cases session
    cases hsupply
    rfl

/-- A roll that fails at once is answered by its failure alone. -/
theorem replyOutcome_fail (session : Session) (allowed : Nat) (failure : Failure) :
    session.replyOutcome allowed (Play.fail failure) = (⟨.error failure, []⟩, session) := by
  obtain ⟨supply, hrun⟩ := run_fail (α := Outcome) session allowed failure
  simp [replyOutcome, hrun, Except.map, shown]

/-- A calculation that fails at once is answered by its failure alone. -/
theorem replyFloat_fail (session : Session) (allowed : Nat) (failure : Failure) :
    session.replyFloat allowed (Play.fail failure) = (⟨.error failure, []⟩, session) := by
  obtain ⟨supply, hrun⟩ := run_fail (α := Float) session allowed failure
  simp [replyFloat, hrun, Except.map, shown]

/-- A command that needs settings and gets them works with them, and they are the settings in use from
then on. -/
theorem step_of_needsSettings (h : session.needsSettings command = true)
    (hsettings : session.commonSettings = .ok settings) :
    session.step command = (session.withCached (some settings)).answerWith settings command := by
  have hroll (target : Target) (hfind : (session.find target).isOk = true)
      (next : Session → Settings → Draft → Reply × Session) :
      session.withRoll target none next = (session.withCached (some settings)).withDraft target
        (next (session.withCached (some settings)) settings) := by
    simp only [withRoll, withDraft, settingsFor, afterSettingsFor, hsettings, remember_of_ok hsettings,
      find_withCached]
    obtain ⟨draft, hdraft⟩ := exists_of_isOk hfind
    rw [hdraft]
    cases draft <;> rfl
  have hgeneral (next : Session → Settings → Reply × Session) :
      session.withSettings none next = next (session.withCached (some settings)) settings := by
    simp only [withSettings, settingsFor, afterSettingsFor, hsettings, remember_of_ok hsettings]
  cases command with
  | validate target keywords =>
    cases keywords with
    | none =>
      rw [step, answerWith]
      exact hroll target h _
    | some keywords => cases h
  | evaluate target keywords =>
    cases keywords with
    | none =>
      rw [step, answerWith]
      exact hroll target h _
    | some keywords => cases h
  | roll text =>
    rw [needsSettings] at h
    rw [step, answerWith, if_pos h, hsettings, remember_of_ok hsettings]
  | rollAndCalculate text =>
    rw [needsSettings] at h
    rw [step, answerWith, if_pos h, hsettings, remember_of_ok hsettings]
  | showSettings =>
    rw [step, answerWith]
    exact hgeneral _
  | configureMessages keywords =>
    cases keywords with
    | none =>
      rw [step, answerWith]
      exact hgeneral _
    | some keywords => cases h
  | _ => cases h

/-- A command that needs settings which are refused fails with the flaws, and nothing else happens. -/
theorem step_of_refused (h : session.needsSettings command = true)
    (hsettings : session.commonSettings = .error error) :
    session.step command = (⟨.error (.settings error), []⟩, session) := by
  have hroll (target : Target) (hfind : (session.find target).isOk = true)
      (next : Session → Settings → Draft → Reply × Session) :
      session.withRoll target none next = (⟨.error (.settings error), []⟩, session) := by
    simp only [withRoll, settingsFor, afterSettingsFor, hsettings, remember_of_error hsettings]
    obtain ⟨draft, hdraft⟩ := exists_of_isOk hfind
    rw [hdraft]
    rfl
  have hgeneral (next : Session → Settings → Reply × Session) :
      session.withSettings none next = (⟨.error (.settings error), []⟩, session) := by
    simp only [withSettings, settingsFor, afterSettingsFor, hsettings, remember_of_error hsettings]
    rfl
  cases command with
  | validate target keywords =>
    cases keywords with
    | none =>
      rw [step]
      exact hroll target h _
    | some keywords => cases h
  | evaluate target keywords =>
    cases keywords with
    | none =>
      rw [step]
      exact hroll target h _
    | some keywords => cases h
  | roll text =>
    rw [needsSettings] at h
    obtain ⟨roll, hparse⟩ := exists_of_isOk h
    rw [step, if_pos h, hsettings, remember_of_error hsettings, rollText_of_refused hparse,
      replyOutcome_fail]
  | rollAndCalculate text =>
    rw [needsSettings] at h
    obtain ⟨calculation, hparse⟩ := exists_of_isOk h
    rw [step, if_pos h, hsettings, remember_of_error hsettings, rollAndCalculate_of_refused hparse,
      replyFloat_fail]
  | showSettings =>
    rw [step]
    exact hgeneral _
  | configureMessages keywords =>
    cases keywords with
    | none =>
      rw [step]
      exact hgeneral _
    | some keywords => cases h
  | _ => cases h

/-! ## Commands that bypass the settings in use -/

/-- The settings in use are no part of what an answer depends on, and they stay as they are. -/
def Bypasses (session : Session) (answer : Session → Reply × Session) : Prop :=
  ∀ cached, answer (session.withCached cached) =
    ((answer session).1, (answer session).2.withCached cached)

/-- Playing bypasses the settings in use. -/
theorem run_withCached {α : Type} (session : Session) (cached : Option Settings) (allowed : Nat)
    (play : Play Generator α) : (session.withCached cached).run allowed play =
      ((session.run allowed play).1, (session.run allowed play).2.withCached cached) := by
  have hsupply : (session.withCached cached).supply = session.supply := rfl
  rw [run, run, hsupply]
  cases session.supply <;> rfl

/-- A play for an outcome bypasses the settings in use. -/
theorem bypasses_replyOutcome (session : Session) (allowed : Nat) (play : Play Generator Outcome) :
    session.Bypasses fun session => session.replyOutcome allowed play := by
  intro cached
  simp only [replyOutcome, run_withCached]
  cases (session.run allowed play).1.ending <;> rfl

/-- A play for a number bypasses the settings in use. -/
theorem bypasses_replyFloat (session : Session) (allowed : Nat) (play : Play Generator Float) :
    session.Bypasses fun session => session.replyFloat allowed play := by
  intro cached
  simp only [replyFloat, run_withCached]
  rfl

/-- Reading a text bypasses the settings in use. -/
theorem bypasses_readRoll {α : Type} (session : Session) (reading : Except ParseError α) (roll : α → Roll)
    (answer : α → Answer) : session.Bypasses fun session => session.readRoll reading roll answer := by
  intro cached
  cases reading <;> rfl

/-- What is done with a roll bypasses the settings in use if the command brings settings or no roll is
found. -/
theorem bypasses_withRoll {target : Target} {keywords : Option (Bindings Datum)}
    {next : Session → Settings → Draft → Reply × Session}
    (hneeds : keywords = none → (session.find target).isOk = false)
    (hnext : ∀ settings draft, session.Bypasses fun session => next session settings draft) :
    session.Bypasses fun session => session.withRoll target keywords next := by
  intro cached
  simp only [withRoll, find_withCached]
  cases hfind : session.find target with
  | error failure => rfl
  | ok draft =>
    cases keywords with
    | none =>
      rw [hfind] at hneeds
      cases hneeds rfl
    | some keywords =>
      have hsettings : (session.withCached cached).settingsFor (some keywords) =
          session.settingsFor (some keywords) := rfl
      rw [hsettings]
      cases session.settingsFor (some keywords) with
      | error error => rfl
      | ok settings =>
        cases draft with
        | none => rfl
        | some draft => exact hnext settings draft cached

/-- A command that needs no settings in use and does not clear them bypasses them. -/
theorem bypasses_step (h : session.needsSettings command = false) (hclears : command.clears = false) :
    session.Bypasses fun session => session.step command := by
  cases command with
  | parseRoll text => exact session.bypasses_readRoll _ _ _
  | parseCalculation text => exact session.bypasses_readRoll _ _ _
  | validate target keywords =>
    change session.Bypasses fun session => session.withRoll target keywords fun after settings draft =>
      after.reply (checked settings draft)
    refine bypasses_withRoll (fun hnone => ?_) fun settings draft cached => rfl
    subst hnone
    exact h
  | evaluate target keywords =>
    refine bypasses_withRoll (fun hnone => ?_) fun settings draft => session.bypasses_replyOutcome _ _
    subst hnone
    exact h
  | rollDice dice => exact session.bypasses_replyOutcome _ _
  | explode outcome threshold sides =>
    exact session.bypasses_replyOutcome 0 (some <$> explode (session.dice outcome) threshold sides)
  | remove outcome count =>
    exact session.bypasses_replyOutcome 0 (pure (remove (session.dice outcome) count))
  | keep outcome count =>
    exact session.bypasses_replyOutcome 0 (pure (some (keep (session.dice outcome) count)))
  | keepLower outcome count =>
    exact session.bypasses_replyOutcome 0 (pure (some (keepLower (session.dice outcome) count)))
  | roll text =>
    obtain ⟨error, herror⟩ := exists_of_not_isOk h
    have hstep (session : Session) : session.step (.roll text) =
        session.replyOutcome privateAllowance (Play.fail (.parse error)) := by
      rw [step, rollText_of_error _ herror, herror]
      rfl
    simp only [hstep]
    exact session.bypasses_replyOutcome _ _
  | rollAndCalculate text =>
    obtain ⟨error, herror⟩ := exists_of_not_isOk h
    have hstep (session : Session) : session.step (.rollAndCalculate text) =
        session.replyFloat privateAllowance (Play.fail (.parse error)) := by
      rw [step, rollAndCalculate_of_error _ herror, herror]
      rfl
    simp only [hstep]
    exact session.bypasses_replyFloat _ _
  | showSettings => cases h
  | clearSettings => cases hclears
  | configureMessages keywords =>
    cases keywords with
    | none => cases h
    | some keywords =>
      intro cached
      have hexplicit : (session.withCached cached).explicitSettings keywords =
          session.explicitSettings keywords := rfl
      simp only [step, withSettings, settingsFor, hexplicit]
      cases session.explicitSettings keywords <;> rfl
  | _ => exact fun cached => rfl

/-- Working with given settings bypasses the settings in use. -/
theorem bypasses_answerWith (h : session.needsSettings command = true) :
    session.Bypasses fun session => session.answerWith settings command := by
  have hdraft (target : Target) {next : Session → Draft → Reply × Session}
      (hnext : ∀ draft, session.Bypasses fun session => next session draft) :
      session.Bypasses fun session => session.withDraft target (next session) := by
    intro cached
    simp only [withDraft, find_withCached]
    cases session.find target with
    | error failure => rfl
    | ok draft =>
      cases draft with
      | none => rfl
      | some draft => exact hnext draft cached
  cases command with
  | validate target keywords => exact hdraft target fun draft cached => rfl
  | evaluate target keywords => exact hdraft target fun draft => session.bypasses_replyOutcome _ _
  | roll text => exact session.bypasses_replyOutcome _ _
  | rollAndCalculate text => exact session.bypasses_replyFloat _ _
  | showSettings => exact fun cached => rfl
  | configureMessages keywords => exact fun cached => rfl
  | _ => cases h

/-- What bypasses the settings in use leaves them as they are. -/
theorem Bypasses.cached_eq {answer : Session → Reply × Session} (h : session.Bypasses answer) :
    (answer session).2.cached = session.cached :=
  congrArg (fun result => result.2.cached) (h session.cached)

/-! ## A whole session -/

/-- The settings that a command builds, if it needs any and they are not refused. -/
def built (session : Session) (command : Command) : Option Settings :=
  if session.needsSettings command then session.builtSettings.toOption else none

/-- A command that does not clear the settings in use keeps them, and if there are none it leaves those
that it builds. -/
theorem cached_step (hclears : command.clears = false) :
    (session.step command).2.cached = session.cached.or (session.built command) := by
  rw [built]
  cases hneeds : session.needsSettings command with
  | false => simpa using (bypasses_step hneeds hclears).cached_eq
  | true =>
    rw [if_pos rfl]
    cases hsettings : session.commonSettings with
    | ok settings =>
      rw [step_of_needsSettings hneeds hsettings, commonSettings_eq_ok_iff.mp hsettings]
      exact congrArg (fun result => result.2.cached) (bypasses_answerWith hneeds (some settings))
    | error error =>
      rw [step_of_refused hneeds hsettings]
      obtain ⟨hcached, hbuilt⟩ := commonSettings_eq_error_iff.mp hsettings
      rw [hcached, hbuilt]
      rfl

/-- The session after some commands. -/
def after (session : Session) (commands : List Command) : Session :=
  commands.foldl (fun session command => (session.step command).2) session

/-- Each command with the session in which it is run. -/
def visits : Session → List Command → List (Session × Command)
  | _, [] => []
  | session, command :: commands => (session, command) :: visits (session.step command).2 commands

/-- The last command is run in the session after the others. -/
theorem visits_concat (session : Session) (commands : List Command) (command : Command) :
    session.visits (commands ++ [command]) =
      session.visits commands ++ [(session.after commands, command)] := by
  induction commands generalizing session with
  | nil => rfl
  | cons first commands ih =>
    rw [List.cons_append, visits, ih, visits]
    rfl

/-- The last reply of a whole session is that to the last command. -/
theorem trace_concat (session : Session) (commands : List Command) (command : Command) :
    session.trace (commands ++ [command]) =
      session.trace commands ++ [(session.after commands).step command] := by
  induction commands generalizing session with
  | nil => rfl
  | cons first commands ih =>
    rw [List.cons_append, trace]
    simp only [ih]
    rfl

/-- The settings built by the first command that could build them since the settings in use were last
cleared. -/
def firstBuilt (visits : List (Session × Command)) : Option Settings :=
  (visits.rtakeWhile fun visit => !visit.2.clears).findSome? fun visit => visit.1.built visit.2

/-- The settings in use after any commands are the first ones that could be built since they were last
cleared. -/
theorem cached_after (hstart : session.cached = none) (commands : List Command) :
    (session.after commands).cached = firstBuilt (session.visits commands) := by
  -- The last command either ends the visits that count, or is the last one of them.
  induction commands using List.reverseRecOn with
  | nil => exact hstart
  | append_singleton commands command ih =>
    have hafter : session.after (commands ++ [command]) = ((session.after commands).step command).2 :=
      List.foldl_concat _ _ _ _
    rw [hafter, firstBuilt, visits_concat, List.rtakeWhile_concat]
    cases hclears : command.clears with
    | true =>
      cases command <;> cases hclears
      rfl
    | false =>
      rw [cached_step hclears, ih, if_pos (by simp), List.findSome?_append, firstBuilt]
      simp

/-- Settings in use over a whole session. Whatever the commands before, the settings in use are the first
ones that could be built since they were last cleared. The next command that needs settings works with
these, or with those that it builds now if there are none; and if they are refused, it fails with the
flaws, draws nothing, shows nothing and leaves the session as it was. A command that needs none, because
it brings its own or fails before, neither depends on the settings in use nor changes them. -/
theorem step_uses_first_built (session : Session) (hstart : session.cached = none)
    (commands : List Command) (command : Command) :
    let now := session.after commands
    let inUse := firstBuilt (session.visits commands)
    session.trace (commands ++ [command]) = session.trace commands ++ [now.step command] ∧
    now.cached = inUse ∧
    (now.needsSettings command = true →
      (∀ settings, inUse.or now.builtSettings.toOption = some settings →
        now.step command = (now.withCached (some settings)).answerWith settings command) ∧
      (∀ error, inUse = none → now.builtSettings = .error error →
        now.step command = (⟨.error (.settings error), []⟩, now))) ∧
    (now.needsSettings command = false → command.clears = false →
      now.Bypasses fun session => session.step command) := by
  intro now inUse
  have hcached : now.cached = inUse := cached_after hstart commands
  refine ⟨trace_concat session commands command, hcached, fun hneeds => ⟨?_, ?_⟩, bypasses_step⟩
  · intro settings hsettings
    rw [← hcached] at hsettings
    exact step_of_needsSettings hneeds (commonSettings_eq_ok_iff.mpr hsettings)
  · intro error hnone hrefused
    exact step_of_refused hneeds (commonSettings_eq_error_iff.mpr ⟨hcached.trans hnone, hrefused⟩)

/-- A limit that is no number is refused and not kept. A limit of one die stays in use when the variable
says otherwise later, and a roll of two dice is refused for it. -/
theorem step_uses_first_built_limit :
    let limit (text : String) := Command.setVariable "app_max_dice".toList text.toList
    let session := Session.start "app".toList [] none (some ⟨.script [2, 5], 20⟩)
    let one : Settings := ⟨1, 1000000, .warning, by decide, by decide⟩
    (session.after [limit "none"]).step (.roll "2d6".toList) =
      (⟨.error (.settings ⟨[(.maxDice, .notWhole)]⟩), []⟩, session.after [limit "none"]) ∧
    (session.after [limit "none", .showSettings, limit "1", .showSettings, limit "2"]).cached = some one ∧
    ((session.after [limit "none", .showSettings, limit "1", .showSettings, limit "2"]).step
      (.roll "2d6".toList)).1.answer = .error (.rejected (.tooManyDice 2 1)) := by
  intro limit session one
  obtain ⟨-, -, hrefused, -⟩ := step_uses_first_built session rfl [limit "none"] (.roll "2d6".toList)
  obtain ⟨-, hcached, hneeds, -⟩ := step_uses_first_built session rfl
    [limit "none", .showSettings, limit "1", .showSettings, limit "2"] (.roll "2d6".toList)
  have hread : Roll.parseWhole "2d6".toList = .ok ⟨⟨2, 6⟩, []⟩ := by
    decide +kernel
  have hneedsRoll (session : Session) : session.needsSettings (.roll "2d6".toList) = true :=
    congrArg Except.isOk hread
  have hnone : (session.after [limit "none"]).builtSettings = .error ⟨[(.maxDice, .notWhole)]⟩ := rfl
  have hone : firstBuilt
      (session.visits [limit "none", .showSettings, limit "1", .showSettings, limit "2"]) = some one := rfl
  refine ⟨(hrefused (hneedsRoll _)).2 _ rfl hnone, hcached.trans hone, ?_⟩
  have hsupply : (session.after [limit "none", .showSettings, limit "1", .showSettings, limit "2"]).supply =
      some ⟨.script [2, 5], 20⟩ := rfl
  have hroll (supply : Supply Generator) : (rollText (.ok one) "2d6".toList supply).ending =
      .error (.rejected (.tooManyDice 2 1)) := by
    rw [rollText_of_ok one hread]
    rfl
  rw [(hneeds (hneedsRoll _)).1 one (by rw [hone]; rfl)]
  simp only [answerWith, replyOutcome, run, withCached, hsupply, hroll]
  rfl

end Session

end Tabletop
