import Tabletop.Proofs.Rolling.Conservation
import Tabletop.Proofs.Rolling.Sequencing
import Tabletop.Session.Step

/-!
# What a run reports

A completed run reports its base dice and then each of its steps: how many dice an explosion added,
unless it added none, and the outcome that the step left. The steps themselves are known from shorter
rolls. Each finds the dice that are left by the modifiers in front of it, leaves what is left with its own
modifier besides, and the steps end with the modifiers or with the first outcome that has no dice. So the
reports account for every draw, and the last one shows the outcome of the run.
-/

namespace Tabletop

/-! ## What is reported -/

/-- The number of dice that an event reports as added. -/
def Event.added : Event → Nat
  | .exploded _ added => added
  | _ => 0

/-- The outcome that an event shows. -/
def Event.outcome? : Event → Option Outcome
  | .rolled _ outcome | .applied _ outcome => some outcome
  | _ => none

/-- What a step reports. -/
def Step.events (step : Step) : List Event :=
  (if step.modifier.kind = .explode ∧ 0 < step.added then
    [.exploded step.modifier.value step.added] else []) ++ [.applied step.modifier step.after]

/-- A step reports the dice that it added. -/
theorem Step.sum_added_events (step : Step) : (step.events.map Event.added).sum = step.added := by
  rw [events, List.map_append, List.sum_append]
  split
  · simp [Event.added]
  · rename_i hadded
    have hzero : step.added = 0 := by
      by_contra hne
      have hkind : step.modifier.kind = .explode := by
        by_contra hkind
        exact hne (if_neg hkind)
      exact hadded ⟨hkind, Nat.pos_of_ne_zero hne⟩
    simp [Event.added, hzero]

variable {σ : Type} [RandomSource σ] {sides : Int} {supply after : Supply σ} {draws : List Draw}
  {events : List Event}

/-- A modifier and the report behind it tell of one step. -/
theorem events_of_apply {modifier : Modifier} {dice : List Int} {result : Outcome}
    (h : modifier.apply sides dice supply = ⟨.ok result, after, draws, events⟩) :
    events ++ [.applied modifier (settle result)] =
      (Step.mk modifier dice (settle result)).events := by
  have hadded := length_draws_of_apply h
  rw [Step.events, ← hadded]
  by_cases hkind : modifier.kind = .explode
  · obtain ⟨exploded, hexplode, -⟩ := (Modifier.apply_eq_ok_iff_of_explode hkind).mp h
    obtain ⟨-, values, -, -, rfl, rfl⟩ := explode_eq_ok_iff.mp hexplode
    cases values with
    | nil => simp [explosionEvents]
    | cons value values => simp [explosionEvents, hkind]
  · rw [Modifier.apply_eq_pure hkind, Play.pure_eq_ok_iff] at h
    obtain ⟨-, -, -, rfl⟩ := h
    rw [if_neg fun hexplosion => hkind hexplosion.1]

/-- Applying modifiers reports their steps. -/
theorem events_of_applyModifiers {modifiers : List Modifier} {start outcome : Outcome}
    (h : applyModifiers sides modifiers start supply = ⟨.ok outcome, after, draws, events⟩) :
    events = (stepsFrom sides modifiers start supply).flatMap Step.events := by
  induction modifiers generalizing start supply draws events with
  | nil =>
    rw [applyModifiers, Play.pure_eq_ok_iff] at h
    obtain ⟨-, -, -, rfl⟩ := h
    rfl
  | cons modifier modifiers ih =>
    cases start with
    | none =>
      rw [applyModifiers, Play.pure_eq_ok_iff] at h
      obtain ⟨-, -, -, rfl⟩ := h
      rfl
    | some dice =>
      obtain ⟨result, middle, draws₁, events₁, draws₂, events₂, hstep, hrest, -, rfl⟩ :=
        applyModifiers_cons_eq_ok_iff.mp h
      rw [stepsFrom_cons hstep, List.flatMap_cons, ← events_of_apply hstep, ← ih hrest,
        List.append_assoc, List.singleton_append]

/-- The last of an event that shows the start and of the reports behind it shows the outcome. -/
theorem outcome?_getLast_of_applyModifiers {modifiers : List Modifier} {start outcome : Outcome}
    {first : Event} (hfirst : first.outcome? = some start)
    (h : applyModifiers sides modifiers start supply = ⟨.ok outcome, after, draws, events⟩) :
    (first :: events).getLast?.bind Event.outcome? = some outcome := by
  induction modifiers generalizing start supply draws events first with
  | nil =>
    rw [applyModifiers, Play.pure_eq_ok_iff] at h
    obtain ⟨rfl, -, -, rfl⟩ := h
    exact hfirst
  | cons modifier modifiers ih =>
    cases start with
    | none =>
      rw [applyModifiers, Play.pure_eq_ok_iff] at h
      obtain ⟨rfl, -, -, rfl⟩ := h
      exact hfirst
    | some dice =>
      obtain ⟨result, middle, draws₁, events₁, draws₂, events₂, -, hrest, -, rfl⟩ :=
        applyModifiers_cons_eq_ok_iff.mp h
      rw [← List.cons_append, List.getLast?_append_cons]
      exact ih rfl hrest

/-! ## Steps of shorter rolls -/

/-- A step finds what the modifiers in front of it leave, and draws the dice that it adds. -/
theorem exists_stage {modifiers : List Modifier} {start outcome : Outcome}
    (h : applyModifiers sides modifiers start supply = ⟨.ok outcome, after, draws, events⟩)
    {place : Nat} {step : Step} (hplace : (stepsFrom sides modifiers start supply)[place]? = some step) :
    ∃ middle draws₁ events₁ later draws₂ events₂,
      applyModifiers sides (modifiers.take place) start supply =
        ⟨.ok (some step.before), middle, draws₁, events₁⟩ ∧
      applyModifiers sides (modifiers.take (place + 1)) start supply =
        ⟨.ok step.after, later, draws₂, events₂⟩ ∧
      draws₂.length = draws₁.length + step.added ∧ modifiers[place]? = some step.modifier := by
  induction modifiers generalizing start supply draws events place with
  | nil => cases hplace
  | cons modifier modifiers ih =>
    cases start with
    | none => cases hplace
    | some dice =>
      obtain ⟨result, middle, draws₁, events₁, _, _, hstep, hrest, -, -⟩ :=
        applyModifiers_cons_eq_ok_iff.mp h
      rw [stepsFrom_cons hstep] at hplace
      cases place with
      | zero =>
        obtain rfl := Option.some.inj hplace
        refine ⟨supply, [], [], middle, _, _, rfl, applyModifiers_cons_of_eq hstep rfl, ?_, rfl⟩
        rw [List.append_nil, length_draws_of_apply hstep, List.length_nil, Nat.zero_add]
      | succ place =>
        obtain ⟨_, _, _, _, _, _, hbefore, hafter, hlength, hmodifier⟩ := ih hrest hplace
        refine ⟨_, _, _, _, _, _, applyModifiers_cons_of_eq hstep hbefore,
          applyModifiers_cons_of_eq hstep hafter, ?_, hmodifier⟩
        rw [List.length_append, List.length_append, hlength, Nat.add_assoc]

/-- The steps end with the modifiers, or where no dice are left. -/
theorem length_stepsFrom {modifiers : List Modifier} {start outcome : Outcome}
    (h : applyModifiers sides modifiers start supply = ⟨.ok outcome, after, draws, events⟩) :
    (stepsFrom sides modifiers start supply).length = modifiers.length ∨
      ∃ middle draws₁ events₁,
        applyModifiers sides (modifiers.take (stepsFrom sides modifiers start supply).length) start
          supply = ⟨.ok none, middle, draws₁, events₁⟩ := by
  induction modifiers generalizing start supply draws events with
  | nil => exact Or.inl rfl
  | cons modifier modifiers ih =>
    cases start with
    | none => exact Or.inr ⟨supply, [], [], rfl⟩
    | some dice =>
      obtain ⟨result, middle, _, _, _, _, hstep, hrest, -, -⟩ := applyModifiers_cons_eq_ok_iff.mp h
      rw [stepsFrom_cons hstep, List.length_cons, List.length_cons, List.take_succ_cons]
      rcases ih hrest with hall | ⟨_, _, _, hnone⟩
      · exact Or.inl (congrArg (· + 1) hall)
      · exact Or.inr ⟨_, _, _, applyModifiers_cons_of_eq hstep hnone⟩

/-- A roll with some of its first modifiers only. -/
def Roll.upTo (roll : Roll) (count : Nat) : Roll := ⟨roll.dice, roll.modifiers.take count⟩

/-- A roll is accepted with its first modifiers if it is accepted with all of them. -/
theorem Roll.rejection?_upTo {settings : Settings} {roll : Roll} (h : roll.rejection? settings = none)
    (count : Nat) : (roll.upTo count).rejection? settings = none := by
  have hsplit : Roll.mk roll.dice (roll.modifiers.take count ++ roll.modifiers.drop count) = roll := by
    rw [List.take_append_drop]
  rw [← hsplit] at h
  exact (Roll.rejection?_append_eq_none_iff.mp h).1

/-- A step is what the modifier at a place makes of the roll with only the modifiers in front of it. -/
structure Step.IsAt (settings : Settings) (roll : Roll) (supply : Supply σ) (place : Nat) (step : Step) :
    Prop where
  modifier : roll.modifiers[place]? = some step.modifier
  before : (evaluate settings (roll.upTo place) supply).ending = .ok (some step.before)
  after : (evaluate settings (roll.upTo (place + 1)) supply).ending = .ok step.after
  added : (evaluate settings (roll.upTo (place + 1)) supply).draws.length =
    (evaluate settings (roll.upTo place) supply).draws.length + step.added

variable {settings : Settings} {roll : Roll} {outcome : Outcome}

/-- The roll up to some modifier rolls the same dice and applies the modifiers in front. -/
theorem evaluate_upTo {dice : List Int} {count : Nat} {middle later : Supply σ}
    {draws₁ draws₂ : List Draw} {events₁ events₂ : List Event}
    (haccepted : roll.rejection? settings = none)
    (hdice : rollDice roll.dice supply = ⟨.ok dice, middle, draws₁, events₁⟩)
    (hcount : applyModifiers roll.dice.sides (roll.modifiers.take count) (settle (some dice)) middle =
      ⟨.ok outcome, later, draws₂, events₂⟩) :
    evaluate settings (roll.upTo count) supply = ⟨.ok outcome, later, draws₁ ++ draws₂,
      events₁ ++ .rolled roll.dice (settle (some dice)) :: events₂⟩ :=
  evaluate_eq_ok_iff.mpr ⟨Roll.rejection?_upTo haccepted count, _, _, _, _, _, _, hdice, hcount, rfl, rfl⟩

/-- Each step of a completed run is known from the roll up to its modifier. -/
theorem isAt_of_evaluate (h : evaluate settings roll supply = ⟨.ok outcome, after, draws, events⟩)
    {place : Nat} {step : Step} (hplace : (roll.steps supply)[place]? = some step) :
    step.IsAt settings roll supply place := by
  obtain ⟨haccepted, dice, middle, _, _, _, _, hdice, hrest, -, -⟩ := evaluate_eq_ok_iff.mp h
  rw [roll.steps_eq hdice] at hplace
  obtain ⟨_, _, _, _, _, _, hbefore, hafter, hlength, hmodifier⟩ := exists_stage hrest hplace
  have hrollBefore := evaluate_upTo haccepted hdice hbefore
  have hrollAfter := evaluate_upTo haccepted hdice hafter
  refine ⟨hmodifier, ?_, ?_, ?_⟩
  · rw [hrollBefore]
  · rw [hrollAfter]
  · rw [hrollBefore, hrollAfter, List.length_append, List.length_append, hlength, Nat.add_assoc]

/-- The steps of a completed run end with the modifiers of the roll, or where no dice are left. -/
theorem length_steps_of_evaluate
    (h : evaluate settings roll supply = ⟨.ok outcome, after, draws, events⟩) :
    (roll.steps supply).length = roll.modifiers.length ∨
      (evaluate settings (roll.upTo (roll.steps supply).length) supply).ending = .ok none := by
  obtain ⟨haccepted, dice, middle, _, _, _, _, hdice, hrest, -, -⟩ := evaluate_eq_ok_iff.mp h
  rw [roll.steps_eq hdice]
  rcases length_stepsFrom hrest with hall | ⟨_, _, _, hnone⟩
  · exact Or.inl hall
  · exact Or.inr (congrArg Record.ending (evaluate_upTo haccepted hdice hnone))

/-! ## The whole report -/

/-- A completed run reports its base dice, which are those of the roll without modifiers, and then its
steps. -/
theorem exists_events_eq (h : evaluate settings roll supply = ⟨.ok outcome, after, draws, events⟩) :
    ∃ base, (evaluate settings (roll.upTo 0) supply).ending = .ok base ∧
      events = .rolled roll.dice base :: (roll.steps supply).flatMap Step.events := by
  obtain ⟨haccepted, dice, middle, _, _, _, _, hdice, hrest, -, rfl⟩ := evaluate_eq_ok_iff.mp h
  obtain ⟨_, -, -, -, rfl⟩ := rollDice_eq_ok_iff.mp hdice
  refine ⟨settle (some dice), congrArg Record.ending (evaluate_upTo haccepted hdice rfl), ?_⟩
  rw [roll.steps_eq hdice, ← events_of_applyModifiers hrest, List.nil_append]

/-- The last report of a completed run shows its outcome. -/
theorem outcome?_getLast_of_evaluate
    (h : evaluate settings roll supply = ⟨.ok outcome, after, draws, events⟩) :
    events.getLast?.bind Event.outcome? = some outcome := by
  obtain ⟨-, dice, middle, _, _, _, _, hdice, hrest, -, rfl⟩ := evaluate_eq_ok_iff.mp h
  rw [List.getLast?_append_cons]
  exact outcome?_getLast_of_applyModifiers rfl hrest

/-- The reports of a completed run account for all of its draws. -/
theorem sum_added_of_evaluate
    (h : evaluate settings roll supply = ⟨.ok outcome, after, draws, events⟩) :
    roll.dice.count.toNat + (events.map Event.added).sum = draws.length := by
  obtain ⟨base, -, rfl⟩ := exists_events_eq h
  have hsteps (steps : List Step) :
      ((steps.flatMap Step.events).map Event.added).sum = (steps.map Step.added).sum := by
    induction steps with
    | nil => rfl
    | cons step steps ih =>
      rw [List.flatMap_cons, List.map_append, List.sum_append, step.sum_added_events, ih,
        List.map_cons, List.sum_cons]
  have hbase : (Event.rolled roll.dice base).added = 0 := rfl
  rw [length_draws_of_evaluate h, List.map_cons, List.sum_cons, hsteps, hbase, Nat.zero_add]

/-- At the level of debugging every event is shown. -/
theorem Session.shown_of_debug {session : Session} (h : session.level = .debug) (events : List Event) :
    session.shown events = events := by
  rw [shown, h]
  exact List.filter_eq_self.mpr fun event _ => decide_eq_true (Nat.zero_le _)

/-- What a completed run shows at the level of debugging: first the dice of the roll without modifiers,
and then its steps. Each step has the modifier at its place, finds what the roll up to this modifier
leaves and shows what it leaves with it, and an explosion tells in front of that how many dice it drew,
unless it drew none. A step finds some dice, so the steps end with the modifiers or with the first that
leaves no dice. All dice told together with the base dice are as many as were drawn, and the last event
shows the outcome of the run. -/
theorem evaluate_shows_steps (settings : Settings) (roll : Roll) (supply : Supply σ) (outcome : Outcome)
    (session : Session) (h : (evaluate settings roll supply).ending = .ok outcome)
    (hlevel : session.level = .debug) :
    let record := evaluate settings roll supply
    let shown := session.shown record.events
    let steps := roll.steps supply
    (∃ base, (evaluate settings (roll.upTo 0) supply).ending = .ok base ∧
      shown = .rolled roll.dice base :: steps.flatMap Step.events) ∧
    (∀ (place : Nat) (step : Step), steps[place]? = some step → step.IsAt settings roll supply place) ∧
    (steps.length = roll.modifiers.length ∨
      (evaluate settings (roll.upTo steps.length) supply).ending = .ok none) ∧
    roll.dice.count.toNat + (shown.map Event.added).sum = record.draws.length ∧
    shown.getLast?.bind Event.outcome? = some outcome := by
  intro record shown steps
  have hrecord := Play.eq_of_ending_eq_ok h
  have hshown : shown = record.events := session.shown_of_debug hlevel record.events
  rw [hshown]
  exact ⟨exists_events_eq hrecord, fun place step => isAt_of_evaluate hrecord,
    length_steps_of_evaluate hrecord, sum_added_of_evaluate hrecord, outcome?_getLast_of_evaluate hrecord⟩

/-- Two dice and the two that an explosion adds to them are told, then an explosion that adds none, and the
removal that leaves no dice ends the report. -/
theorem evaluate_shows_steps_script :
    let roll : Roll := ⟨⟨2, 6⟩, [⟨.explode, 6⟩, ⟨.explode, 7⟩, ⟨.remove, 4⟩, ⟨.keep, 1⟩]⟩
    let supply : Supply Generator := ⟨.script [5, 6, 6, 2], 20⟩
    let session := { Session.start "app".toList [] none (some supply) with level := .debug }
    let record := evaluate .standard roll supply
    let shown := session.shown record.events
    record.ending = .ok none ∧ session.level = .debug ∧
    (roll.steps supply).length = 3 ∧ (evaluate .standard (roll.upTo 3) supply).ending = .ok none ∧
    shown.map Event.message = ["Rolled 2d6: (5, 6)", "Exploded on 6+: added 2 dice",
      "After e6: (2, 5, 6, 6)", "After e7: (2, 5, 6, 6)", "After r4: None"] ∧
    2 + (shown.map Event.added).sum = record.draws.length ∧
    shown.getLast?.bind Event.outcome? = some none := by
  intro roll supply session record shown
  have hrolled : rollDice roll.dice supply =
      ⟨.ok [5, 6], ⟨.script [6, 2], 18⟩, [5, 6].map (Draw.mk ⟨1, 6⟩), []⟩ := by
    cbv
  have hsixes : explode [5, 6] 6 6 (⟨.script [6, 2], 18⟩ : Supply Generator) =
      ⟨.ok [2, 5, 6, 6], ⟨.script [2], 16⟩, [6, 2].map (Draw.mk ⟨1, 6⟩), [.exploded 6 2]⟩ := by
    cbv
  have hsevens : explode [2, 5, 6, 6] 7 6 (⟨.script [2], 16⟩ : Supply Generator) =
      ⟨.ok [2, 5, 6, 6], ⟨.script [2], 16⟩, [], []⟩ := by
    cbv
  have hrun : record = ⟨.ok none, _, _, _⟩ :=
    evaluate_of_eq rfl hrolled
      (applyModifiers_explode_of_eq hsixes (applyModifiers_explode_of_eq hsevens rfl))
  have hending : record.ending = .ok none := congrArg Record.ending hrun
  have hsteps : (roll.steps supply).length = 3 :=
    calc (roll.steps supply).length
      _ = (stepsFrom 6 roll.modifiers (some [5, 6]) (⟨.script [6, 2], 18⟩ : Supply Generator)).length :=
        congrArg List.length (Roll.steps_eq hrolled)
      _ = (stepsFrom 6 [⟨.explode, 7⟩, ⟨.remove, 4⟩, ⟨.keep, 1⟩] (some [2, 5, 6, 6])
            (⟨.script [2], 16⟩ : Supply Generator)).length + 1 :=
        congrArg List.length (stepsFrom_explode hsixes _)
      _ = (stepsFrom 6 [⟨.remove, 4⟩, ⟨.keep, 1⟩] (some [2, 5, 6, 6])
            (⟨.script [2], 16⟩ : Supply Generator)).length + 2 :=
        congrArg (·.length + 1) (stepsFrom_explode hsevens _)
      _ = 3 := rfl
  have hshown : session.shown record.events = [.rolled ⟨2, 6⟩ (some [5, 6]),
      .exploded 6 2, .applied ⟨.explode, 6⟩ (some [2, 5, 6, 6]), .applied ⟨.explode, 7⟩ (some [2, 5, 6, 6]),
      .applied ⟨.remove, 4⟩ none] := by
    rw [hrun]
    rfl
  have hmessages : shown.map Event.message = ["Rolled 2d6: (5, 6)", "Exploded on 6+: added 2 dice",
      "After e6: (2, 5, 6, 6)", "After e7: (2, 5, 6, 6)", "After r4: None"] := by
    exact congrArg (List.map Event.message) hshown
  obtain ⟨-, -, hlength, hsum, hlast⟩ := evaluate_shows_steps .standard roll supply none session hending rfl
  rw [hsteps] at hlength
  exact ⟨hending, rfl, hsteps, hlength.resolve_left (by decide), hmessages, hsum, hlast⟩

end Tabletop
