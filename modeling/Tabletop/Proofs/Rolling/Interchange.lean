import Tabletop.Proofs.Rolling.Explosion

/-!
# Runs on two sources

What draws from one range only knows its supply by the answers that are left in it. So on two supplies
with the same answers modifiers are applied alike to the same dice, whatever the sources are made of. The
base dice are sorted before a modifier sees them. So a roll is evaluated alike on two sources whose answers
to the requests for the base dice are the same up to their order, and whose later answers are the same.
-/

namespace Tabletop

variable {σ τ α β : Type} [RandomSource σ] [RandomSource τ] {range : Range}

/-! ## Answers that are left -/

/-- The answers that a supply may still give to requests for one range. -/
def Supply.answers (range : Range) (supply : Supply σ) : List Int :=
  Tabletop.answers range supply.left supply.source

/-! ## Runs that are alike -/

/-- Two runs that end alike after equally many draws, with the same events, and that leave the same
answers. -/
structure Record.Alike (range : Range) (record : Record σ α) (record' : Record τ α) : Prop where
  ending : record.ending = record'.ending
  draws : record.draws.length = record'.draws.length
  events : record.events = record'.events
  answers : record.supply.answers range = record'.supply.answers range

/-- On supplies with the same answers the plays make runs that are alike. -/
def Play.Alike (range : Range) (play : Play σ α) (play' : Play τ α) : Prop :=
  ∀ (supply : Supply σ) (supply' : Supply τ), supply.answers range = supply'.answers range →
    (play supply).Alike range (play' supply')

/-- Runs that are alike stay so when plays that are alike follow. -/
theorem Record.Alike.bind {play : Play σ α} {play' : Play τ α} {next : α → Play σ β}
    {next' : α → Play τ β} {supply : Supply σ} {supply' : Supply τ}
    (h : (play supply).Alike range (play' supply'))
    (hnext : ∀ value, Play.Alike range (next value) (next' value)) :
    ((play >>= next) supply).Alike range ((play' >>= next') supply') := by
  cases hending : (play supply).ending with
  | error failure =>
    rw [Play.bind_apply_of_error hending, Play.bind_apply_of_error (h.ending.symm.trans hending)]
    exact ⟨rfl, h.draws, h.events, h.answers⟩
  | ok value =>
    have hending' : (play' supply').ending = .ok value := h.ending.symm.trans hending
    have hrest := hnext value _ _ h.answers
    rw [Play.bind_apply_of_eq (Play.eq_of_ending_eq_ok hending),
      Play.bind_apply_of_eq (Play.eq_of_ending_eq_ok hending')]
    refine ⟨hrest.ending, ?_, ?_, hrest.answers⟩
    · simp only [List.length_append, h.draws, hrest.draws]
    · simp only [h.events, hrest.events]

namespace Play.Alike

/-- Ending at once with the same value is alike. -/
theorem pure (value : α) : Alike range (pure value : Play σ α) (pure value : Play τ α) :=
  fun _ _ hanswers => ⟨rfl, rfl, rfl, hanswers⟩

/-- Failing at once for the same reason is alike. -/
theorem fail (failure : Failure) :
    Alike range (Play.fail failure : Play σ α) (Play.fail failure : Play τ α) :=
  fun _ _ hanswers => ⟨rfl, rfl, rfl, hanswers⟩

/-- Reporting the same event is alike. -/
theorem report (event : Event) :
    Alike range (Play.report event : Play σ Unit) (Play.report event : Play τ Unit) :=
  fun _ _ hanswers => ⟨rfl, rfl, rfl, hanswers⟩

/-- Plays in a row are alike if each of them is. -/
theorem bind {play : Play σ α} {play' : Play τ α} {next : α → Play σ β} {next' : α → Play τ β}
    (h : Alike range play play') (hnext : ∀ value, Alike range (next value) (next' value)) :
    Alike range (play >>= next) (play' >>= next') :=
  fun supply supply' hanswers => (h supply supply' hanswers).bind hnext

end Play.Alike

/-- From the same answers a batch takes the same values and leaves the same answers. -/
theorem drawUntil_alike (counts : Int → Bool) {left left' : Nat} (wanted : Nat) {source : σ}
    {source' : τ} (h : answers range left source = answers range left' source') :
    let batch := drawUntil range counts left wanted source
    let batch' := drawUntil range counts left' wanted source'
    batch.values = batch'.values ∧ batch.complete = batch'.complete ∧
      batch.supply.answers range = batch'.supply.answers range := by
  have hleft : left = left' := by
    rw [← length_answers range left source, h, length_answers]
  subst hleft
  fun_induction drawUntil range counts left wanted source generalizing source' with
  | case1 left source =>
    rw [drawUntil]
    exact ⟨rfl, rfl, h⟩
  | case2 wanted source => exact ⟨rfl, rfl, rfl⟩
  | case3 left wanted source value next hanswer ih =>
    simp only [answers, hanswer, List.cons.injEq] at h
    obtain ⟨rfl, hlater⟩ := h
    obtain ⟨hvalues, hcomplete, hanswers⟩ := ih hlater
    rw [drawUntil]
    exact ⟨congrArg (_ :: ·) hvalues, hcomplete, hanswers⟩

namespace Play.Alike

variable {sides : Int}

/-- Drawing a batch is alike on any two sources. -/
theorem drawBatch (counts : Int → Bool) (wanted : Nat) :
    Alike range (Play.drawBatch range counts wanted : Play σ (List Int))
      (Play.drawBatch range counts wanted : Play τ (List Int)) := by
  intro supply supply' hanswers
  obtain ⟨hvalues, hcomplete, hafter⟩ := drawUntil_alike counts wanted hanswers
  refine ⟨?_, ?_, rfl, hafter⟩
  · simp only [Play.drawBatch, hvalues, hcomplete]
  · simp only [Play.drawBatch, hvalues]

/-- Exploding the same dice is alike on any two sources. -/
theorem explode (dice : List Int) (threshold : Int) :
    Alike (dieRange sides) (Tabletop.explode dice threshold sides : Play σ (List Int))
      (Tabletop.explode dice threshold sides : Play τ (List Int)) := by
  unfold Tabletop.explode
  split
  · exact fail _
  · refine bind (drawBatch _ _) fun added => ?_
    split
    · exact bind (report _) fun _ => pure _
    · exact pure _

/-- Applying a modifier to the same dice is alike on any two sources. -/
theorem apply (modifier : Modifier) (dice : List Int) :
    Alike (dieRange sides) (modifier.apply sides dice : Play σ Outcome)
      (modifier.apply sides dice : Play τ Outcome) := by
  unfold Modifier.apply
  cases modifier.kind with
  | explode => exact bind (explode dice modifier.value) fun _ => pure _
  | remove => exact pure _
  | keep => exact pure _
  | keepLower => exact pure _

/-- Applying modifiers to the same outcome is alike on any two sources. -/
theorem applyModifiers (modifiers : List Modifier) (outcome : Outcome) :
    Alike (dieRange sides) (Tabletop.applyModifiers sides modifiers outcome : Play σ Outcome)
      (Tabletop.applyModifiers sides modifiers outcome : Play τ Outcome) := by
  induction modifiers generalizing outcome with
  | nil => exact pure outcome
  | cons modifier modifiers ih =>
    cases outcome with
    | none => exact pure none
    | some dice =>
      exact bind (apply modifier dice) fun result => bind (report _) fun _ => ih (settle result)

end Play.Alike

/-! ## Base dice in another order -/

/-- Rolling dice is alike on two sources that give the same answers to the requests for them, in any
order, and the same answers after that. -/
theorem alike_rollDice {dice : DiceTerm} {source : σ} {source' : τ} {left : Nat}
    (hbase : (answers (dieRange dice.sides) dice.count.toNat source).Perm
      (answers (dieRange dice.sides) dice.count.toNat source'))
    (hlater : (answers (dieRange dice.sides) left source).drop dice.count.toNat =
      (answers (dieRange dice.sides) left source').drop dice.count.toNat) :
    (rollDice dice ⟨source, left⟩).Alike (dieRange dice.sides) (rollDice dice ⟨source', left⟩) := by
  obtain ⟨next, hbatch, hrest⟩ :=
    exists_drawUntil_all (dieRange dice.sides) left dice.count.toNat source
  obtain ⟨next', hbatch', hrest'⟩ :=
    exists_drawUntil_all (dieRange dice.sides) left dice.count.toNat source'
  rw [rollDice_apply, rollDice_apply, hbatch, hbatch']
  refine ⟨?_, ?_, rfl, hrest.trans (hlater.trans hrest'.symm)⟩
  · simp only [decide_eq_true_eq]
    split
    · rw [take_answers _ ‹_›, take_answers _ ‹_›, ascending_eq_of_perm hbase]
    · -- Neither batch is complete, so it does not matter which of the base dice have fallen.
      rfl
  · simp only [List.length_map, List.length_take, length_answers]

/-- The order in which the base dice fall makes no difference. If two sources give the same answers to the
requests for the base dice of an accepted roll, in any order, and the same answers after that, then the
roll ends alike on both, with the same outcome if it ends with one, after equally many draws and with
the same events. -/
theorem evaluate_perm (settings : Settings) (roll : Roll) (first : σ) (second : τ)
    (haccepted : roll.rejection? settings = none)
    (hbase : (answers ⟨1, roll.dice.sides⟩ roll.dice.count.toNat first).Perm
      (answers ⟨1, roll.dice.sides⟩ roll.dice.count.toNat second))
    (hlater : ∀ count,
      (answers ⟨1, roll.dice.sides⟩ count first).drop roll.dice.count.toNat =
        (answers ⟨1, roll.dice.sides⟩ count second).drop roll.dice.count.toNat)
    (left : Nat) :
    let run := evaluate settings roll ⟨first, left⟩
    let run' := evaluate settings roll ⟨second, left⟩
    run.ending = run'.ending ∧ run.draws.length = run'.draws.length ∧ run.events = run'.events := by
  have halike : (evaluate settings roll (⟨first, left⟩ : Supply σ)).Alike (dieRange roll.dice.sides)
      (evaluate settings roll (⟨second, left⟩ : Supply τ)) := by
    unfold evaluate
    rw [haccepted]
    exact (alike_rollDice hbase (hlater left)).bind fun dice =>
      (Play.Alike.report _).bind fun _ => Play.Alike.applyModifiers roll.modifiers _
  exact ⟨halike.ending, halike.draws, halike.events⟩

/-- Three base dice fall in two orders. After either of them two explosions draw six more dice, and the one
that was removed between them was the two. -/
theorem evaluate_perm_scripts :
    let roll : Roll := ⟨⟨3, 6⟩, [⟨.explode, 5⟩, ⟨.remove, 1⟩, ⟨.explode, 6⟩]⟩
    let first : Generator := .script [6, 2, 5, 4, 6, 3, 6, 1]
    let second : Generator := .script [5, 6, 2, 4, 6, 3, 6, 1]
    roll.rejection? .standard = none ∧
    (answers ⟨1, 6⟩ 3 first).Perm (answers ⟨1, 6⟩ 3 second) ∧
    (∀ count, (answers ⟨1, 6⟩ count first).drop 3 = (answers ⟨1, 6⟩ count second).drop 3) ∧
    (evaluate .standard roll ⟨first, 20⟩).ending = .ok (some [1, 1, 3, 4, 5, 6, 6, 6]) ∧
    (evaluate .standard roll ⟨second, 20⟩).ending = .ok (some [1, 1, 3, 4, 5, 6, 6, 6]) ∧
    (evaluate .standard roll ⟨first, 20⟩).draws.length =
      (evaluate .standard roll ⟨second, 20⟩).draws.length := by
  intro roll first second
  have hbase : (answers ⟨1, 6⟩ 3 first).Perm (answers ⟨1, 6⟩ 3 second) := by decide
  have hlater (count : Nat) :
      (answers ⟨1, 6⟩ count first).drop 3 = (answers ⟨1, 6⟩ count second).drop 3 := by
    rcases count with _ | _ | _ | count <;> rfl
  have hrolled : rollDice ⟨3, 6⟩ (⟨first, 20⟩ : Supply Generator) =
      ⟨.ok [2, 5, 6], ⟨.script [4, 6, 3, 6, 1], 17⟩, [6, 2, 5].map (Draw.mk ⟨1, 6⟩), []⟩ := by
    cbv
  have hfives : explode [2, 5, 6] 5 6 (⟨.script [4, 6, 3, 6, 1], 17⟩ : Supply Generator) =
      ⟨.ok [2, 3, 4, 5, 6, 6], ⟨.script [6, 1], 14⟩, [4, 6, 3].map (Draw.mk ⟨1, 6⟩), [.exploded 5 3]⟩ := by
    cbv
  have hsixes : explode [3, 4, 5, 6, 6] 6 6 (⟨.script [6, 1], 14⟩ : Supply Generator) =
      ⟨.ok [1, 1, 3, 4, 5, 6, 6, 6], ⟨.script [1], 11⟩, [6, 1, 1].map (Draw.mk ⟨1, 6⟩),
        [.exploded 6 3]⟩ := by
    cbv
  have hending : (evaluate .standard roll ⟨first, 20⟩).ending = .ok (some [1, 1, 3, 4, 5, 6, 6, 6]) :=
    congrArg Record.ending (evaluate_of_eq rfl hrolled (applyModifiers_explode_of_eq hfives
      (applyModifiers_cons_of_eq rfl (applyModifiers_explode_of_eq hsixes rfl))))
  obtain ⟨halike, hlength, -⟩ := evaluate_perm .standard roll first second rfl hbase hlater 20
  exact ⟨rfl, hbase, hlater, hending, halike.symm.trans hending, hlength⟩

end Tabletop
