import Tabletop.Proofs.Rolling.Explosion

/-!
# Runs that end

An explosion draws for as long as its source stays high. If every so many answers in a row hold one
below the threshold, the explosion ends within as many draws for each of its chains. For a whole roll it
is enough that ones come up again and again, however late: no threshold of an accepted roll is reached
by a one, and what is left of such a source after any draws is such a source again.
-/

namespace Tabletop

variable {σ : Type}

/-! ## Plays that end -/

/-- From every source of a kind the play ends with a value and a source of the same kind, after a number
of draws that does not depend on how many more it might have made. -/
def Play.EndsFrom {α : Type} (kind : σ → Prop) (play : Play σ α) : Prop :=
  ∀ source, kind source → ∃ used value next draws events, kind next ∧
    ∀ more, play ⟨source, used + more⟩ = ⟨.ok value, ⟨next, more⟩, draws, events⟩

/-- Plays in a row end if each of them does. -/
theorem Play.EndsFrom.compositional {kind : σ → Prop} : Compositional (EndsFrom kind) where
  pure value := fun source hkind =>
    ⟨0, value, source, [], [], hkind, fun more => by rw [Nat.zero_add]; rfl⟩
  report event := fun source hkind =>
    ⟨0, (), source, [], [event], hkind, fun more => by rw [Nat.zero_add]; rfl⟩
  bind {α β play next} hplay hnext := by
    intro source hkind
    obtain ⟨used, first, middle, draws, events, hmiddle, hfirst⟩ := hplay source hkind
    obtain ⟨used', second, after, draws', events', hafter, hsecond⟩ := hnext first middle hmiddle
    refine ⟨used + used', second, after, draws ++ draws', events ++ events', hafter, fun more => ?_⟩
    rw [Nat.add_assoc]
    exact bind_eq_ok_iff.mpr
      ⟨first, _, draws, events, draws', events', hfirst _, hsecond more, rfl, rfl⟩

variable [RandomSource σ]

/-! ## Answers that count -/

section Answers

variable {range : Range} {counts : Int → Bool} {source : σ}

/-- More answers hold no fewer that count. -/
theorem countP_answers_le {few many : Nat} (h : few ≤ many) :
    (answers range few source).countP counts ≤ (answers range many source).countP counts := by
  rw [← take_answers range h source]
  exact (List.take_sublist few _).countP_le

/-- An answer that counts behind the first ones is one more. -/
theorem countP_answers_lt_of_mem_drop {start stop : Nat} {answer : Int}
    (hanswer : answer ∈ (answers range stop source).drop start) (hcounts : counts answer = true) :
    (answers range start source).countP counts < (answers range stop source).countP counts := by
  have hle : start ≤ stop := by
    have hpos := List.length_pos_of_mem hanswer
    rw [List.length_drop, length_answers] at hpos
    omega
  have hmore : 0 < ((answers range stop source).drop start).countP counts :=
    List.countP_pos_iff.mpr ⟨answer, hanswer, hcounts⟩
  have hsplit : (answers range stop source).countP counts =
      (answers range start source).countP counts +
        ((answers range stop source).drop start).countP counts := by
    rw [← take_answers range hle source, ← List.countP_append, List.take_append_drop]
  omega

/-- If one of any `width` answers in a row counts, as many as are wanted come up within so many times
the width. -/
theorem le_countP_answers_mul {width : Nat}
    (h : ∀ start, ∃ answer ∈ (answers range (start + width) source).drop start, counts answer = true)
    (wanted : Nat) : wanted ≤ (answers range (wanted * width) source).countP counts := by
  induction wanted with
  | zero => exact Nat.zero_le _
  | succ wanted ih =>
    obtain ⟨answer, hanswer, hcounts⟩ := h (wanted * width)
    rw [← Nat.succ_mul] at hanswer
    exact Nat.succ_le_of_lt (ih.trans_lt (countP_answers_lt_of_mem_drop hanswer hcounts))

end Answers

/-! ## Answers that come up again -/

/-- From every place on, the value comes up among the answers of the source. -/
def Recurs (range : Range) (value : Int) (source : σ) : Prop :=
  ∀ start, ∃ stop, value ∈ (answers range stop source).drop start

namespace Recurs

variable {range : Range} {value : Int} {counts : Int → Bool} {source : σ}

/-- A value that comes up again and again comes up as often as is wanted. -/
theorem exists_le_countP (h : Recurs range value source) (hcounts : counts value = true)
    (wanted : Nat) : ∃ count, wanted ≤ (answers range count source).countP counts := by
  induction wanted with
  | zero => exact ⟨0, Nat.zero_le _⟩
  | succ wanted ih =>
    obtain ⟨start, hstart⟩ := ih
    obtain ⟨stop, hvalue⟩ := h start
    exact ⟨stop, Nat.succ_le_of_lt (hstart.trans_lt (countP_answers_lt_of_mem_drop hvalue hcounts))⟩

/-- A value that comes up again and again still does so after one draw. -/
theorem next (h : Recurs range value source) :
    Recurs range value (RandomSource.draw range source).2 := by
  intro start
  obtain ⟨stop, hvalue⟩ := h (start + 1)
  cases stop with
  | zero => simp [answers] at hvalue
  | succ stop => exact ⟨stop, by simpa [answers] using hvalue⟩

/-- A value that comes up again and again still does so after any draws. -/
theorem of_gives {supply after : Supply σ} {draws : List Draw}
    (hgives : supply.Gives range draws after) (h : Recurs range value supply.source) :
    Recurs range value after.source := by
  induction hgives with
  | nothing supply => exact h
  | next later ih => exact ih h.next

end Recurs

/-! ## Batches that end -/

/-- A batch that completes does so from every larger supply, with the same values, and leaves what it
did not need. -/
theorem exists_drawUntil_add {range : Range} {counts : Int → Bool} {left wanted : Nat} {source : σ}
    (h : (drawUntil range counts left wanted source).complete = true) :
    ∃ used values next, ∀ more,
      drawUntil range counts (used + more) wanted source = ⟨values, ⟨next, more⟩, true⟩ := by
  fun_induction drawUntil range counts left wanted source with
  | case1 left source => exact ⟨0, [], source, fun more => by rw [drawUntil, Nat.zero_add]⟩
  | case2 wanted source => cases h
  | case3 left wanted source value next hanswer ih =>
    obtain ⟨used, values, rest, hrest⟩ := ih h
    refine ⟨used + 1, value :: values, rest, fun more => ?_⟩
    rw [Nat.add_right_comm, drawUntil, hanswer]
    simp only [hrest]
    rfl

/-- A batch in which a value counts ends on every source where this value comes up again and again. -/
theorem Play.endsFrom_drawBatch {range : Range} {value : Int} {counts : Int → Bool}
    (hcounts : counts value = true) (wanted : Nat) :
    EndsFrom (Recurs range value) (drawBatch range counts wanted : Play σ (List Int)) := by
  intro source hrecurs
  obtain ⟨count, hcount⟩ := hrecurs.exists_le_countP hcounts wanted
  obtain ⟨used, values, next, hbatch⟩ := exists_drawUntil_add (complete_drawUntil_iff.mpr hcount)
  have hgives := gives_drawUntil range counts (used + 0) wanted source
  rw [hbatch] at hgives
  refine ⟨used, values, next, values.map (Draw.mk range), [], hrecurs.of_gives hgives, fun more => ?_⟩
  exact drawBatch_eq_ok_iff.mpr ⟨hbatch more, rfl, rfl⟩

/-! ## Explosions and rolls -/

/-- An explosion ends within `width` draws for each of its chains if any so many answers in a row hold
one below the threshold. -/
theorem explode_ends_within {threshold sides : Int} {width left : Nat} {source : σ}
    (hthreshold : 2 ≤ threshold) (dice : List Int)
    (hlow : ∀ start, ∃ answer ∈ (answers (dieRange sides) (start + width) source).drop start,
      answer < threshold)
    (hleft : reaching threshold dice * width ≤ left) :
    ∃ result, (explode dice threshold sides ⟨source, left⟩).ending = .ok result ∧
      reaching threshold dice ≤ (explode dice threshold sides ⟨source, left⟩).draws.length ∧
      (explode dice threshold sides ⟨source, left⟩).draws.length ≤
        reaching threshold dice * width := by
  have hwithin : reaching threshold dice ≤
      below threshold (answers (dieRange sides) (reaching threshold dice * width) source) := by
    refine le_countP_answers_mul (fun start => ?_) _
    obtain ⟨answer, hanswer, hbelow⟩ := hlow start
    exact ⟨answer, hanswer, decide_eq_true hbelow⟩
  obtain ⟨result, hresult⟩ := (exists_explode_iff hthreshold dice source left).mpr
    (hwithin.trans (countP_answers_le hleft))
  obtain ⟨-, added, hbatch, -, hdraws, -⟩ := explode_eq_ok_iff.mp (Play.eq_of_ending_eq_ok hresult)
  obtain ⟨hleast, -, hcount, -⟩ := isLeast_length_of_drawUntil hbatch
  refine ⟨result, hresult, ?_, ?_⟩
  · rw [hdraws, List.length_map, ← hcount]
    exact List.countP_le_length
  · rw [hdraws, List.length_map]
    exact hleast.2 hwithin

/-- An accepted roll is evaluated to an outcome on every source where ones come up again and again. -/
theorem endsFrom_evaluate {settings : Settings} {roll : Roll}
    (haccepted : roll.rejection? settings = none) :
    Play.EndsFrom (Recurs (dieRange roll.dice.sides) 1) (evaluate settings roll : Play σ Outcome) := by
  refine Play.EndsFrom.compositional.evaluate ?_ ?_
  · exact fun counts wanted hone => Play.endsFrom_drawBatch hone wanted
  · intro rejection hrejection
    rw [haccepted] at hrejection
    cases hrejection

/-- Every element of a stream from some place on is among the answers behind that place. -/
theorem mem_drop_answers_stream (range : Range) {start index stop : Nat} (stream : Stream' Int)
    (hstart : start ≤ index) (hstop : index < stop) :
    stream.get index ∈ (answers range stop stream).drop start := by
  rw [answers_stream, List.mem_drop_iff_getElem]
  refine ⟨index - start, by rw [Stream'.length_take]; omega, ?_⟩
  simp [Nat.add_sub_cancel' hstart]

/-- Explosions end on every source that does not stay high. If any `width` answers in a row hold one
below the threshold, an explosion makes at least one draw for each of its chains and at most `width`
draws. An accepted roll ends with the same outcome from every supply that is large enough if ones come up
again and again among the answers, whatever its explosions are. -/
theorem explosions_end :
    (∀ (dice : List Int) (threshold sides : Int) (width : Nat) (source : σ), 2 ≤ threshold →
      (∀ start, ∃ answer ∈ (answers ⟨1, sides⟩ (start + width) source).drop start,
        answer < threshold) →
      ∀ left, reaching threshold dice * width ≤ left →
        ∃ result, (explode dice threshold sides ⟨source, left⟩).ending = .ok result ∧
          reaching threshold dice ≤ (explode dice threshold sides ⟨source, left⟩).draws.length ∧
          (explode dice threshold sides ⟨source, left⟩).draws.length ≤
            reaching threshold dice * width) ∧
    ∀ (settings : Settings) (roll : Roll) (source : σ), roll.rejection? settings = none →
      (∀ start, ∃ stop, 1 ∈ (answers ⟨1, roll.dice.sides⟩ stop source).drop start) →
      ∃ outcome enough, ∀ left, enough ≤ left →
        (evaluate settings roll ⟨source, left⟩).ending = .ok outcome := by
  constructor
  · intro dice threshold sides width source hthreshold hlow left hleft
    exact explode_ends_within hthreshold dice hlow hleft
  · intro settings roll source haccepted hones
    obtain ⟨used, outcome, next, draws, events, -, hrecord⟩ :=
      endsFrom_evaluate haccepted source hones
    refine ⟨outcome, used, fun left hleft => ?_⟩
    obtain ⟨more, rfl⟩ := Nat.exists_eq_add_of_le hleft
    exact congrArg Record.ending (hrecord more)

/-- Among sixes with a one at every third place two chains end within six draws, and no explosions keep a
roll from its outcome. -/
theorem explosions_end_streams :
    let thirds : Stream' Int := fun n => if n % 3 = 2 then 1 else 6
    let roll : Roll := ⟨⟨2, 6⟩, [⟨.explode, 2⟩, ⟨.explode, 6⟩]⟩
    (2 : Int) ≤ 6 ∧ roll.rejection? .standard = none ∧
    (∃ result, (explode [6, 2, 6] 6 6 ⟨thirds, 20⟩).ending = .ok result ∧
      2 ≤ (explode [6, 2, 6] 6 6 ⟨thirds, 20⟩).draws.length ∧
      (explode [6, 2, 6] 6 6 ⟨thirds, 20⟩).draws.length ≤ 2 * 3) ∧
    ∃ outcome enough, ∀ left, enough ≤ left →
      (evaluate .standard roll ⟨thirds, left⟩).ending = .ok outcome := by
  intro thirds roll
  obtain ⟨hexplode, hevaluate⟩ := @explosions_end (Stream' Int) _
  -- A one stands at the last of each three places.
  have hone (start : Nat) : thirds.get (3 * (start / 3) + 2) = 1 :=
    if_pos (by omega)
  have hmem (start : Nat) : 1 ∈ (answers ⟨1, 6⟩ (start + 3) thirds).drop start := by
    rw [← hone start]
    exact mem_drop_answers_stream _ _ (by omega) (by omega)
  refine ⟨by decide, rfl, ?_, ?_⟩
  · exact hexplode [6, 2, 6] 6 6 3 thirds (by decide) (fun start => ⟨1, hmem start, by decide⟩) 20
      (by decide)
  · exact hevaluate .standard roll thirds rfl fun start => ⟨start + 3, hmem start⟩

end Tabletop
