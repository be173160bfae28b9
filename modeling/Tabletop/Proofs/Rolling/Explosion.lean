import Mathlib.Data.Stream.Init
import Mathlib.Order.Bounds.Defs
import Tabletop.Proofs.Rolling.Conservation

/-!
# What an explosion draws

An explosion owes one die below its threshold for every die that reached it, and it draws until all of
them have come up. So it draws the shortest run of answers that holds as many values below the
threshold, and it completes exactly if the source has such a run among the answers that it may give.
Any endless stream of answers is a source, so this covers every stream, whatever its values. At a
higher threshold fewer dice are owed and more values count, so the run is not longer.
-/

namespace Tabletop

/-! ## Batches as shortest runs of answers -/

section Batch

variable {σ : Type} [RandomSource σ] {range : Range} {counts : Int → Bool} {left wanted : Nat}
  {source : σ}

/-- A batch completes exactly if enough of the answers that it may ask for count. -/
theorem complete_drawUntil_iff : (drawUntil range counts left wanted source).complete = true ↔
    wanted ≤ (answers range left source).countP counts := by
  fun_induction drawUntil range counts left wanted source with
  | case1 left source => simp
  | case2 wanted source => simp [answers]
  | case3 left wanted source value next hanswer ih =>
    simp only [Batch.cons, ih, answers, hanswer, List.countP_cons]
    split <;> omega

/-- Fewer answers than those of a batch hold fewer values that count than were wanted. -/
theorem countP_answers_lt {count : Nat}
    (hcount : count < (drawUntil range counts left wanted source).values.length) :
    (answers range count source).countP counts < wanted := by
  fun_induction drawUntil range counts left wanted source generalizing count with
  | case1 left source => simp at hcount
  | case2 wanted source => simp at hcount
  | case3 left wanted source value next hanswer ih =>
    cases count with
    | zero => simp [answers]
    | succ count =>
      have hlater := ih (Nat.lt_of_succ_lt_succ hcount)
      simp only [answers, hanswer, List.countP_cons]
      split at hlater <;> simp_all

/-- The last value of a complete batch is one that counts. -/
theorem counts_of_mem_getLast? (h : (drawUntil range counts left wanted source).complete = true)
    {value : Int} (hvalue : value ∈ (drawUntil range counts left wanted source).values.getLast?) :
    counts value = true := by
  fun_induction drawUntil range counts left wanted source with
  | case1 left source => cases hvalue
  | case2 wanted source => cases hvalue
  | case3 left wanted source first next hanswer ih =>
    simp only [Batch.cons] at h hvalue
    cases hlater : (drawUntil range counts left
        (if counts first then wanted else wanted + 1) next).values with
    | nil =>
      -- Nothing came up after this value, so nothing was wanted any more.
      have hwanted := countP_of_drawUntil h
      rw [hlater] at hwanted hvalue
      obtain rfl : first = value := Option.some.inj hvalue
      by_contra hfirst
      simp [hfirst] at hwanted
    | cons second later =>
      rw [hlater, List.getLast?_cons_cons, ← hlater] at hvalue
      exact ih h hvalue

/-- A complete batch is the shortest run of answers in which as many values count as were wanted. -/
theorem isLeast_length_of_drawUntil {values : List Int} {after : Supply σ}
    (h : drawUntil range counts left wanted source = ⟨values, after, true⟩) :
    IsLeast {count | wanted ≤ (answers range count source).countP counts} values.length ∧
      values = answers range values.length source ∧ values.countP counts = wanted ∧
      ∀ value ∈ values.getLast?, counts value = true := by
  have hvalues := (gives_drawUntil range counts left wanted source).values_eq
  have hwanted := countP_of_drawUntil (congrArg Batch.complete h)
  simp only [h, map_value_map_mk, List.length_map] at hvalues hwanted
  refine ⟨⟨?_, ?_⟩, hvalues, hwanted, fun value hvalue => ?_⟩
  · change wanted ≤ (answers range values.length source).countP counts
    rw [← hvalues, hwanted]
  · intro count hcount
    by_contra hshort
    have hlt : count < (drawUntil range counts left wanted source).values.length := by
      rw [h]
      exact Nat.lt_of_not_le hshort
    exact absurd hcount (Nat.not_le_of_lt (countP_answers_lt hlt))
  · refine counts_of_mem_getLast? (congrArg Batch.complete h) ?_
    rw [h]
    exact hvalue

end Batch

/-! ## Streams as sources -/

/-- An endless stream of answers is a source, whatever range it is asked for. -/
instance : RandomSource (Stream' Int) := ⟨fun _ stream => (stream.head, stream.tail)⟩

/-- The answers of a stream are its first elements. -/
theorem answers_stream (range : Range) (count : Nat) (stream : Stream' Int) :
    answers range count stream = stream.take count := by
  induction count generalizing stream with
  | zero => rfl
  | succ count ih => exact congrArg (stream.head :: ·) (ih stream.tail)

/-! ## Explosions -/

/-- The number of dice below a threshold. -/
def below (threshold : Int) (dice : List Int) : Nat := dice.countP fun die => decide (die < threshold)

/-- Every die either reaches a threshold or stays below it. -/
theorem reaching_add_below (threshold : Int) (dice : List Int) :
    reaching threshold dice + below threshold dice = dice.length := by
  induction dice with
  | nil => rfl
  | cons die dice ih =>
    simp only [reaching, below, List.countP_cons, List.length_cons, decide_eq_true_eq] at ih ⊢
    split <;> split <;> omega

variable {σ : Type} [RandomSource σ] {threshold sides : Int}

/-- An explosion completes exactly if the answers that it may ask for hold a value below the threshold
for every die that reached it. -/
theorem exists_explode_iff (hthreshold : 2 ≤ threshold) (dice : List Int) (source : σ) (left : Nat) :
    (∃ result, (explode dice threshold sides ⟨source, left⟩).ending = .ok result) ↔
      reaching threshold dice ≤ below threshold (answers (dieRange sides) left source) := by
  have hendless : isEndless threshold = false := decide_eq_false (by omega)
  rw [below, ← complete_drawUntil_iff]
  constructor
  · rintro ⟨result, h⟩
    obtain ⟨-, added, hbatch, -⟩ := explode_eq_ok_iff.mp (Play.eq_of_ending_eq_ok h)
    exact congrArg Batch.complete hbatch
  · intro h
    cases hbatch : drawUntil (dieRange sides) (fun die => decide (die < threshold)) left
        (reaching threshold dice) source with
    | mk added after complete =>
      rw [hbatch] at h
      cases h
      have hexplode : explode dice threshold sides ⟨source, left⟩ = _ :=
        explode_eq_ok_iff.mpr ⟨hendless, added, hbatch, rfl, rfl, rfl⟩
      exact ⟨_, congrArg Record.ending hexplode⟩

/-- An explosion draws the shortest run of the answers of its source that holds a value below the
threshold for every die that reached it. It completes if there is such a run, for some number of
draws that it may make, and only then, and it keeps all dice and the whole run in ascending order.
Without dice to explode nothing is drawn, otherwise the last value drawn stays below the threshold,
and in the end there are as many dice below the threshold as there were dice at first. -/
theorem explode_draws_shortest_run (dice : List Int) (threshold sides : Int)
    (hthreshold : 2 ≤ threshold) (source : σ) :
    let stream := fun count => answers ⟨1, sides⟩ count source
    let enough := {count | reaching threshold dice ≤ below threshold (stream count)}
    ((∃ left result, (explode dice threshold sides ⟨source, left⟩).ending = .ok result) ↔
      ∃ count, count ∈ enough) ∧
    ∀ left result, (explode dice threshold sides ⟨source, left⟩).ending = .ok result →
      ∃ count, IsLeast enough count ∧
        (explode dice threshold sides ⟨source, left⟩).draws =
          (stream count).map (Draw.mk ⟨1, sides⟩) ∧
        result = ascending (dice ++ stream count) ∧
        (reaching threshold dice = 0 → count = 0) ∧
        (0 < reaching threshold dice → ∃ last ∈ (stream count).getLast?, last < threshold) ∧
        below threshold result = dice.length := by
  intro stream enough
  constructor
  · constructor
    · rintro ⟨left, result, h⟩
      exact ⟨left, (exists_explode_iff hthreshold dice source left).mp ⟨result, h⟩⟩
    · rintro ⟨count, hcount⟩
      exact ⟨count, (exists_explode_iff hthreshold dice source count).mpr hcount⟩
  · intro left result h
    obtain ⟨-, added, hbatch, hresult, hdraws, -⟩ := explode_eq_ok_iff.mp (Play.eq_of_ending_eq_ok h)
    obtain ⟨hleast, hadded, hlow, hlast⟩ := isLeast_length_of_drawUntil hbatch
    change added = stream added.length at hadded
    refine ⟨added.length, hleast, ?_, ?_, ?_, ?_, ?_⟩
    · rw [hdraws, ← hadded]
      rfl
    · rw [hresult, ← hadded]
    · intro hzero
      refine Nat.le_zero.mp (hleast.2 ?_)
      exact hzero.le.trans (Nat.zero_le _)
    · intro hpos
      rw [← hadded]
      have hne : added ≠ [] := by
        rintro rfl
        exact absurd hlow (Nat.ne_of_lt hpos)
      have hlastMem : added.getLast hne ∈ added.getLast? := List.getLast?_eq_some_getLast hne
      exact ⟨added.getLast hne, hlastMem, of_decide_eq_true (hlast _ hlastMem)⟩
    · rw [hresult, below, (ascending_perm _).countP_eq, List.countP_append, hlow, Nat.add_comm]
      exact reaching_add_below threshold dice

/-- Two of three dice explode, and among sixes with a one at every third place the second one is the
sixth answer. Among sixes alone the explosion never ends. -/
theorem explode_draws_shortest_run_streams :
    let thirds : Stream' Int := fun n => if n % 3 = 2 then 1 else 6
    let sixes : Stream' Int := Stream'.const 6
    (2 : Int) ≤ 6 ∧
    (explode [6, 2, 6] 6 6 ⟨thirds, 20⟩).ending = .ok [1, 1, 2, 6, 6, 6, 6, 6, 6] ∧
    (∃ count, IsLeast {count | 2 ≤ below 6 (answers ⟨1, 6⟩ count thirds)} count ∧
      (explode [6, 2, 6] 6 6 ⟨thirds, 20⟩).draws.length = count) ∧
    ∀ left result, (explode [6, 2, 6] 6 6 ⟨sixes, left⟩).ending ≠ .ok result := by
  intro thirds sixes
  have hsorted : ascending [6, 2, 6, 6, 6, 1, 6, 6, 1] = [1, 1, 2, 6, 6, 6, 6, 6, 6] := by
    cbv
  have hending : (explode [6, 2, 6] 6 6 ⟨thirds, 20⟩).ending = .ok [1, 1, 2, 6, 6, 6, 6, 6, 6] :=
    congrArg Record.ending
      (explode_eq_ok_iff.mpr ⟨rfl, [6, 6, 1, 6, 6, 1], rfl, hsorted.symm, rfl, rfl⟩)
  obtain ⟨-, hdraws⟩ := explode_draws_shortest_run [6, 2, 6] 6 6 (by decide) thirds
  obtain ⟨hends, -⟩ := explode_draws_shortest_run [6, 2, 6] 6 6 (by decide) sixes
  obtain ⟨count, hleast, hcount, -⟩ := hdraws _ _ hending
  refine ⟨by decide, hending, ⟨count, hleast, ?_⟩, ?_⟩
  · rw [hcount, List.length_map, length_answers]
  · intro left result h
    obtain ⟨count, hcount⟩ := hends.mp ⟨left, result, h⟩
    have hnone (count : Nat) : below 6 (answers ⟨1, 6⟩ count sixes) = 0 := by
      induction count with
      | zero => rfl
      | succ count ih => exact ih
    exact absurd (hcount.trans_eq (hnone count)) (by decide)

/-! ## Higher thresholds -/

variable {low high : Int}

/-- No more dice reach a higher threshold. -/
theorem reaching_le (h : low ≤ high) (dice : List Int) : reaching high dice ≤ reaching low dice := by
  refine List.countP_mono_left fun die _ hdie => ?_
  exact decide_eq_true (h.trans (of_decide_eq_true hdie))

/-- No fewer dice stay below a higher threshold. -/
theorem below_le (h : low ≤ high) (dice : List Int) : below low dice ≤ below high dice := by
  refine List.countP_mono_left fun die _ hdie => ?_
  exact decide_eq_true ((of_decide_eq_true hdie).trans_le h)

/-- Raising the threshold of an explosion keeps it from nothing: where it ended with the lower threshold
it still ends, with the first of the values that were drawn there and with some of the dice that were
left there. -/
theorem explode_antitone (dice : List Int) (low high sides : Int) (hlow : 2 ≤ low)
    (hle : low ≤ high) (supply : Supply σ) (result : List Int)
    (h : (explode dice low sides supply).ending = .ok result) :
    ∃ fewer, (explode dice high sides supply).ending = .ok fewer ∧
      (explode dice high sides supply).draws <+: (explode dice low sides supply).draws ∧
      fewer.Subperm result := by
  obtain ⟨source, left⟩ := supply
  have henough := (exists_explode_iff hlow dice source left).mp ⟨result, h⟩
  have hending : ∃ fewer, (explode dice high sides ⟨source, left⟩).ending = .ok fewer := by
    refine (exists_explode_iff (hlow.trans hle) dice source left).mpr ?_
    calc
      reaching high dice ≤ reaching low dice := reaching_le hle dice
      _ ≤ below low (answers (dieRange sides) left source) := henough
      _ ≤ below high (answers (dieRange sides) left source) := below_le hle _
  obtain ⟨fewer, hfewer⟩ := hending
  obtain ⟨-, added, hbatch, rfl, hdraws, -⟩ := explode_eq_ok_iff.mp (Play.eq_of_ending_eq_ok h)
  obtain ⟨-, added', hbatch', rfl, hdraws', -⟩ :=
    explode_eq_ok_iff.mp (Play.eq_of_ending_eq_ok hfewer)
  obtain ⟨hleast, hadded, -⟩ := isLeast_length_of_drawUntil hbatch
  obtain ⟨hleast', hadded', -⟩ := isLeast_length_of_drawUntil hbatch'
  have hshort : added'.length ≤ added.length :=
    hleast'.2 ((reaching_le hle dice).trans (hleast.1.trans (below_le hle _)))
  have hinitial : added' <+: added := by
    rw [hadded', hadded, ← take_answers (dieRange sides) hshort source]
    exact List.take_prefix _ _
  refine ⟨_, hfewer, ?_, ?_⟩
  · rw [hdraws, hdraws']
    exact hinitial.map _
  · have hmore : (dice ++ added').Subperm (dice ++ added) :=
      (hinitial.sublist.append_left dice).subperm
    exact (ascending_perm _).subperm.trans (hmore.trans (ascending_perm _).symm.subperm)

/-- Above threes two dice explode and add four, and only one of them is a six and adds a single die. -/
theorem explode_antitone_script :
    let supply : Supply Generator := ⟨.script [5, 6, 2, 1], 20⟩
    (2 : Int) ≤ 3 ∧ (3 : Int) ≤ 6 ∧
    (explode [2, 4, 6] 3 6 supply).ending = .ok [1, 2, 2, 4, 5, 6, 6] ∧
    ∃ fewer, (explode [2, 4, 6] 6 6 supply).ending = .ok fewer ∧
      (explode [2, 4, 6] 6 6 supply).draws <+: (explode [2, 4, 6] 3 6 supply).draws ∧
      fewer.Subperm [1, 2, 2, 4, 5, 6, 6] := by
  intro supply
  have hending : (explode [2, 4, 6] 3 6 supply).ending = .ok [1, 2, 2, 4, 5, 6, 6] := by cbv
  exact ⟨by decide, by decide, hending,
    explode_antitone [2, 4, 6] 3 6 6 (by decide) (by decide) supply _ hending⟩

end Tabletop
