import Tabletop.Proofs.Rolling.Completion

/-!
# Selections as windows

Without explosions a roll is a window on its sorted base dice. Each selection moves one end of the
window by its count and never past the other end, so the window is known before any die is rolled.
Evaluating the roll cuts exactly this window out of the sorted dice, and an empty window means that
no dice remain.
-/

namespace Tabletop

/-- A count that is not negative is a place as it is. -/
theorem placeFrom_natCast (length count : Nat) : placeFrom length count = count := by
  rw [placeFrom, if_neg (by omega), Int.toNat_natCast]

/-- Removing drops the lowest dice or leaves nothing. -/
theorem remove_natCast (dice : List Int) (count : Nat) :
    remove dice count = if dice.length ≤ count then none else some (dice.drop count) := by
  rw [remove, placeFrom_natCast]
  simp only [Int.ofNat_le]

/-- Keeping the highest dice drops all dice below them. -/
theorem keep_natCast (dice : List Int) (count : Nat) :
    keep dice count = dice.drop (dice.length - count) := by
  rw [keep]
  split
  · rw [Int.toNat_sub]
  · rename_i hcount
    rw [Nat.sub_eq_zero_of_le (by omega), List.drop_zero]

/-- Keeping the lowest dice takes them from the front. -/
theorem keepLower_natCast (dice : List Int) (count : Nat) : keepLower dice count = dice.take count := by
  rw [keepLower, placeFrom_natCast]
  split
  · rfl
  · rename_i hcount
    rw [List.take_of_length_le (by omega)]

/-- A selection with a count that is not negative. -/
inductive Cut
  /-- Drop that many of the lowest dice. -/
  | remove (count : Nat)
  /-- Keep that many of the highest dice. -/
  | keep (count : Nat)
  /-- Keep that many of the lowest dice. -/
  | keepLower (count : Nat)

/-- The modifier of a selection. -/
def Cut.modifier : Cut → Modifier
  | remove count => ⟨.remove, count⟩
  | keep count => ⟨.keep, count⟩
  | keepLower count => ⟨.keepLower, count⟩

/-- A selection is no explosion. -/
theorem Cut.kind_modifier_ne_explode (cut : Cut) : cut.modifier.kind ≠ .explode := by
  cases cut <;> exact ModifierKind.noConfusion

/-- The dice of a list that a selection keeps. -/
def Cut.kept : Cut → List Int → List Int
  | remove count, dice => dice.drop count
  | keep count, dice => dice.drop (dice.length - count)
  | keepLower count, dice => dice.take count

/-- A selection is a cut, up to the two ways of saying that no dice remain. -/
theorem Cut.settle_select (cut : Cut) (dice : List Int) :
    settle (cut.modifier.select dice) = settle (some (cut.kept dice)) := by
  cases cut with
  | remove count =>
    simp only [Cut.modifier, Modifier.select, Cut.kept, remove_natCast]
    split
    · rename_i hcount
      rw [List.drop_eq_nil_of_le hcount]
      rfl
    · rfl
  | keep count => simp only [Cut.modifier, Modifier.select, Cut.kept, keep_natCast]
  | keepLower count => simp only [Cut.modifier, Modifier.select, Cut.kept, keepLower_natCast]

/-- An interval of places among the given number of sorted dice. -/
structure Window (size : Nat) where
  low : Nat
  high : Nat
  low_le : low ≤ high
  high_le : high ≤ size

namespace Window

variable {size : Nat}

/-- All places. -/
def full (size : Nat) : Window size := ⟨0, size, Nat.zero_le size, Nat.le_refl size⟩

/-- Move one end of a window, but not past the other end. -/
def narrow (window : Window size) : Cut → Window size
  | .remove count =>
    ⟨min (window.low + count) window.high, window.high, Nat.min_le_right _ _, window.high_le⟩
  | .keep count =>
    ⟨max window.low (window.high - count), window.high,
      Nat.max_le.mpr ⟨window.low_le, Nat.sub_le _ _⟩, window.high_le⟩
  | .keepLower count =>
    ⟨window.low, min window.high (window.low + count),
      Nat.le_min.mpr ⟨window.low_le, Nat.le_add_right _ _⟩,
      Nat.le_trans (Nat.min_le_left _ _) window.high_le⟩

/-- The dice at the places of a window, nothing if it has no places. -/
def outcome (window : Window size) (sorted : List Int) : Outcome :=
  if window.low < window.high then some (sorted.extract window.low window.high) else none

/-- A window cuts out as many dice as it has places. -/
theorem length_extract (window : Window size) {sorted : List Int} (hlength : sorted.length = size) :
    (sorted.extract window.low window.high).length = window.high - window.low := by
  have hhigh := window.high_le
  rw [List.extract_eq_take_drop, List.length_take, List.length_drop]
  omega

/-- The outcome of a window has as many dice as the window has places. -/
theorem length_outcome (window : Window size) {sorted : List Int} (hlength : sorted.length = size) :
    ((window.outcome sorted).getD []).length = window.high - window.low := by
  rw [outcome]
  split
  · exact window.length_extract hlength
  · rw [Option.getD_none, List.length_nil]
    omega

/-- The outcome of a window is what it cuts out, settled. -/
theorem outcome_eq_settle (window : Window size) {sorted : List Int}
    (hlength : sorted.length = size) :
    window.outcome sorted = settle (some (sorted.extract window.low window.high)) := by
  have hextract := window.length_extract hlength
  rw [outcome]
  split
  · cases hdice : sorted.extract window.low window.high with
    | nil =>
      rw [hdice, List.length_nil] at hextract
      omega
    | cons die dice => rfl
  · have hnil : sorted.extract window.low window.high = [] :=
      List.eq_nil_of_length_eq_zero (by omega)
    rw [hnil]
    rfl

/-- The window of all places shows all dice. -/
theorem outcome_full {sorted : List Int} (hlength : sorted.length = size) :
    (full size).outcome sorted = settle (some sorted) := by
  have hextract : sorted.extract (full size).low (full size).high = sorted := by
    change (sorted.drop 0).take (size - 0) = sorted
    rw [List.drop_zero, Nat.sub_zero, List.take_of_length_le (Nat.le_of_eq hlength)]
  rw [outcome_eq_settle _ hlength, hextract]

/-- Narrowing a window cuts the dice in it. -/
theorem extract_narrow (window : Window size) (cut : Cut) {sorted : List Int}
    (hlength : sorted.length = size) :
    sorted.extract (window.narrow cut).low (window.narrow cut).high =
      cut.kept (sorted.extract window.low window.high) := by
  have hlow := window.low_le
  cases cut with
  | remove count =>
    simp only [narrow, Cut.kept, List.extract_eq_take_drop, List.drop_take, List.drop_drop]
    rcases Nat.le_total (window.low + count) window.high with hle | hle
    · rw [Nat.min_eq_left hle, Nat.sub_add_eq]
    · rw [Nat.min_eq_right hle, Nat.sub_self, Nat.sub_sub, Nat.sub_eq_zero_of_le hle, List.take_zero,
        List.take_zero]
  | keep count =>
    have hplaces : max window.low (window.high - count) =
        window.low + (window.high - window.low - count) := by omega
    simp only [narrow, Cut.kept, window.length_extract hlength, hplaces]
    simp only [List.extract_eq_take_drop, List.drop_take, List.drop_drop, Nat.sub_add_eq]
  | keepLower count =>
    have hplaces : min window.high (window.low + count) - window.low =
        min count (window.high - window.low) := by omega
    simp only [narrow, Cut.kept, List.extract_eq_take_drop, List.take_take, hplaces]

/-- An empty window stays empty. -/
theorem outcome_narrow_eq_none {window : Window size} {sorted : List Int}
    (h : window.outcome sorted = none) (cut : Cut) : (window.narrow cut).outcome sorted = none := by
  have hempty : ¬ window.low < window.high := by
    intro hlt
    rw [outcome, if_pos hlt] at h
    cases h
  rw [outcome, if_neg]
  cases cut <;> simp only [narrow] <;> omega

/-- Selecting from the dice of a window narrows the window. -/
theorem settle_select {window : Window size} {sorted dice : List Int} (hlength : sorted.length = size)
    (h : window.outcome sorted = some dice) (cut : Cut) :
    settle (cut.modifier.select dice) = (window.narrow cut).outcome sorted := by
  have hdice : sorted.extract window.low window.high = dice := by
    rw [outcome] at h
    split at h
    · exact Option.some.inj h
    · cases h
  rw [Cut.settle_select, outcome_eq_settle _ hlength, extract_narrow _ _ hlength, hdice]

end Window

variable {σ : Type} [RandomSource σ]

/-- The first answers of a source to requests for one range. -/
def answers (range : Range) : Nat → σ → List Int
  | 0, _ => []
  | count + 1, source =>
    let (value, next) := RandomSource.draw range source
    value :: answers range count next

/-- There are as many answers as requests. -/
theorem length_answers (range : Range) (count : Nat) (source : σ) :
    (answers range count source).length = count := by
  induction count generalizing source with
  | zero => rfl
  | succ count ih => rw [answers, List.length_cons, ih]

/-- The first of many answers are the answers to fewer requests. -/
theorem take_answers (range : Range) {few many : Nat} (h : few ≤ many) (source : σ) :
    (answers range many source).take few = answers range few source := by
  induction few generalizing many source with
  | zero => rfl
  | succ few ih =>
    obtain ⟨many, rfl⟩ := Nat.exists_eq_add_one_of_ne_zero (Nat.ne_zero_of_lt h)
    rw [answers, List.take_succ_cons, ih (Nat.le_of_succ_le_succ h), answers]

/-- Sorting keeps the number of answers. -/
theorem length_ascending_answers (range : Range) (count : Nat) (source : σ) :
    (ascending (answers range count source)).length = count :=
  (ascending_perm _).length_eq.trans (length_answers range count source)

/-- A batch in which every value counts takes as many answers as are wanted, all of them if there are not
so many, and leaves the others. -/
theorem exists_drawUntil_all (range : Range) (left wanted : Nat) (source : σ) :
    ∃ next, drawUntil range (fun _ => true) left wanted source =
        ⟨(answers range left source).take wanted, ⟨next, left - wanted⟩, decide (wanted ≤ left)⟩ ∧
      answers range (left - wanted) next = (answers range left source).drop wanted := by
  fun_induction drawUntil range (fun _ => true) left wanted source with
  | case1 left source => exact ⟨source, rfl, rfl⟩
  | case2 wanted source => exact ⟨source, by rw [Nat.zero_sub]; rfl, by rw [Nat.zero_sub]; rfl⟩
  | case3 left wanted source value next hanswer ih =>
    obtain ⟨rest, hbatch, hrest⟩ := ih
    simp only [↓reduceIte] at hbatch hrest
    simp only [answers, hanswer, ↓reduceIte, hbatch, List.take_succ_cons, List.drop_succ_cons,
      Nat.succ_sub_succ, Nat.succ_le_succ_iff]
    exact ⟨rest, rfl, hrest⟩

/-- A batch in which every value counts consists of the first answers. -/
theorem exists_drawUntil_eq (range : Range) (left wanted : Nat) (source : σ) :
    ∃ next, drawUntil range (fun _ => true) (wanted + left) wanted source =
      ⟨answers range wanted source, ⟨next, left⟩, true⟩ := by
  obtain ⟨next, hbatch, -⟩ := exists_drawUntil_all range (wanted + left) wanted source
  rw [take_answers range (Nat.le_add_right wanted left), Nat.add_sub_cancel_left,
    decide_eq_true (Nat.le_add_right wanted left)] at hbatch
  exact ⟨next, hbatch⟩

/-- Selections move the window and draw nothing. -/
theorem applyModifiers_map_modifier {size : Nat} {sorted : List Int} (hlength : sorted.length = size)
    (sides : Int) (cuts : List Cut) (window : Window size) (supply : Supply σ) :
    ∃ events, applyModifiers sides (cuts.map Cut.modifier) (window.outcome sorted) supply =
      ⟨.ok ((cuts.foldl Window.narrow window).outcome sorted), supply, [], events⟩ := by
  induction cuts generalizing window with
  | nil => exact ⟨[], rfl⟩
  | cons cut cuts ih =>
    obtain ⟨events, hrest⟩ := ih (window.narrow cut)
    rw [List.map_cons, List.foldl_cons]
    cases houtcome : window.outcome sorted with
    | none =>
      rw [Window.outcome_narrow_eq_none houtcome cut, applyModifiers_none] at hrest
      exact ⟨events, by rw [applyModifiers_none, hrest]⟩
    | some dice =>
      have hstep : cut.modifier.apply sides dice supply =
          ⟨.ok (cut.modifier.select dice), supply, [], []⟩ := by
        rw [Modifier.apply_eq_pure cut.kind_modifier_ne_explode]
        rfl
      rw [← Window.settle_select hlength houtcome cut] at hrest
      exact ⟨_, applyModifiers_cons_eq_ok_iff.mpr
        ⟨_, supply, [], [], [], events, hstep, hrest, rfl, rfl⟩⟩

/-- A roll without explosions is evaluated from its base dice alone, none of them for a count below
zero. -/
theorem exists_evaluate_toNat_eq {settings : Settings} {dice : DiceTerm} {cuts : List Cut}
    (haccepted : (Roll.mk dice (cuts.map Cut.modifier)).rejection? settings = none)
    (source : σ) (left : Nat) :
    let values := answers (dieRange dice.sides) dice.count.toNat source
    ∃ next events,
      evaluate settings ⟨dice, cuts.map Cut.modifier⟩ ⟨source, dice.count.toNat + left⟩ =
        ⟨.ok ((cuts.foldl Window.narrow (Window.full dice.count.toNat)).outcome (ascending values)),
          ⟨next, left⟩, values.map (Draw.mk (dieRange dice.sides)), events⟩ := by
  intro values
  have hlength : (ascending values).length = dice.count.toNat := length_ascending_answers _ _ source
  obtain ⟨next, hbatch⟩ := exists_drawUntil_eq (dieRange dice.sides) left dice.count.toNat source
  have hdice : rollDice dice ⟨source, dice.count.toNat + left⟩ =
      ⟨.ok (ascending values), ⟨next, left⟩, values.map (Draw.mk (dieRange dice.sides)), []⟩ :=
    rollDice_eq_ok_iff.mpr ⟨_, hbatch, rfl, rfl, rfl⟩
  obtain ⟨events, hrest⟩ := applyModifiers_map_modifier hlength dice.sides cuts (Window.full _)
    (⟨next, left⟩ : Supply σ)
  rw [Window.outcome_full hlength] at hrest
  exact ⟨next, _, evaluate_eq_ok_iff.mpr ⟨haccepted, _, _, _, [], [], events, hdice, hrest,
    (List.append_nil _).symm, rfl⟩⟩

/-- The same where the roll says how many dice it has. -/
theorem exists_evaluate_eq {settings : Settings} {dice : DiceTerm} {size : Nat} {cuts : List Cut}
    (hsize : dice.count = size)
    (haccepted : (Roll.mk dice (cuts.map Cut.modifier)).rejection? settings = none)
    (source : σ) (left : Nat) :
    ∃ next events, evaluate settings ⟨dice, cuts.map Cut.modifier⟩ ⟨source, size + left⟩ =
      ⟨.ok ((cuts.foldl Window.narrow (Window.full size)).outcome
          (ascending (answers (dieRange dice.sides) size source))), ⟨next, left⟩,
        (answers (dieRange dice.sides) size source).map (Draw.mk (dieRange dice.sides)), events⟩ := by
  obtain rfl : dice.count.toNat = size := by rw [hsize, Int.toNat_natCast]
  exact exists_evaluate_toNat_eq haccepted source left

/-- A roll without explosions evaluates to a window on its sorted base dice, from every supply that may
be asked once for each of them. The window follows from the number of dice and the selections alone,
and only the base dice are drawn. -/
theorem evaluate_cuts (settings : Settings) (dice : DiceTerm) (size : Nat) (cuts : List Cut)
    (source : σ) (left : Nat) (hsize : dice.count = size)
    (haccepted : (Roll.mk dice (cuts.map Cut.modifier)).rejection? settings = none) :
    let window := cuts.foldl Window.narrow (Window.full size)
    let values := answers (dieRange dice.sides) size source
    let record := evaluate settings ⟨dice, cuts.map Cut.modifier⟩ ⟨source, size + left⟩
    record.ending = .ok (if window.low < window.high then
        some ((ascending values).extract window.low window.high) else none) ∧
      record.draws = values.map (Draw.mk (dieRange dice.sides)) ∧
      record.draws.length = size ∧
      ∀ outcome, record.ending = .ok outcome →
        (outcome.getD []).length = window.high - window.low := by
  intro window values record
  obtain ⟨next, events, hrecord⟩ := exists_evaluate_eq hsize haccepted source left
  have hending : record.ending = .ok (window.outcome (ascending values)) :=
    congrArg Record.ending hrecord
  have hdraws : record.draws = values.map (Draw.mk (dieRange dice.sides)) :=
    congrArg Record.draws hrecord
  refine ⟨hending, hdraws, ?_, ?_⟩
  · rw [hdraws, List.length_map, length_answers]
  · intro outcome houtcome
    rw [hending] at houtcome
    cases houtcome
    exact window.length_outcome (length_ascending_answers _ size source)

/-- One selection of each kind leaves the third of four sorted dice. -/
theorem evaluate_cuts_script :
    (evaluate Settings.standard ⟨⟨4, 6⟩, [.keep 3, .remove 1, .keepLower 1].map Cut.modifier⟩
      (⟨.script [3, 6, 1, 4], 4⟩ : Supply Generator)).ending = .ok (some [4]) ∧
    (evaluate Settings.standard ⟨⟨4, 6⟩, [.keep 3, .remove 1, .keepLower 1].map Cut.modifier⟩
      (⟨.script [3, 6, 1, 4], 4⟩ : Supply Generator)).draws.length = 4 := by
  have hsorted : ascending (answers (dieRange 6) 4 (Generator.script [3, 6, 1, 4])) = [1, 3, 4, 6] := by
    cbv
  obtain ⟨hending, -, hcount, -⟩ := evaluate_cuts Settings.standard ⟨4, 6⟩ 4
    [.keep 3, .remove 1, .keepLower 1] (Generator.script [3, 6, 1, 4]) 0 rfl rfl
  refine ⟨?_, hcount⟩
  rw [hending, hsorted]
  rfl

end Tabletop
