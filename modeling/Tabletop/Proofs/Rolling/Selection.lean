import Tabletop.Proofs.Rolling.Window

/-!
# Selections in a row

Selections cut any dice, sorted or not. Two cuts in a row at the same end are one cut, a cut at either
end leaves one slice from the middle, and a count below zero is a cut from the other side. Counts that
reach the number of dice are the places where the selections differ: keeping all dice and removing all
of them are told apart from keeping or removing none.
-/

namespace Tabletop

/-! ## Counts that are not negative -/

/-- Keeping the highest dice leaves as many as were asked for, or all. -/
theorem length_keep (dice : List Int) (count : Nat) :
    (keep dice count).length = min count dice.length := by
  rw [keep_natCast, List.length_drop]
  omega

/-- Keeping the highest dice twice keeps as many as the smaller count says. -/
theorem keep_keep (dice : List Int) (first second : Nat) :
    keep (keep dice first) second = keep dice (min first second : Nat) := by
  have hplaces : dice.length - first + (min first dice.length - second) =
      dice.length - min first second := by omega
  rw [keep_natCast (keep dice first), length_keep, keep_natCast, keep_natCast, List.drop_drop, hplaces]

/-- Keeping the lowest dice twice keeps as many as the smaller count says. -/
theorem keepLower_keepLower (dice : List Int) (first second : Nat) :
    keepLower (keepLower dice first) second = keepLower dice (min first second : Nat) := by
  rw [keepLower_natCast, keepLower_natCast, keepLower_natCast, List.take_take, Nat.min_comm]

/-- As long as dice are left, removing twice removes as many as both counts say. -/
theorem exists_remove_remove {dice : List Int} {first : Nat} (hfirst : first < dice.length)
    (second : Nat) :
    ∃ rest, remove dice first = some rest ∧ remove rest second = remove dice (first + second : Nat) := by
  refine ⟨dice.drop first, ?_, ?_⟩
  · rw [remove_natCast, if_neg (Nat.not_le_of_lt hfirst)]
  · rw [remove_natCast, remove_natCast, List.length_drop, List.drop_drop]
    simp only [Nat.sub_le_iff_le_add']

/-- The lowest of the highest dice are a slice of the dice. -/
theorem exists_keepLower_keep (dice : List Int) (first second : Nat) :
    ∃ front back, front ++ keepLower (keep dice first) second ++ back = dice ∧
      front.length = dice.length - min first dice.length ∧
      (keepLower (keep dice first) second).length = min (min first second) dice.length := by
  refine ⟨dice.take (dice.length - first), (keep dice first).drop second, ?_, ?_, ?_⟩
  · rw [keepLower_natCast, List.append_assoc, List.take_append_drop, keep_natCast,
      List.take_append_drop]
  · rw [List.length_take]
    omega
  · rw [keepLower_natCast, List.length_take, length_keep]
    omega

/-! ## Counts below zero -/

/-- A place below zero is so far from the end, in front of the first die at the earliest. -/
theorem placeFrom_neg (length : Nat) {count : Nat} (h : 1 ≤ count) :
    placeFrom length (-count) = length - count := by
  rw [placeFrom, if_pos (by omega)]
  omega

/-- A count below zero removes all but the highest dice. -/
theorem remove_neg (dice : List Int) {count : Nat} (h : 1 ≤ count) :
    remove dice (-count) = some (keep dice count) := by
  rw [remove, if_neg (by omega), placeFrom_neg _ h, keep_natCast]

/-- A count below zero keeps none of the highest dice. -/
theorem keep_neg (dice : List Int) {count : Nat} (h : 1 ≤ count) : keep dice (-count) = [] := by
  rw [keep, if_pos (by omega), List.drop_eq_nil_of_le]
  omega

/-- A count below zero keeps all but the highest dice. -/
theorem exists_keepLower_neg (dice : List Int) {count : Nat} (h : 1 ≤ count) :
    ∃ dropped, keepLower dice (-count) ++ dropped = dice ∧
      dropped.length = min count dice.length := by
  refine ⟨dice.drop (dice.length - count), ?_, ?_⟩
  · rw [keepLower, if_pos (by omega), placeFrom_neg _ h, List.take_append_drop]
  · rw [List.length_drop]
    omega

/-! ## The laws together -/

/-- The laws of selections on any dice. Keeping twice at the same end keeps as many dice as the smaller
count says, and removing twice removes as many as both say, as long as the first leaves any. The lowest of
the highest dice are the slice that begins where the highest do and has as many dice as both counts and
the dice allow. A count below zero counts from the end: removing then is keeping the highest, keeping the
highest keeps none, and keeping the lowest drops as many from the end. -/
theorem selections_compose (dice : List Int) (first second : Nat) :
    keep (keep dice first) second = keep dice (min first second : Nat) ∧
    keepLower (keepLower dice first) second = keepLower dice (min first second : Nat) ∧
    (first < dice.length → ∃ rest, remove dice first = some rest ∧
      remove rest second = remove dice (first + second : Nat)) ∧
    (∃ front back, front ++ keepLower (keep dice first) second ++ back = dice ∧
      front.length = dice.length - min first dice.length ∧
      (keepLower (keep dice first) second).length = min (min first second) dice.length) ∧
    (1 ≤ first → remove dice (-first) = some (keep dice first) ∧ keep dice (-first) = [] ∧
      ∃ dropped, keepLower dice (-first) ++ dropped = dice ∧
        dropped.length = min first dice.length) := by
  refine ⟨keep_keep dice first second, keepLower_keepLower dice first second, ?_, ?_, ?_⟩
  · exact fun hfirst => exists_remove_remove hfirst second
  · exact exists_keepLower_keep dice first second
  · exact fun hfirst => ⟨remove_neg dice hfirst, keep_neg dice hfirst, exists_keepLower_neg dice hfirst⟩

/-- One die and then two more are removed from four unsorted dice, with none left as soon as they are as
many as the dice; and a count below zero may go beyond the first die. -/
theorem selections_compose_unsorted :
    1 < [4, 1, 6, 2].length ∧
    (∃ rest, remove [4, 1, 6, 2] 1 = some rest ∧ remove rest 2 = some [2]) ∧
    (∃ rest, remove [4, 1, 6, 2] 1 = some rest ∧ remove rest 3 = none) ∧
    1 ≤ 5 ∧ remove [4, 1, 6, 2] (-5) = some [4, 1, 6, 2] ∧ keep [4, 1, 6, 2] (-5) = [] := by
  obtain ⟨-, -, htwo, -⟩ := selections_compose [4, 1, 6, 2] 1 2
  obtain ⟨-, -, hthree, -⟩ := selections_compose [4, 1, 6, 2] 1 3
  obtain ⟨-, -, -, -, hneg⟩ := selections_compose [4, 1, 6, 2] 5 0
  obtain ⟨hremove, hkeep, -⟩ := hneg (by decide)
  exact ⟨by decide, htwo (by decide), hthree (by decide), by decide, hremove, hkeep⟩

end Tabletop
