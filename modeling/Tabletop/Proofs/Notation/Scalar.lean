import Tabletop.Notation.Calculation
import Tabletop.Proofs.Notation.Number

/-!
# Reading written decimal numbers

The number behind an operator as data: blanks, digits, and behind a point more digits or nothing at
all. A point belongs to the number only if a digit follows it, so whether a text can lengthen the
number depends on whether it has a fraction already. Reading succeeds exactly on the texts that begin
with such a number and takes as much of them as belongs to it.
-/

namespace Tabletop

/-- A decimal number as it is written: blanks, digits and the digits of a fraction, if there are any. -/
@[ext]
structure ScalarSpelling where
  blanks : Text
  whole : Text
  fraction : Text
  isBlank_of_mem : ∀ c ∈ blanks, Text.isBlank c = true
  isDigit_of_mem_whole : ∀ c ∈ whole, c.isDigit = true
  whole_ne_nil : whole ≠ []
  isDigit_of_mem_fraction : ∀ c ∈ fraction, c.isDigit = true

/-- The digits of a fraction stand behind a point, and without digits there is no point. -/
def fractionText : Text → Text
  | [] => []
  | digits => '.' :: digits

/-- The characters of a written decimal number. -/
def ScalarSpelling.text (scalar : ScalarSpelling) : Text :=
  scalar.blanks ++ (scalar.whole ++ fractionText scalar.fraction)

/-- The number that is written, as a double. -/
def ScalarSpelling.value (scalar : ScalarSpelling) : Float := nearestFloat scalar.whole scalar.fraction

/-- The rest of a text could not lengthen a decimal number with the given fraction. -/
structure EndsScalar (fraction rest : Text) : Prop where
  /-- No digit could lengthen the last run of digits. -/
  no_digit : Text.StartsOutside Char.isDigit rest
  /-- No point with a digit behind it could start a fraction. -/
  no_fraction : fraction = [] → ∀ digit more, rest = '.' :: digit :: more → digit.isDigit = false

/-- Nothing at all ends every number. -/
theorem endsScalar_nil (fraction : Text) : EndsScalar fraction [] := by
  constructor
  · intro c hc
    cases hc
  · intro _ digit more h
    cases h

/-- A point is read with the digits behind it, and left alone without any. -/
theorem readFraction_point (rest : Text) : readFraction ('.' :: rest) =
    if (rest.takeWhile Char.isDigit).isEmpty then ⟨[], '.' :: rest⟩
    else ⟨rest.takeWhile Char.isDigit, rest.dropWhile Char.isDigit⟩ := rfl

/-- A written fraction is read back. -/
theorem readFraction_append {fraction rest : Text} (hdigits : ∀ c ∈ fraction, c.isDigit = true)
    (hrest : EndsScalar fraction rest) :
    readFraction (fractionText fraction ++ rest) = ⟨fraction, rest⟩ := by
  cases fraction with
  | cons digit fraction =>
    change readFraction ('.' :: (digit :: fraction ++ rest)) = _
    rw [readFraction_point, Text.takeWhile_run hdigits hrest.no_digit,
      Text.dropWhile_run hdigits hrest.no_digit]
    rfl
  | nil =>
    change readFraction rest = _
    rw [readFraction.eq_def]
    split
    · rename_i more
      have hnone : more.takeWhile Char.isDigit = [] := by
        cases more with
        | nil => rfl
        | cons digit more => simp [hrest.no_fraction rfl digit more rfl]
      simp [hnone]
    · rfl

/-- Whatever is read as a fraction is written in front of the remainder. -/
theorem fractionText_append_of_readFraction {text : Text} (hstart : Text.StartsOutside Char.isDigit text) :
    text = fractionText (readFraction text).value ++ (readFraction text).remainder ∧
      (∀ c ∈ (readFraction text).value, c.isDigit = true) ∧
      EndsScalar (readFraction text).value (readFraction text).remainder := by
  rw [readFraction.eq_def]
  split
  · rename_i rest
    have hdigits := Text.mem_takeWhile Char.isDigit rest
    cases hrun : rest.takeWhile Char.isDigit with
    | nil =>
      refine ⟨rfl, by simp, hstart, ?_⟩
      intro _ digit more h
      cases h
      by_contra hdigit
      simp_all
    | cons digit run =>
      rw [hrun] at hdigits
      refine ⟨?_, hdigits, Text.startsOutside_dropWhile _ _, ?_⟩
      · change '.' :: rest = '.' :: (digit :: run ++ rest.dropWhile Char.isDigit)
        rw [← hrun, List.takeWhile_append_dropWhile]
      · intro hnil
        cases hnil
  · rename_i hpoint
    refine ⟨rfl, by simp, hstart, ?_⟩
    intro _ digit more h
    exact absurd h (hpoint _)

/-- The digits of a decimal number come right after its blanks. -/
theorem ScalarSpelling.startsOutside_whole (scalar : ScalarSpelling) (rest : Text) :
    Text.StartsOutside Text.isBlank (scalar.whole ++ rest) := by
  obtain ⟨digit, whole, hwhole⟩ := List.exists_cons_of_ne_nil scalar.whole_ne_nil
  have hdigit : digit.isDigit = true := scalar.isDigit_of_mem_whole digit (by simp [hwhole])
  rw [hwhole]
  exact Text.startsOutside_cons (Text.isBlank_eq_false_of_isDigit hdigit) _

/-- What stands behind the digits before the point lengthens them no further. -/
theorem EndsScalar.startsOutside_fractionText {fraction rest : Text} (hrest : EndsScalar fraction rest) :
    Text.StartsOutside Char.isDigit (fractionText fraction ++ rest) := by
  cases fraction with
  | nil => exact hrest.no_digit
  | cons digit fraction => exact Text.startsOutside_cons (by decide) _

/-- A written decimal number and the text behind its last digit are known from the text. -/
theorem ScalarSpelling.append_inj {scalar scalar' : ScalarSpelling} {rest rest' : Text}
    (hrest : EndsScalar scalar.fraction rest) (hrest' : EndsScalar scalar'.fraction rest')
    (h : scalar.text ++ rest = scalar'.text ++ rest') : scalar = scalar' ∧ rest = rest' := by
  simp only [ScalarSpelling.text, List.append_assoc] at h
  obtain ⟨hblanks, hwhole⟩ := Text.run_append_inj scalar.isBlank_of_mem scalar'.isBlank_of_mem
    (scalar.startsOutside_whole _) (scalar'.startsOutside_whole _) h
  obtain ⟨hwhole, hfraction⟩ := Text.run_append_inj scalar.isDigit_of_mem_whole
    scalar'.isDigit_of_mem_whole hrest.startsOutside_fractionText hrest'.startsOutside_fractionText hwhole
  -- Both fractions are what is read from the same text.
  have hread := congrArg readFraction hfraction
  rw [readFraction_append scalar.isDigit_of_mem_fraction hrest,
    readFraction_append scalar'.isDigit_of_mem_fraction hrest'] at hread
  obtain ⟨hfraction, hrest⟩ := Reading.mk.inj hread
  exact ⟨ScalarSpelling.ext hblanks hwhole hfraction, hrest⟩

/-- A written decimal number is read back, up to its last digit. -/
theorem readScalar_append (scalar : ScalarSpelling) {rest : Text}
    (hrest : EndsScalar scalar.fraction rest) :
    readScalar? (scalar.text ++ rest) = some ⟨scalar.value, rest⟩ := by
  have hstart : Text.skipBlanks (scalar.text ++ rest) =
      scalar.whole ++ (fractionText scalar.fraction ++ rest) := by
    rw [ScalarSpelling.text, List.append_assoc, List.append_assoc]
    exact Text.dropWhile_run scalar.isBlank_of_mem (scalar.startsOutside_whole _)
  have hfraction := hrest.startsOutside_fractionText
  have hne : scalar.whole.isEmpty = false := List.isEmpty_eq_false_iff.mpr scalar.whole_ne_nil
  simp only [readScalar?, hstart, Text.takeWhile_run scalar.isDigit_of_mem_whole hfraction,
    Text.dropWhile_run scalar.isDigit_of_mem_whole hfraction, hne, Bool.false_eq_true, ↓reduceIte,
    readFraction_append scalar.isDigit_of_mem_fraction hrest]
  rfl

/-- Whatever is read as a decimal number is written in front of the remainder. -/
theorem exists_spelling_of_readScalar {text : Text} {reading : Reading Float}
    (h : readScalar? text = some reading) :
    ∃ scalar : ScalarSpelling, text = scalar.text ++ reading.remainder ∧
      scalar.value = reading.value ∧ EndsScalar scalar.fraction reading.remainder := by
  have hblanks := Text.mem_takeWhile Text.isBlank text
  have hdigits := Text.mem_takeWhile Char.isDigit (Text.skipBlanks text)
  obtain ⟨htext, hfraction, hends⟩ := fractionText_append_of_readFraction
    (Text.startsOutside_dropWhile Char.isDigit (Text.skipBlanks text))
  simp only [readScalar?] at h
  split at h
  · cases h
  · rename_i hne
    cases h
    rw [List.isEmpty_iff] at hne
    refine ⟨⟨_, _, _, hblanks, hdigits, hne, hfraction⟩, ?_, rfl, hends⟩
    rw [ScalarSpelling.text, List.append_assoc, List.append_assoc, ← htext,
      List.takeWhile_append_dropWhile, Text.takeWhile_append_skipBlanks]

end Tabletop
