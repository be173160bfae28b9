import Tabletop.Proofs.Notation.Number

/-!
# Reading written rolls

Reading succeeds exactly on the texts that begin with a written roll, and it goes on for as long as
the grammar allows: the remainder could not lengthen the roll. Each reader comes with two lemmas. One
says that a spelling is read back in front of every rest that ends it. The other recovers the
spelling from whatever was read.
-/

namespace Tabletop

/-- A computation after another one succeeds only if both do. -/
theorem exists_of_bind_eq_ok {ε α β : Type} {first : Except ε α} {next : α → Except ε β} {value : β}
    (h : first >>= next = .ok value) : ∃ a, first = .ok a ∧ next a = .ok value := by
  cases first with
  | error stop => cases h
  | ok a => exact ⟨a, rfl, h⟩

/-- A computation after another one fails only if one of them does. -/
theorem error_or_error_of_bind {ε α β : Type} {first : Except ε α} {next : α → Except ε β} {error : ε}
    (h : first >>= next = .error error) :
    first = .error error ∨ ∃ a, first = .ok a ∧ next a = .error error := by
  cases first with
  | error stop =>
    cases h
    exact Or.inl rfl
  | ok a => exact Or.inr ⟨a, rfl, h⟩

/-! ## Dice -/

/-- The separator is read behind its blanks. -/
theorem readSeparator_append (spelling : RollSpelling) (rest : Text) :
    readSeparator (spelling.blanks ++ spelling.separator :: rest) = .ok rest := by
  have hstart : Text.skipBlanks (spelling.blanks ++ spelling.separator :: rest) =
      spelling.separator :: rest :=
    Text.dropWhile_run spelling.isBlank_of_mem (spelling.startsOutside_separator rest).1
  rw [readSeparator, hstart]
  rcases spelling.separator_eq with h | h
  · rw [h]
    rfl
  · rw [h]
    rfl

/-- Whatever is read as a separator is one, behind blanks. -/
theorem exists_separator_of_readSeparator {text rest : Text} (h : readSeparator text = .ok rest) :
    ∃ blanks separator, text = blanks ++ separator :: rest ∧
      (∀ c ∈ blanks, Text.isBlank c = true) ∧ (separator = 'd' ∨ separator = 'D') := by
  rw [readSeparator] at h
  split at h
  · rename_i hstart
    cases h
    obtain ⟨blanks, htext, hblanks⟩ := Text.exists_blanks_of_skipBlanks hstart
    exact ⟨blanks, 'd', htext, hblanks, Or.inl rfl⟩
  · rename_i hstart
    cases h
    obtain ⟨blanks, htext, hblanks⟩ := Text.exists_blanks_of_skipBlanks hstart
    exact ⟨blanks, 'D', htext, hblanks, Or.inr rfl⟩
  · cases h

/-- Written dice are read back, up to the last digit of their sides. -/
theorem readDice_append (spelling : RollSpelling) {rest : Text}
    (hrest : Text.StartsOutside Char.isDigit rest) :
    readDice (spelling.count.text ++
        (spelling.blanks ++ spelling.separator :: (spelling.sides.text ++ rest))) =
      .ok ⟨spelling.roll.dice, rest⟩ := by
  rw [readDice, readNumber_append _ (spelling.startsOutside_separator _).2]
  simp only [bind, Except.bind, readSeparator_append, readNumber_append _ hrest]
  rfl

/-- Whatever is read as dice is written in front of the remainder. -/
theorem exists_spelling_of_readDice {text : Text} {reading : Reading DiceTerm}
    (h : readDice text = .ok reading) :
    ∃ spelling : RollSpelling,
      text = spelling.count.text ++
          (spelling.blanks ++ spelling.separator :: (spelling.sides.text ++ reading.remainder)) ∧
        spelling.roll.dice = reading.value ∧ Text.StartsOutside Char.isDigit reading.remainder := by
  rw [readDice] at h
  obtain ⟨count, hcount, h⟩ := exists_of_bind_eq_ok h
  obtain ⟨more, hmore, h⟩ := exists_of_bind_eq_ok h
  obtain ⟨sides, hsides, h⟩ := exists_of_bind_eq_ok h
  cases h
  obtain ⟨first, hfirst, hcountValue, -⟩ := exists_spelling_of_readNumber hcount
  obtain ⟨blanks, separator, hblanks, hblank, hseparator⟩ := exists_separator_of_readSeparator hmore
  obtain ⟨second, hsecond, hsidesValue, hrest⟩ := exists_spelling_of_readNumber hsides
  refine ⟨⟨first, blanks, separator, second, [], hblank, hseparator⟩, ?_, ?_, hrest⟩
  · rw [hfirst, hblanks, hsecond]
  · rw [RollSpelling.roll, hcountValue, hsidesValue]

/-! ## One modifier -/

/-- A number comes next exactly if a digit stands behind some blanks. -/
theorem numberAhead_iff {text : Text} : numberAhead text = true ↔
    ∃ gap digit more, text = gap ++ digit :: more ∧
      (∀ c ∈ gap, Text.isBlank c = true) ∧ digit.isDigit = true := by
  refine ⟨fun h => ?_, fun h => ?_⟩
  · rw [numberAhead] at h
    cases hstart : Text.skipBlanks text with
    | nil => simp [hstart] at h
    | cons digit more =>
      obtain ⟨gap, htext, hgap⟩ := Text.exists_blanks_of_skipBlanks hstart
      rw [hstart] at h
      exact ⟨gap, digit, more, htext, hgap, h⟩
  · obtain ⟨gap, digit, more, rfl, hgap, hdigit⟩ := h
    have hstart : Text.skipBlanks (gap ++ digit :: more) = digit :: more :=
      Text.dropWhile_run hgap (Text.startsOutside_cons (Text.isBlank_eq_false_of_isDigit hdigit) _)
    rw [numberAhead, hstart]
    exact hdigit

/-- An attempt is seen from the first letter behind the blanks. -/
theorem isModifierAttempt_iff {text : Text} : IsModifierAttempt text ↔
    ∃ letter more, Text.skipBlanks text = letter :: more ∧ letter.isAlpha = true ∧
      numberAhead more = true := by
  refine ⟨fun h => ?_, fun h => ?_⟩
  · obtain ⟨blanks, letter, gap, digit, more, rfl, hblanks, hletter, hgap, hdigit⟩ := h
    refine ⟨letter, gap ++ digit :: more, ?_, hletter,
      numberAhead_iff.mpr ⟨gap, digit, more, rfl, hgap, hdigit⟩⟩
    exact Text.dropWhile_run hblanks
      (Text.startsOutside_cons (Text.isBlank_eq_false_of_isAlpha hletter) _)
  · obtain ⟨letter, more, hstart, hletter, hnumber⟩ := h
    obtain ⟨gap, digit, more, rfl, hgap, hdigit⟩ := numberAhead_iff.mp hnumber
    obtain ⟨blanks, htext, hblanks⟩ := Text.exists_blanks_of_skipBlanks hstart
    exact ⟨blanks, letter, gap, digit, more, htext, hblanks, hletter, hgap, hdigit⟩

/-- A letter of a modifier calls for a number. -/
theorem readModifier_of_spells {text more : Text} {kind : ModifierKind} {letter : Char}
    (hstart : Text.skipBlanks text = letter :: more) (hletter : kind.Spells letter) :
    readModifier text =
      (readNumber more).map fun number => some ⟨⟨kind, number.value⟩, number.remainder⟩ := by
  rw [readModifier, hstart]
  simp only [ModifierKind.ofLetter?_eq_some_iff.mpr hletter]
  cases readNumber more <;> rfl

/-- Any other character is refused as a modifier if it is a letter with a number behind it. -/
theorem readModifier_of_not_spells {text more : Text} {letter : Char}
    (hstart : Text.skipBlanks text = letter :: more)
    (hletter : ∀ kind : ModifierKind, ¬ kind.Spells letter) :
    readModifier text = if letter.isAlpha && numberAhead more then
      .error ⟨.unknownModifier letter, letter :: more⟩ else .ok none := by
  rw [readModifier, hstart]
  simp only [ModifierKind.ofLetter?_eq_none_iff.mpr hletter]

/-- A written modifier is read back, up to its last digit. -/
theorem readModifier_append (modifier : ModifierSpelling) {rest : Text}
    (hrest : Text.StartsOutside Char.isDigit rest) :
    readModifier (modifier.text ++ rest) = .ok (some ⟨modifier.modifier, rest⟩) := by
  rw [readModifier_of_spells (modifier.skipBlanks_append rest) modifier.spells,
    readNumber_append _ hrest]
  rfl

/-- Whatever is read as a modifier is written in front of the remainder. -/
theorem exists_spelling_of_readModifier {text : Text} {reading : Reading Modifier}
    (h : readModifier text = .ok (some reading)) :
    ∃ modifier : ModifierSpelling, text = modifier.text ++ reading.remainder ∧
      modifier.modifier = reading.value ∧ Text.StartsOutside Char.isDigit reading.remainder := by
  cases hstart : Text.skipBlanks text with
  | nil => simp [readModifier, hstart] at h
  | cons letter more =>
    obtain ⟨blanks, htext, hblanks⟩ := Text.exists_blanks_of_skipBlanks hstart
    cases hkind : ModifierKind.ofLetter? letter with
    | none =>
      rw [readModifier_of_not_spells hstart (ModifierKind.ofLetter?_eq_none_iff.mp hkind)] at h
      split at h <;> cases h
    | some kind =>
      have hspells := ModifierKind.ofLetter?_eq_some_iff.mp hkind
      rw [readModifier_of_spells hstart hspells] at h
      cases hnumber : readNumber more with
      | error stop => simp [hnumber, Except.map] at h
      | ok number =>
        obtain ⟨spelling, hmore, hvalue, hrest⟩ := exists_spelling_of_readNumber hnumber
        simp only [hnumber, Except.map, Except.ok.injEq, Option.some.injEq] at h
        subst h
        refine ⟨⟨blanks, letter, kind, spelling, hblanks, hspells⟩, ?_, ?_, hrest⟩
        · rw [ModifierSpelling.text, List.append_assoc, List.cons_append, ← hmore, htext]
        · rw [ModifierSpelling.modifier, hvalue]

/-- Reading finds no modifier exactly if no letter of one and no attempt at one comes next. -/
theorem readModifier_eq_none_iff {text : Text} : readModifier text = .ok none ↔
    (∀ kind : ModifierKind, ∀ c ∈ (Text.skipBlanks text).head?, ¬ kind.Spells c) ∧
      ¬ IsModifierAttempt text := by
  rw [isModifierAttempt_iff]
  cases hstart : Text.skipBlanks text with
  | nil => simp [readModifier, hstart]
  | cons letter more =>
    cases hkind : ModifierKind.ofLetter? letter with
    | some kind =>
      have hspells := ModifierKind.ofLetter?_eq_some_iff.mp hkind
      rw [readModifier_of_spells hstart hspells]
      refine ⟨fun h => ?_, fun h => ?_⟩
      · cases hnumber : readNumber more <;> simp [hnumber, Except.map] at h
      · exact absurd hspells (h.1 kind letter rfl)
    | none =>
      have hspells := ModifierKind.ofLetter?_eq_none_iff.mp hkind
      rw [readModifier_of_not_spells hstart hspells]
      cases hattempt : letter.isAlpha && numberAhead more <;> simp_all

/-! ## Modifiers -/

/-- Reading modifiers ends in front of a text that starts none. -/
theorem readModifiers_of_none {text : Text} (h : readModifier text = .ok none) :
    readModifiers text = .ok ⟨[], text⟩ := by
  rw [readModifiers]
  split <;> simp_all

/-- Reading modifiers goes on behind each one. -/
theorem readModifiers_of_some {text : Text} {modifier : Reading Modifier}
    (h : readModifier text = .ok (some modifier)) :
    readModifiers text = (readModifiers modifier.remainder).map fun modifiers =>
      ⟨modifier.value :: modifiers.value, modifiers.remainder⟩ := by
  rw [readModifiers]
  split
  · simp_all
  · simp_all
  · rename_i modifier' h'
    have hmodifier : modifier' = modifier := by simpa [h] using h'.symm
    subst hmodifier
    cases readModifiers modifier'.remainder <;> rfl

/-- Written modifiers are read back in front of every rest that ends a roll. -/
theorem readModifiers_append (modifiers : List ModifierSpelling) {rest : Text}
    (hrest : EndsRoll rest) :
    readModifiers (modifiers.flatMap ModifierSpelling.text ++ rest) =
      .ok ⟨modifiers.map ModifierSpelling.modifier, rest⟩ := by
  induction modifiers with
  | nil =>
    exact readModifiers_of_none
      (readModifier_eq_none_iff.mpr ⟨hrest.no_modifier, hrest.no_attempt⟩)
  | cons modifier modifiers ih =>
    have hmore := startsOutside_flatMap_text modifiers hrest.no_digit
    rw [List.flatMap_cons, List.append_assoc,
      readModifiers_of_some (readModifier_append modifier hmore), ih]
    rfl

/-- Whatever is read as modifiers is written in front of the remainder, which ends the roll. -/
theorem exists_spelling_of_readModifiers {text : Text} {reading : Reading (List Modifier)}
    (h : readModifiers text = .ok reading) (hstart : Text.StartsOutside Char.isDigit text) :
    ∃ modifiers : List ModifierSpelling,
      text = modifiers.flatMap ModifierSpelling.text ++ reading.remainder ∧
        modifiers.map ModifierSpelling.modifier = reading.value ∧ EndsRoll reading.remainder := by
  -- The recursion is on the text, so each modifier hands on that no digit follows it.
  fun_induction readModifiers text generalizing reading with
  | case1 text stop hmodifier => cases h
  | case2 text hmodifier =>
    cases h
    obtain ⟨hletter, hattempt⟩ := readModifier_eq_none_iff.mp hmodifier
    exact ⟨[], rfl, rfl, hstart, hletter, hattempt⟩
  | case3 text modifier hmodifier hlt stop hstop ih => cases h
  | case4 text modifier hmodifier hlt modifiers hmodifiers ih =>
    cases h
    obtain ⟨first, htext, hfirst, hmore⟩ := exists_spelling_of_readModifier hmodifier
    obtain ⟨others, hothers, hvalue, hends⟩ := ih hmodifiers hmore
    refine ⟨first :: others, ?_, ?_, hends⟩
    · rw [List.flatMap_cons, List.append_assoc, ← hothers, htext]
    · rw [List.map_cons, hfirst, hvalue]

/-! ## Rolls -/

/-- A written roll is no blank text. -/
theorem all_isWhiteSpace_append (spelling : RollSpelling) (rest : Text) :
    (spelling.text ++ rest).all Text.isWhiteSpace = false := by
  obtain ⟨c, digits, hdigits⟩ := List.exists_cons_of_ne_nil spelling.count.digits_ne_nil
  have hc : c.isDigit = true := spelling.count.isDigit_of_mem c (by simp [hdigits])
  rw [List.all_eq_false]
  refine ⟨c, ?_, ?_⟩
  · simp [RollSpelling.text, NumberSpelling.text, hdigits]
  · rw [Text.isWhiteSpace_eq_false_of_isDigit hc]
    exact Bool.false_ne_true

/-- A text is refused because it is blank or where reading stops. -/
theorem Roll.eq_error_of_parse {text : Text} {error : ParseError} (h : Roll.parse text = .error error) :
    error = ⟨.blankText, text, 0⟩ ∨
      ∃ stop, readRoll text = .error stop ∧ error = Stop.locate text stop := by
  rw [Roll.parse] at h
  split at h
  · cases h
    exact Or.inl rfl
  · cases hroll : readRoll text with
    | ok reading =>
      rw [hroll] at h
      cases h
    | error stop =>
      rw [hroll] at h
      cases h
      exact Or.inr ⟨stop, rfl, rfl⟩

/-- A text that is divided into a written roll and a rest is read that way. -/
theorem parse_of_divides {text rest : Text} {spelling : RollSpelling}
    (h : Divides text spelling rest) : Roll.parse text = .ok ⟨spelling.roll, rest⟩ := by
  obtain ⟨rfl, hrest⟩ := h
  have hdice := readDice_append spelling (startsOutside_flatMap_text spelling.modifiers hrest.no_digit)
  rw [Roll.parse, all_isWhiteSpace_append]
  simp only [RollSpelling.text, List.append_assoc, List.cons_append, readRoll, hdice, bind,
    Except.bind, readModifiers_append _ hrest]
  rfl

/-- A text that is read is divided into a written roll and the remainder. -/
theorem exists_divides_of_parse {text : Text} {reading : Reading Roll}
    (h : Roll.parse text = .ok reading) :
    ∃ spelling, Divides text spelling reading.remainder ∧ spelling.roll = reading.value := by
  rw [Roll.parse] at h
  split at h
  · cases h
  · cases hroll : readRoll text with
    | error stop => simp [hroll, Except.mapError] at h
    | ok roll =>
      rw [hroll] at h
      cases h
      rw [readRoll] at hroll
      obtain ⟨dice, hdice, hroll⟩ := exists_of_bind_eq_ok hroll
      obtain ⟨modifiers, hmodifiers, hroll⟩ := exists_of_bind_eq_ok hroll
      cases hroll
      obtain ⟨spelling, htext, hvalue, hstart⟩ := exists_spelling_of_readDice hdice
      obtain ⟨written, hwritten, hvalues, hends⟩ := exists_spelling_of_readModifiers hmodifiers hstart
      refine ⟨{ spelling with modifiers := written }, ⟨?_, hends⟩, ?_⟩
      · simp only [RollSpelling.text, List.append_assoc, List.cons_append]
        rw [← hwritten, htext]
      · rw [RollSpelling.roll, hvalues]
        exact congrArg (Roll.mk · modifiers.value) hvalue

/-- Reading a roll accepts exactly the grammar and reads as much of the text as belongs to it: it
succeeds with a roll and a remainder exactly if the text divides into a spelling of that roll and a
remainder that could not lengthen it. There is at most one such division, and without one an error
is given. -/
theorem parse_accepts_grammar (text : Text) :
    (∀ roll rest, Roll.parse text = .ok ⟨roll, rest⟩ ↔
      ∃ spelling, Divides text spelling rest ∧ spelling.roll = roll) ∧
    (∀ spelling spelling' rest rest', Divides text spelling rest → Divides text spelling' rest' →
      spelling = spelling' ∧ rest = rest') ∧
    ((∃ error, Roll.parse text = .error error) ↔ ¬ ∃ spelling rest, Divides text spelling rest) := by
  refine ⟨fun roll rest => ⟨exists_divides_of_parse, ?_⟩, fun _ _ _ _ h h' => h.unique h', ?_, ?_⟩
  · intro h
    obtain ⟨spelling, hdivides, rfl⟩ := h
    exact parse_of_divides hdivides
  · intro h hdivision
    obtain ⟨error, herror⟩ := h
    obtain ⟨spelling, rest, hdivides⟩ := hdivision
    rw [parse_of_divides hdivides] at herror
    cases herror
  · intro hnone
    cases hparse : Roll.parse text with
    | error error => exact ⟨error, rfl⟩
    | ok reading =>
      obtain ⟨spelling, hdivides, -⟩ := exists_divides_of_parse hparse
      exact absurd ⟨spelling, _, hdivides⟩ hnone

/-- A letter without a number and the blanks before it are left alone, with a number they are an
error. -/
theorem parse_accepts_grammar_unknown_letter :
    (∃ spelling, Divides " 4D06\tK1 x!".toList spelling " x!".toList ∧
      spelling.roll = ⟨⟨4, 6⟩, [⟨.keep, 1⟩]⟩) ∧
    ¬ ∃ spelling rest, Divides " 4D06\tK1 x1".toList spelling rest := by
  have hread : Roll.parse " 4D06\tK1 x!".toList = .ok ⟨⟨⟨4, 6⟩, [⟨.keep, 1⟩]⟩, " x!".toList⟩ := by
    decide +kernel
  have herror : Roll.parse " 4D06\tK1 x1".toList =
      .error ⟨.unknownModifier 'x', " 4D06\tK1 x1".toList, 9⟩ := by
    decide +kernel
  exact ⟨((parse_accepts_grammar _).1 _ _).mp hread, (parse_accepts_grammar _).2.2.mp ⟨_, herror⟩⟩

end Tabletop
