import Mathlib.Data.List.TakeWhile
import Tabletop.Notation.Parse

/-!
# Spellings of a roll

The grammar of rolls as data. A spelling fixes every blank, every letter and every digit of a
written roll, and carries the proofs that these are the ones the grammar allows. The same roll has
many spellings, since blanks, letter case and leading zeros are free.

The condition on the rest of a text says when no more of it can belong to the roll. With it a text
has at most one division into a spelling and a rest.
-/

namespace Tabletop

namespace Text

/-- The text is empty or begins with a character outside the class. -/
def StartsOutside (p : Char → Bool) (text : Text) : Prop := ∀ c ∈ text.head?, p c = false

/-- A first character outside the class is all that is asked for. -/
theorem startsOutside_cons {p : Char → Bool} {c : Char} (hc : p c = false) (text : Text) :
    StartsOutside p (c :: text) := by
  intro d hd
  rw [List.head?_cons, Option.mem_some_iff] at hd
  exact hd ▸ hc

/-- What is left after a longest run starts outside its class. -/
theorem startsOutside_dropWhile (p : Char → Bool) (text : Text) :
    StartsOutside p (text.dropWhile p) := by
  intro c hc
  have hhead := List.head?_dropWhile_not p text
  rw [Option.mem_def.mp hc] at hhead
  exact hhead

/-- A run in front of a text that starts outside its class is the longest one. -/
theorem takeWhile_run {p : Char → Bool} {run rest : Text} (hrun : ∀ c ∈ run, p c = true)
    (hrest : StartsOutside p rest) : (run ++ rest).takeWhile p = run := by
  rw [List.takeWhile_append_of_pos hrun]
  cases rest with
  | nil => simp
  | cons c rest => simp [hrest c rfl]

/-- Dropping the longest run leaves the text behind it. -/
theorem dropWhile_run {p : Char → Bool} {run rest : Text} (hrun : ∀ c ∈ run, p c = true)
    (hrest : StartsOutside p rest) : (run ++ rest).dropWhile p = rest := by
  rw [List.dropWhile_append_of_pos hrun]
  cases rest with
  | nil => rfl
  | cons c rest => simp [hrest c rfl]

/-- A text is divided after its longest run in one way only. -/
theorem run_append_inj {p : Char → Bool} {run run' rest rest' : Text}
    (hrun : ∀ c ∈ run, p c = true) (hrun' : ∀ c ∈ run', p c = true)
    (hrest : StartsOutside p rest) (hrest' : StartsOutside p rest')
    (h : run ++ rest = run' ++ rest') : run = run' ∧ rest = rest' := by
  refine ⟨?_, ?_⟩
  · rw [← takeWhile_run hrun hrest, h, takeWhile_run hrun' hrest']
  · rw [← dropWhile_run hrun hrest, h, dropWhile_run hrun' hrest']

/-- The longest run in front of a text consists of its class. -/
theorem mem_takeWhile (p : Char → Bool) (text : Text) : ∀ c ∈ text.takeWhile p, p c = true :=
  List.all_eq_true.mp List.all_takeWhile

/-- A text consists of the blanks in front of it and what is left without them. -/
theorem takeWhile_append_skipBlanks (text : Text) :
    text.takeWhile isBlank ++ skipBlanks text = text := List.takeWhile_append_dropWhile

/-- What is found behind its blanks stands in a text behind blanks. -/
theorem exists_blanks_of_skipBlanks {text rest : Text} (h : skipBlanks text = rest) :
    ∃ blanks, text = blanks ++ rest ∧ ∀ c ∈ blanks, isBlank c = true := by
  subst h
  exact ⟨_, (takeWhile_append_skipBlanks text).symm, mem_takeWhile isBlank text⟩

/-- A blank is not a digit. -/
theorem isDigit_eq_false_of_isBlank {c : Char} (hc : isBlank c = true) : c.isDigit = false := by
  rw [isBlank, Bool.or_eq_true, beq_iff_eq, beq_iff_eq] at hc
  rcases hc with rfl | rfl <;> decide

/-- Blanks lengthen no number in front of them. -/
theorem startsOutside_blanks_append {blanks rest : Text} (hblanks : ∀ c ∈ blanks, isBlank c = true)
    (hrest : StartsOutside Char.isDigit rest) : StartsOutside Char.isDigit (blanks ++ rest) := by
  cases blanks with
  | nil => exact hrest
  | cons c blanks =>
    exact startsOutside_cons (isDigit_eq_false_of_isBlank (hblanks c List.mem_cons_self)) _

/-- A digit is not a blank. -/
theorem isBlank_eq_false_of_isDigit {c : Char} (hc : c.isDigit = true) : isBlank c = false := by
  cases hblank : isBlank c with
  | false => rfl
  | true => exact absurd hc (by rw [isDigit_eq_false_of_isBlank hblank]; exact Bool.false_ne_true)

/-- A digit is not white space. -/
theorem isWhiteSpace_eq_false_of_isDigit {c : Char} (hc : c.isDigit = true) :
    isWhiteSpace c = false := by
  rw [Char.isDigit, Bool.and_eq_true, decide_eq_true_eq, decide_eq_true_eq] at hc
  have hlow : 48 ≤ c.toNat := hc.1
  have hhigh : c.toNat ≤ 57 := hc.2
  simp only [isWhiteSpace, isSpace, inRanges, spaceRanges, List.any_cons, List.any_nil,
    Bool.or_eq_false_iff, Bool.and_eq_false_iff, decide_eq_false_iff_not, and_true]
  omega

/-- A letter is not a blank. -/
theorem isBlank_eq_false_of_isAlpha {c : Char} (hc : c.isAlpha = true) : isBlank c = false := by
  cases hblank : isBlank c with
  | false => rfl
  | true =>
    rw [isBlank, Bool.or_eq_true, beq_iff_eq, beq_iff_eq] at hblank
    rcases hblank with rfl | rfl <;> revert hc <;> decide

end Text

/-- A number as it is written: blanks, then digits whose value is in range. -/
@[ext]
structure NumberSpelling where
  blanks : Text
  digits : Text
  isBlank_of_mem : ∀ c ∈ blanks, Text.isBlank c = true
  isDigit_of_mem : ∀ c ∈ digits, c.isDigit = true
  digits_ne_nil : digits ≠ []
  value_le : Decimal.value digits ≤ maxNumber

/-- The characters of a written number. -/
def NumberSpelling.text (number : NumberSpelling) : Text := number.blanks ++ number.digits

/-- The number that is written. -/
def NumberSpelling.value (number : NumberSpelling) : Nat := Decimal.value number.digits

/-- The letter of a kind may be written in either case. -/
def ModifierKind.Spells (kind : ModifierKind) (letter : Char) : Prop :=
  letter = kind.letter ∨ letter = kind.letter.toUpper

instance (kind : ModifierKind) (letter : Char) : Decidable (kind.Spells letter) :=
  inferInstanceAs (Decidable (_ ∨ _))

namespace ModifierKind

variable {kind kind' : ModifierKind} {letter : Char}

/-- The kind of a letter is the one that it spells. -/
theorem ofLetter?_eq_some_iff : ofLetter? letter = some kind ↔ kind.Spells letter := by
  refine ⟨fun h => ?_, fun h => ?_⟩
  · unfold ofLetter? at h
    split at h <;> cases h <;> decide
  · rcases h with rfl | rfl <;> cases kind <;> rfl

/-- A letter without a kind spells none. -/
theorem ofLetter?_eq_none_iff :
    ofLetter? letter = none ↔ ∀ kind : ModifierKind, ¬ kind.Spells letter := by
  simp only [Option.eq_none_iff_forall_ne_some, ne_eq, ofLetter?_eq_some_iff]

/-- A letter spells one kind only. -/
theorem Spells.kind_eq (h : kind.Spells letter) (h' : kind'.Spells letter) : kind = kind' :=
  Option.some.inj ((ofLetter?_eq_some_iff.mpr h).symm.trans (ofLetter?_eq_some_iff.mpr h'))

/-- The letter of a kind is a letter. -/
theorem Spells.isAlpha (h : kind.Spells letter) : letter.isAlpha = true := by
  rcases h with rfl | rfl <;> cases kind <;> decide

/-- The letter of a kind is not a blank. -/
theorem Spells.isBlank_eq_false (h : kind.Spells letter) : Text.isBlank letter = false :=
  Text.isBlank_eq_false_of_isAlpha h.isAlpha

/-- The letter of a kind is not a digit. -/
theorem Spells.isDigit_eq_false (h : kind.Spells letter) : letter.isDigit = false := by
  rcases h with rfl | rfl <;> cases kind <;> decide

end ModifierKind

/-- A modifier as it is written: blanks, a letter of its kind and a number. -/
@[ext]
structure ModifierSpelling where
  blanks : Text
  letter : Char
  kind : ModifierKind
  number : NumberSpelling
  isBlank_of_mem : ∀ c ∈ blanks, Text.isBlank c = true
  spells : kind.Spells letter

/-- The characters of a written modifier. -/
def ModifierSpelling.text (modifier : ModifierSpelling) : Text :=
  modifier.blanks ++ modifier.letter :: modifier.number.text

/-- The modifier that is written. -/
def ModifierSpelling.modifier (modifier : ModifierSpelling) : Modifier :=
  ⟨modifier.kind, modifier.number.value⟩

/-- A roll as it is written: a count, blanks, the separator, the sides and any modifiers. -/
@[ext]
structure RollSpelling where
  count : NumberSpelling
  blanks : Text
  separator : Char
  sides : NumberSpelling
  modifiers : List ModifierSpelling
  isBlank_of_mem : ∀ c ∈ blanks, Text.isBlank c = true
  separator_eq : separator = 'd' ∨ separator = 'D'

/-- The characters of a written roll. -/
def RollSpelling.text (spelling : RollSpelling) : Text :=
  spelling.count.text ++ (spelling.blanks ++ spelling.separator ::
    (spelling.sides.text ++ spelling.modifiers.flatMap ModifierSpelling.text))

/-- The roll that is written. -/
def RollSpelling.roll (spelling : RollSpelling) : Roll :=
  ⟨⟨spelling.count.value, spelling.sides.value⟩,
    spelling.modifiers.map ModifierSpelling.modifier⟩

/-- A letter of any kind with a number behind it, each after optional blanks. -/
def IsModifierAttempt (text : Text) : Prop :=
  ∃ blanks letter gap digit more, text = blanks ++ letter :: (gap ++ digit :: more) ∧
    (∀ c ∈ blanks, Text.isBlank c = true) ∧ letter.isAlpha = true ∧
    (∀ c ∈ gap, Text.isBlank c = true) ∧ digit.isDigit = true

/-- No part of the rest of a text could still belong to the roll in front of it. -/
structure EndsRoll (rest : Text) : Prop where
  /-- No digit could lengthen the last number. -/
  no_digit : Text.StartsOutside Char.isDigit rest
  /-- No letter of a modifier comes next, not even one without a number. -/
  no_modifier : ∀ kind : ModifierKind, ∀ c ∈ (Text.skipBlanks rest).head?, ¬ kind.Spells c
  /-- No letter with a number comes next, not even one that is no modifier. -/
  no_attempt : ¬ IsModifierAttempt rest

/-- A text consists of a written roll and a rest that cannot belong to it. -/
structure Divides (text : Text) (spelling : RollSpelling) (rest : Text) : Prop where
  text_eq : text = spelling.text ++ rest
  endsRoll : EndsRoll rest

/-! ## Unique division -/

/-- The digits of a number come right after its blanks. -/
theorem NumberSpelling.startsOutside_digits (number : NumberSpelling) (rest : Text) :
    Text.StartsOutside Text.isBlank (number.digits ++ rest) := by
  obtain ⟨c, digits, hdigits⟩ := List.exists_cons_of_ne_nil number.digits_ne_nil
  have hc : c.isDigit = true := number.isDigit_of_mem c (by simp [hdigits])
  rw [hdigits]
  exact Text.startsOutside_cons (Text.isBlank_eq_false_of_isDigit hc) _

/-- A written number and the text behind its last digit are known from the text. -/
theorem NumberSpelling.append_inj {number number' : NumberSpelling} {rest rest' : Text}
    (hrest : Text.StartsOutside Char.isDigit rest) (hrest' : Text.StartsOutside Char.isDigit rest')
    (h : number.text ++ rest = number'.text ++ rest') : number = number' ∧ rest = rest' := by
  simp only [NumberSpelling.text, List.append_assoc] at h
  obtain ⟨hblanks, hdigits⟩ := Text.run_append_inj number.isBlank_of_mem number'.isBlank_of_mem
    (number.startsOutside_digits rest) (number'.startsOutside_digits rest') h
  obtain ⟨hdigits, hrest⟩ := Text.run_append_inj number.isDigit_of_mem number'.isDigit_of_mem
    hrest hrest' hdigits
  exact ⟨NumberSpelling.ext hblanks hdigits, hrest⟩

/-- A written modifier lengthens no number in front of it. -/
theorem ModifierSpelling.startsOutside_text (modifier : ModifierSpelling) (rest : Text) :
    Text.StartsOutside Char.isDigit (modifier.text ++ rest) := by
  rw [ModifierSpelling.text, List.append_assoc]
  exact Text.startsOutside_blanks_append modifier.isBlank_of_mem
    (Text.startsOutside_cons modifier.spells.isDigit_eq_false _)

/-- Written modifiers lengthen no number in front of them. -/
theorem startsOutside_flatMap_text (modifiers : List ModifierSpelling) {rest : Text}
    (hrest : Text.StartsOutside Char.isDigit rest) :
    Text.StartsOutside Char.isDigit (modifiers.flatMap ModifierSpelling.text ++ rest) := by
  cases modifiers with
  | nil => exact hrest
  | cons modifier modifiers =>
    rw [List.flatMap_cons, List.append_assoc]
    exact modifier.startsOutside_text _

/-- After its blanks a written modifier goes on with its letter. -/
theorem ModifierSpelling.skipBlanks_append (modifier : ModifierSpelling) (rest : Text) :
    Text.skipBlanks (modifier.text ++ rest) = modifier.letter :: (modifier.number.text ++ rest) := by
  rw [ModifierSpelling.text, List.append_assoc, List.cons_append]
  exact Text.dropWhile_run modifier.isBlank_of_mem
    (Text.startsOutside_cons modifier.spells.isBlank_eq_false _)

/-- A written modifier and the text behind it are known from the text. -/
theorem ModifierSpelling.append_inj {modifier modifier' : ModifierSpelling} {rest rest' : Text}
    (hrest : Text.StartsOutside Char.isDigit rest) (hrest' : Text.StartsOutside Char.isDigit rest')
    (h : modifier.text ++ rest = modifier'.text ++ rest') :
    modifier = modifier' ∧ rest = rest' := by
  simp only [ModifierSpelling.text, List.append_assoc, List.cons_append] at h
  obtain ⟨hblanks, htail⟩ := Text.run_append_inj modifier.isBlank_of_mem modifier'.isBlank_of_mem
    (Text.startsOutside_cons modifier.spells.isBlank_eq_false _)
    (Text.startsOutside_cons modifier'.spells.isBlank_eq_false _) h
  obtain ⟨hletter, htail⟩ := List.cons.inj htail
  obtain ⟨hnumber, hrest⟩ := NumberSpelling.append_inj hrest hrest' htail
  have hkind : modifier.kind = modifier'.kind :=
    modifier.spells.kind_eq (hletter ▸ modifier'.spells)
  exact ⟨ModifierSpelling.ext hblanks hletter hkind hnumber, hrest⟩

/-- The rest behind a roll does not begin with a written modifier. -/
theorem EndsRoll.ne_modifier_append {rest : Text} (hrest : EndsRoll rest)
    (modifier : ModifierSpelling) (more : Text) : rest ≠ modifier.text ++ more := by
  intro h
  subst h
  refine hrest.no_modifier modifier.kind modifier.letter ?_ modifier.spells
  rw [modifier.skipBlanks_append, List.head?_cons, Option.mem_some_iff]

/-- All written modifiers and the rest behind them are known from the text. -/
theorem modifiers_append_inj {modifiers modifiers' : List ModifierSpelling} {rest rest' : Text}
    (hrest : EndsRoll rest) (hrest' : EndsRoll rest')
    (h : modifiers.flatMap ModifierSpelling.text ++ rest =
      modifiers'.flatMap ModifierSpelling.text ++ rest') :
    modifiers = modifiers' ∧ rest = rest' := by
  induction modifiers generalizing modifiers' with
  | nil =>
    cases modifiers' with
    | nil => exact ⟨rfl, h⟩
    | cons modifier' modifiers' =>
      rw [List.flatMap_cons, List.append_assoc] at h
      exact absurd h (hrest.ne_modifier_append modifier' _)
  | cons modifier modifiers ih =>
    cases modifiers' with
    | nil =>
      rw [List.flatMap_cons, List.append_assoc] at h
      exact absurd h.symm (hrest'.ne_modifier_append modifier _)
    | cons modifier' modifiers' =>
      simp only [List.flatMap_cons, List.append_assoc] at h
      obtain ⟨hmodifier, htail⟩ := ModifierSpelling.append_inj
        (startsOutside_flatMap_text modifiers hrest.no_digit)
        (startsOutside_flatMap_text modifiers' hrest'.no_digit) h
      obtain ⟨hmodifiers, hrest⟩ := ih htail
      exact ⟨by rw [hmodifier, hmodifiers], hrest⟩

/-- The blanks and the separator behind a count lengthen neither the count nor the blanks. -/
theorem RollSpelling.startsOutside_separator (spelling : RollSpelling) (rest : Text) :
    Text.StartsOutside Text.isBlank (spelling.separator :: rest) ∧
      Text.StartsOutside Char.isDigit (spelling.blanks ++ spelling.separator :: rest) := by
  have hblank : Text.isBlank spelling.separator = false := by
    rcases spelling.separator_eq with h | h <;> rw [h] <;> decide
  have hdigit : spelling.separator.isDigit = false := by
    rcases spelling.separator_eq with h | h <;> rw [h] <;> decide
  constructor
  · exact Text.startsOutside_cons hblank rest
  · exact Text.startsOutside_blanks_append spelling.isBlank_of_mem (Text.startsOutside_cons hdigit rest)

/-- A text is divided into a written roll and a rest in one way only. -/
theorem Divides.unique {text rest rest' : Text} {spelling spelling' : RollSpelling}
    (h : Divides text spelling rest) (h' : Divides text spelling' rest') :
    spelling = spelling' ∧ rest = rest' := by
  have htext := h.text_eq.symm.trans h'.text_eq
  simp only [RollSpelling.text, List.append_assoc, List.cons_append] at htext
  obtain ⟨hcount, htail⟩ := NumberSpelling.append_inj
    (spelling.startsOutside_separator _).2 (spelling'.startsOutside_separator _).2 htext
  obtain ⟨hblanks, htail⟩ := Text.run_append_inj spelling.isBlank_of_mem spelling'.isBlank_of_mem
    (spelling.startsOutside_separator _).1 (spelling'.startsOutside_separator _).1 htail
  obtain ⟨hseparator, htail⟩ := List.cons.inj htail
  obtain ⟨hsides, htail⟩ := NumberSpelling.append_inj
    (startsOutside_flatMap_text _ h.endsRoll.no_digit)
    (startsOutside_flatMap_text _ h'.endsRoll.no_digit) htail
  obtain ⟨hmodifiers, hrest⟩ := modifiers_append_inj h.endsRoll h'.endsRoll htail
  exact ⟨RollSpelling.ext hcount hblanks hseparator hsides hmodifiers, hrest⟩

end Tabletop
