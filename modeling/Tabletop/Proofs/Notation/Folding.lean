import Mathlib.Data.List.Forall2
import Tabletop.Proofs.Notation.Calculation

/-!
# Letter case and the kind of blank

The notation does not tell a capital from its lowercase letter, nor a tab from a space. Folding a text
replaces each by the other, and every reader commutes with it: what is read from the folded text is what
is read from the text, with the remainder folded, and reading stops at the folded rest. So two texts that
fold to the same one are read alike, whether reading succeeds or not.
-/

namespace Tabletop

namespace Text

/-! ## Folding characters -/

/-- The character that stands for all those that a notation does not tell apart from this one. -/
def foldChar (c : Char) : Char := if isBlank c then ' ' else c.toLower

/-- The capitals, numbered from zero. -/
def capital (n : Nat) : Char := Char.ofNat (65 + n)

/-- Folding changes nothing but a tab and the capitals. -/
theorem foldChar_cases (c : Char) : foldChar c = c ∨ c = '\t' ∨ ∃ n < 26, c = capital n := by
  by_cases hblank : isBlank c = true
  · rw [isBlank, Bool.or_eq_true, beq_iff_eq, beq_iff_eq] at hblank
    rcases hblank with rfl | rfl
    · exact Or.inl rfl
    · exact Or.inr (Or.inl rfl)
  · rw [foldChar, if_neg hblank]
    unfold Char.toLower
    split
    · rename_i hcapital
      have hlow : 65 ≤ c.toNat := hcapital.1
      have hhigh : c.toNat ≤ 90 := hcapital.2
      refine Or.inr (Or.inr ⟨c.toNat - 65, by omega, ?_⟩)
      rw [capital, Nat.add_sub_cancel' hlow, Char.ofNat_toNat]
    · exact Or.inl rfl

/-- What tells no tab from a space and no capital from its lowercase letter is not changed by folding. -/
theorem foldChar_invariant {α : Type} {f : Char → α} (htab : f ' ' = f '\t')
    (hcapital : ∀ n < 26, f (foldChar (capital n)) = f (capital n)) (c : Char) :
    f (foldChar c) = f c := by
  rcases foldChar_cases c with hself | rfl | ⟨n, hn, rfl⟩
  · rw [hself]
  · exact htab
  · exact hcapital n hn

/-- Folding keeps blanks and makes none. -/
@[simp]
theorem isBlank_foldChar (c : Char) : isBlank (foldChar c) = isBlank c :=
  foldChar_invariant rfl (by decide) c

/-- Folding keeps white space and makes none. -/
@[simp]
theorem isWhiteSpace_foldChar (c : Char) : isWhiteSpace (foldChar c) = isWhiteSpace c :=
  foldChar_invariant rfl (by decide) c

/-- Folding keeps digits and makes none. -/
@[simp]
theorem isDigit_foldChar (c : Char) : (foldChar c).isDigit = c.isDigit :=
  foldChar_invariant (f := Char.isDigit) rfl (by decide) c

/-- Folding keeps letters and makes none. -/
@[simp]
theorem isAlpha_foldChar (c : Char) : (foldChar c).isAlpha = c.isAlpha :=
  foldChar_invariant (f := Char.isAlpha) (by decide) (by decide) c

/-- A folded letter stands for the same kind of modifier. -/
@[simp]
theorem ofLetter?_foldChar (c : Char) : ModifierKind.ofLetter? (foldChar c) = ModifierKind.ofLetter? c :=
  foldChar_invariant rfl (by decide) c

/-- A folded symbol stands for the same operation. -/
@[simp]
theorem ofSymbol?_foldChar (c : Char) : Operation.ofSymbol? (foldChar c) = Operation.ofSymbol? c :=
  foldChar_invariant rfl (by decide) c

/-- Folding leaves a digit as it is. -/
theorem foldChar_of_isDigit {c : Char} (h : c.isDigit = true) : foldChar c = c := by
  have hcapital : ∀ n < 26, (capital n).isDigit = false := by decide
  rcases foldChar_cases c with hself | rfl | ⟨n, hn, rfl⟩
  · exact hself
  · cases h
  · rw [hcapital n hn] at h
    cases h

/-! ## Folding texts -/

/-- A text with all its characters folded. -/
def fold (text : Text) : Text := text.map foldChar

/-- A text is folded character by character. -/
@[simp]
theorem fold_cons (c : Char) (text : Text) : fold (c :: text) = foldChar c :: fold text := rfl

/-- Folding keeps the length of a text, and so all positions in it. -/
@[simp]
theorem length_fold (text : Text) : (fold text).length = text.length := List.length_map foldChar

/-- A run of a class that folding does not change ends at the same place in the folded text. -/
theorem dropWhile_fold {p : Char → Bool} (h : ∀ c, p (foldChar c) = p c) (text : Text) :
    (fold text).dropWhile p = fold (text.dropWhile p) := by
  have hp : p ∘ foldChar = p := funext h
  rw [fold, List.dropWhile_map, hp, fold]

/-- Blanks are skipped in the folded text as far as in the text. -/
@[simp]
theorem skipBlanks_fold (text : Text) : skipBlanks (fold text) = fold (skipBlanks text) :=
  dropWhile_fold isBlank_foldChar text

/-- Digits are dropped from the folded text as far as from the text. -/
@[simp]
theorem dropWhile_isDigit_fold (text : Text) :
    (fold text).dropWhile Char.isDigit = fold (text.dropWhile Char.isDigit) :=
  dropWhile_fold isDigit_foldChar text

/-- The folded text begins with the same digits. -/
@[simp]
theorem takeWhile_isDigit_fold (text : Text) :
    (fold text).takeWhile Char.isDigit = text.takeWhile Char.isDigit := by
  have hp : Char.isDigit ∘ foldChar = Char.isDigit := funext isDigit_foldChar
  rw [fold, List.takeWhile_map, hp]
  have hdigits := mem_takeWhile Char.isDigit text
  exact (List.map_congr_left fun c hc => foldChar_of_isDigit (hdigits c hc)).trans (List.map_id _)

/-- The folded text is white space only if the text is. -/
@[simp]
theorem all_isWhiteSpace_fold (text : Text) : (fold text).all isWhiteSpace = text.all isWhiteSpace := by
  rw [fold, List.all_map]
  exact congrArg text.all (funext isWhiteSpace_foldChar)

/-- Characters that a notation does not tell apart: a letter and the same letter in the other case, and
the two kinds of blank. -/
def Interchangeable (c d : Char) : Prop :=
  c = d ∨ (c.isAlpha = true ∧ d.isAlpha = true ∧ c.toLower = d.toLower) ∨
    (isBlank c = true ∧ isBlank d = true)

instance (c d : Char) : Decidable (Interchangeable c d) := inferInstanceAs (Decidable (_ ∨ _))

/-- Interchangeable characters are folded to the same one. -/
theorem Interchangeable.foldChar_eq {c d : Char} (h : Interchangeable c d) : foldChar c = foldChar d := by
  rcases h with rfl | ⟨hc, hd, hlower⟩ | ⟨hc, hd⟩
  · rfl
  · rw [foldChar, foldChar, isBlank_eq_false_of_isAlpha hc, isBlank_eq_false_of_isAlpha hd, hlower]
  · rw [foldChar, foldChar, if_pos hc, if_pos hd]

/-- Texts with interchangeable characters at every place are folded to the same one. -/
theorem fold_eq_of_interchangeable {text text' : Text} (h : List.Forall₂ Interchangeable text text') :
    fold text = fold text' := by
  induction h with
  | nil => rfl
  | cons hc _ ih => rw [fold_cons, fold_cons, hc.foldChar_eq, ih]

end Text

/-! ## Folding results -/

/-- A reading of the folded text: the same value, and the folded remainder. -/
def Reading.fold {α : Type} (reading : Reading α) : Reading α := ⟨reading.value, reading.remainder.fold⟩

/-- A fault names a folded character. -/
def Fault.fold : Fault → Fault
  | unknownModifier letter => unknownModifier (Text.foldChar letter)
  | unknownOperator symbol => unknownOperator (Text.foldChar symbol)
  | fault => fault

/-- Reading the folded text stops at the folded rest. -/
def Stop.fold (stop : Stop) : Stop := ⟨stop.fault.fold, stop.rest.fold⟩

/-- An error in the folded text, at the same position. -/
def ParseError.fold (error : ParseError) : ParseError := ⟨error.fault.fold, error.text.fold, error.position⟩

/-- A result whose value and whose error are mapped. -/
def mapResult {ε δ α β : Type} (onError : ε → δ) (onValue : α → β) : Except ε α → Except δ β
  | .error error => .error (onError error)
  | .ok value => .ok (onValue value)

section Results

variable {ε δ α β γ : Type} {onError : ε → δ} {onValue : α → α} {next : α → Except ε β}
  {next' : α → Except δ γ} {onNext : β → γ}

/-- Readings in a row are mapped like their parts. -/
theorem mapResult_bind (first : Except ε α)
    (h : ∀ value, next' (onValue value) = mapResult onError onNext (next value)) :
    mapResult onError onValue first >>= next' = mapResult onError onNext (first >>= next) := by
  cases first with
  | error error => rfl
  | ok value => exact h value

end Results

/-! ## The readers -/

/-- The folded text holds the same number in front of the folded remainder. -/
theorem readNumber_fold (text : Text) :
    readNumber text.fold = mapResult Stop.fold Reading.fold (readNumber text) := by
  simp only [readNumber, Text.skipBlanks_fold, Text.takeWhile_isDigit_fold, Text.dropWhile_isDigit_fold]
  split
  · rfl
  · split <;> rfl

/-- Behind the blanks the separator is one of two letters. -/
theorem readSeparator_of_cons {text rest : Text} {c : Char} (hstart : Text.skipBlanks text = c :: rest) :
    readSeparator text = if c = 'd' ∨ c = 'D' then .ok rest else .error ⟨.missingSeparator, text⟩ := by
  rw [readSeparator, hstart]
  split <;> simp_all

/-- The separator is read from the folded text as well. -/
theorem readSeparator_fold (text : Text) :
    readSeparator text.fold = mapResult Stop.fold Text.fold (readSeparator text) := by
  have hletter (c : Char) : (Text.foldChar c = 'd' ∨ Text.foldChar c = 'D') ↔ c = 'd' ∨ c = 'D' := by
    rw [← decide_eq_decide]
    exact Text.foldChar_invariant (f := fun c => decide (c = 'd' ∨ c = 'D')) (by decide) (by decide) c
  cases hstart : Text.skipBlanks text with
  | nil =>
    rw [readSeparator, readSeparator, Text.skipBlanks_fold, hstart]
    rfl
  | cons c rest =>
    have hfold : Text.skipBlanks text.fold = Text.foldChar c :: Text.fold rest := by
      rw [Text.skipBlanks_fold, hstart, Text.fold_cons]
    rw [readSeparator_of_cons hstart, readSeparator_of_cons hfold]
    simp only [hletter]
    split <;> rfl

/-- The folded text holds the same dice in front of the folded remainder. -/
theorem readDice_fold (text : Text) :
    readDice text.fold = mapResult Stop.fold Reading.fold (readDice text) := by
  rw [readDice, readDice, readNumber_fold]
  refine mapResult_bind _ fun count => ?_
  rw [Reading.fold, readSeparator_fold]
  refine mapResult_bind _ fun rest => ?_
  rw [readNumber_fold]
  exact mapResult_bind _ fun sides => rfl

/-- A number comes next in the folded text if it does in the text. -/
@[simp]
theorem numberAhead_fold (text : Text) : numberAhead text.fold = numberAhead text := by
  rw [numberAhead, numberAhead, Text.skipBlanks_fold]
  cases Text.skipBlanks text with
  | nil => rfl
  | cons c rest => exact Text.isDigit_foldChar c

/-- The folded text holds the same modifier, or none, in front of the folded remainder. -/
theorem readModifier_fold (text : Text) :
    readModifier text.fold = mapResult Stop.fold (Option.map Reading.fold) (readModifier text) := by
  rw [readModifier, readModifier, Text.skipBlanks_fold]
  cases Text.skipBlanks text with
  | nil => rfl
  | cons c rest =>
    simp only [Text.fold_cons, Text.ofLetter?_foldChar, Text.isAlpha_foldChar, numberAhead_fold]
    cases ModifierKind.ofLetter? c with
    | some kind =>
      simp only [readNumber_fold]
      exact mapResult_bind _ fun number => rfl
    | none =>
      simp only
      split <;> rfl

/-- A modifier is read from the folded text as well. -/
theorem readModifier_fold_of_some {text : Text} {modifier : Reading Modifier}
    (h : readModifier text = .ok (some modifier)) : readModifier text.fold = .ok (some modifier.fold) := by
  rw [readModifier_fold, h]
  rfl

/-- Reading modifiers stops where reading one of them does. -/
theorem readModifiers_of_error {text : Text} {stop : Stop} (h : readModifier text = .error stop) :
    readModifiers text = .error stop := by
  rw [readModifiers]
  split <;> simp_all

/-- The folded text holds the same modifiers. The induction follows the text modifier by modifier. -/
theorem readModifiers_fold (text : Text) :
    readModifiers text.fold = mapResult Stop.fold Reading.fold (readModifiers text) := by
  fun_induction readModifiers text with
  | case1 text stop hmodifier =>
    exact readModifiers_of_error (by rw [readModifier_fold, hmodifier]; rfl)
  | case2 text hmodifier =>
    exact readModifiers_of_none (by rw [readModifier_fold, hmodifier]; rfl)
  | case3 text modifier hmodifier hlt stop hstop ih =>
    rw [readModifiers_of_some (readModifier_fold_of_some hmodifier), Reading.fold, ih, hstop]
    rfl
  | case4 text modifier hmodifier hlt modifiers hmodifiers ih =>
    rw [readModifiers_of_some (readModifier_fold_of_some hmodifier), Reading.fold, ih, hmodifiers]
    rfl

/-- The folded text holds the same roll, with its parts read one after the other. -/
theorem readRoll_fold (text : Text) :
    readRoll text.fold = mapResult Stop.fold Reading.fold (readRoll text) := by
  rw [readRoll, readRoll, readDice_fold]
  refine mapResult_bind _ fun dice => ?_
  rw [Reading.fold, readModifiers_fold]
  exact mapResult_bind _ fun modifiers => rfl

/-- The folded text is refused at the same position. -/
theorem mapError_locate_fold {α : Type} (text : Text) (fold : α → α) (result : Except Stop α) :
    (mapResult Stop.fold fold result).mapError (Stop.locate text.fold) =
      mapResult ParseError.fold fold (result.mapError (Stop.locate text)) := by
  cases result with
  | ok value => rfl
  | error stop =>
    change Except.error (Stop.locate text.fold stop.fold) = Except.error (Stop.locate text stop).fold
    simp only [Stop.locate, Stop.fold, ParseError.fold, Text.length_fold]

/-- A roll is read from the folded text as from the text. -/
theorem Roll.parse_fold (text : Text) :
    Roll.parse text.fold = mapResult ParseError.fold Reading.fold (Roll.parse text) := by
  rw [Roll.parse, Roll.parse, Text.all_isWhiteSpace_fold, readRoll_fold, mapError_locate_fold]
  split <;> rfl

/-- Without a point in front there is no fraction. -/
theorem readFraction_of_ne {c : Char} (h : c ≠ '.') (rest : Text) :
    readFraction (c :: rest) = ⟨[], c :: rest⟩ := by
  rw [readFraction.eq_def]
  split
  · rename_i rest' hpoint
    exact absurd (List.cons.inj hpoint).1 h
  · rfl

/-- The folded text holds the same fraction, since no other character is folded to a point. -/
theorem readFraction_fold (text : Text) : readFraction text.fold = (readFraction text).fold := by
  have hpoint (c : Char) : Text.foldChar c = '.' ↔ c = '.' := by
    rw [← decide_eq_decide]
    exact Text.foldChar_invariant (f := fun c => decide (c = '.')) (by decide) (by decide) c
  cases text with
  | nil => rfl
  | cons c rest =>
    by_cases hc : c = '.'
    · subst hc
      rw [Text.fold_cons, (hpoint '.').mpr rfl, readFraction_point, readFraction_point,
        Text.takeWhile_isDigit_fold, Text.dropWhile_isDigit_fold]
      split <;> rfl
    · rw [Text.fold_cons, readFraction_of_ne hc, readFraction_of_ne (mt (hpoint c).mp hc)]
      rfl

/-- The folded text holds the same scalar, or none. -/
theorem readScalar_fold (text : Text) : readScalar? text.fold = (readScalar? text).map Reading.fold := by
  simp only [readScalar?, Text.skipBlanks_fold, Text.takeWhile_isDigit_fold, Text.dropWhile_isDigit_fold,
    readFraction_fold]
  split <;> rfl

/-- The folded text holds the same operation. -/
theorem readOperation_fold (text : Text) :
    readOperation text.fold = mapResult Stop.fold Reading.fold (readOperation text) := by
  cases text with
  | nil => rfl
  | cons c rest =>
    simp only [Text.fold_cons, readOperation, Text.ofSymbol?_foldChar]
    cases Operation.ofSymbol? c <;> rfl

/-- The folded text holds the same operator and scalar, or neither. -/
theorem readTail_fold (text : Text) :
    readTail text.fold = mapResult Stop.fold Reading.fold (readTail text) := by
  have hhead : (Text.skipBlanks text).fold.head?.any Operation.isSymbol =
      (Text.skipBlanks text).head?.any Operation.isSymbol := by
    cases Text.skipBlanks text with
    | nil => rfl
    | cons c rest => exact congrArg Option.isSome (Text.ofSymbol?_foldChar c)
  simp only [readTail, Text.skipBlanks_fold, hhead, readOperation_fold]
  split
  · refine mapResult_bind _ fun operation => ?_
    simp only [Reading.fold, readScalar_fold]
    cases readScalar? operation.remainder <;> rfl
  · rfl

/-- A calculation is read from the folded text as from the text. -/
theorem Calculation.parse_fold (text : Text) :
    Calculation.parse text.fold = mapResult ParseError.fold Reading.fold (Calculation.parse text) := by
  rw [Calculation.parse, Calculation.parse, Roll.parse_fold]
  refine mapResult_bind _ fun roll => ?_
  rw [Reading.fold, readTail_fold, mapError_locate_fold]
  exact mapResult_bind _ fun tail => rfl

/-! ## Two texts -/

/-- Two readings end alike: with the same value and remainders of the same length, or with errors at the
same position. -/
inductive ReadAlike {α : Type} : Except ParseError (Reading α) → Except ParseError (Reading α) → Prop
  | ok {value : α} {remainder remainder' : Text} (h : remainder.length = remainder'.length) :
    ReadAlike (.ok ⟨value, remainder⟩) (.ok ⟨value, remainder'⟩)
  | error {error error' : ParseError} (h : error.position = error'.position) :
    ReadAlike (.error error) (.error error')

/-- Readings that are folded to the same one end alike. -/
theorem readAlike_of_mapResult_eq {α : Type} {result result' : Except ParseError (Reading α)}
    (h : mapResult ParseError.fold Reading.fold result = mapResult ParseError.fold Reading.fold result') :
    ReadAlike result result' := by
  cases result with
  | error error =>
    cases result' with
    | error error' => exact .error (ParseError.mk.inj (Except.error.inj h)).2.2
    | ok reading' => cases h
  | ok reading =>
    cases result' with
    | error error' => cases h
    | ok reading' =>
      obtain ⟨value, remainder⟩ := reading
      obtain ⟨value', remainder'⟩ := reading'
      obtain ⟨rfl, hfold⟩ := Reading.mk.inj (Except.ok.inj h)
      have hlength := congrArg List.length hfold
      rw [Text.length_fold, Text.length_fold] at hlength
      exact .ok hlength

/-- Letter case and the kind of blank never matter. If two texts have at every place the same character,
the same letter in either case, or a blank, then a roll is read from both of them alike, and so is a
calculation. -/
theorem parse_alike_of_interchangeable {text text' : Text}
    (h : List.Forall₂ Text.Interchangeable text text') :
    ReadAlike (Roll.parse text) (Roll.parse text') ∧
      ReadAlike (Calculation.parse text) (Calculation.parse text') := by
  have hfold := Text.fold_eq_of_interchangeable h
  constructor
  · refine readAlike_of_mapResult_eq ?_
    rw [← Roll.parse_fold, ← Roll.parse_fold, hfold]
  · refine readAlike_of_mapResult_eq ?_
    rw [← Calculation.parse_fold, ← Calculation.parse_fold, hfold]

/-- In capitals and with a tab a roll is read as it is in lowercase with a space, and an unknown modifier
is refused at the same position. -/
theorem parse_alike_of_interchangeable_capitals :
    (∃ remainder, Roll.parse "2D6\tK1 + 4X".toList = .ok ⟨⟨⟨2, 6⟩, [⟨.keep, 1⟩]⟩, remainder⟩ ∧
      remainder.length = 5) ∧
    ∃ error, Calculation.parse "2D6\tX3 + 1".toList = .error error ∧ error.position = 4 := by
  have hroll : List.Forall₂ Text.Interchangeable "2d6 k1 + 4x".toList "2D6\tK1 + 4X".toList := by decide
  have hrefused : List.Forall₂ Text.Interchangeable "2d6 x3 + 1".toList "2D6\tX3 + 1".toList := by decide
  obtain ⟨hlower, -⟩ := parse_alike_of_interchangeable hroll
  obtain ⟨-, hcalculation⟩ := parse_alike_of_interchangeable hrefused
  have hread : Roll.parse "2d6 k1 + 4x".toList = .ok ⟨⟨⟨2, 6⟩, [⟨.keep, 1⟩]⟩, " + 4x".toList⟩ := by
    decide +kernel
  have hfails : Roll.parse "2d6 x3 + 1".toList =
      .error ⟨.unknownModifier 'x', "2d6 x3 + 1".toList, 4⟩ := by
    decide +kernel
  have herror : Calculation.parse "2d6 x3 + 1".toList =
      .error ⟨.unknownModifier 'x', "2d6 x3 + 1".toList, 4⟩ := Calculation.parse_of_error hfails
  rw [hread] at hlower
  rw [herror] at hcalculation
  constructor
  · generalize Roll.parse "2D6\tK1 + 4X".toList = result at hlower ⊢
    cases hlower with
    | ok hlength => exact ⟨_, rfl, hlength.symm⟩
  · generalize Calculation.parse "2D6\tX3 + 1".toList = result at hcalculation ⊢
    cases hcalculation with
    | error hposition => exact ⟨_, rfl, hposition.symm⟩

end Tabletop
