import Tabletop.Proofs.Notation.Reading
import Tabletop.Proofs.Notation.Scalar

/-!
# Reading a roll and reading a calculation

Reading a calculation begins by reading a roll, and it fails where that fails. What follows depends on
the remainder alone: without an operator behind its blanks the calculation is the roll with this
remainder, and with an operator either a number follows or its absence is the error. An operator that
has been seen is always read, so its own errors never occur.
-/

namespace Tabletop

/-! ## Faults of a roll -/

/-- Whenever reading stops, its fault is one of the allowed ones. -/
def StopsOnly {α : Type} (allowed : Fault → Prop) (result : Except Stop α) : Prop :=
  ∀ stop, result = .error stop → allowed stop.fault

/-- A fault that reading a roll has. -/
def Fault.IsRollFault : Fault → Prop
  | blankText => True
  | missingNumber => True
  | numberTooLarge => True
  | missingSeparator => True
  | unknownModifier _ => True
  | _ => False

/-- A fault that reading an operator has. -/
def Fault.IsOperatorFault : Fault → Prop
  | missingOperator => True
  | unknownOperator _ => True
  | _ => False

/-- Reading a roll and reading an operator have no fault in common. -/
theorem Fault.IsRollFault.not_isOperatorFault {fault : Fault} (h : fault.IsRollFault) :
    ¬ fault.IsOperatorFault := by
  cases fault <;> first | exact not_false | exact h.elim

section Stops

variable {α β : Type} {allowed : Fault → Prop}

/-- What was read does not stop. -/
theorem stopsOnly_ok (value : α) : StopsOnly allowed (.ok value) := by
  intro stop h
  cases h

/-- Reading stops with the fault that it gives. -/
theorem stopsOnly_error {stop : Stop} (h : allowed stop.fault) :
    StopsOnly allowed (.error stop : Except Stop α) := by
  intro other hother
  cases hother
  exact h

/-- Readings in a row stop only as one of them does. -/
theorem StopsOnly.bind {first : Except Stop α} {next : α → Except Stop β}
    (hfirst : StopsOnly allowed first) (hnext : ∀ value, StopsOnly allowed (next value)) :
    StopsOnly allowed (first >>= next) := by
  cases first with
  | error stop => exact stopsOnly_error (hfirst stop rfl)
  | ok value => exact hnext value

end Stops

/-- Reading a number stops with the fault of a roll. -/
theorem stopsOnly_readNumber (text : Text) : StopsOnly Fault.IsRollFault (readNumber text) := by
  simp only [readNumber]
  split
  · exact stopsOnly_error trivial
  · split
    · exact stopsOnly_error trivial
    · exact stopsOnly_ok _

/-- Reading dice stops with the fault of a roll. -/
theorem stopsOnly_readDice (text : Text) : StopsOnly Fault.IsRollFault (readDice text) := by
  have hseparator (rest : Text) : StopsOnly Fault.IsRollFault (readSeparator rest) := by
    rw [readSeparator]
    split
    · exact stopsOnly_ok _
    · exact stopsOnly_ok _
    · exact stopsOnly_error trivial
  rw [readDice]
  refine (stopsOnly_readNumber text).bind fun count => (hseparator _).bind fun rest => ?_
  exact (stopsOnly_readNumber rest).bind fun sides => stopsOnly_ok _

/-- Reading a modifier stops with the fault of a roll. -/
theorem stopsOnly_readModifier (text : Text) : StopsOnly Fault.IsRollFault (readModifier text) := by
  rw [readModifier]
  split
  · exact stopsOnly_ok _
  · split
    · exact (stopsOnly_readNumber _).bind fun number => stopsOnly_ok _
    · split
      · exact stopsOnly_error trivial
      · exact stopsOnly_ok _

/-- Reading modifiers stops with the fault of a roll. -/
theorem stopsOnly_readModifiers (text : Text) : StopsOnly Fault.IsRollFault (readModifiers text) := by
  fun_induction readModifiers text with
  | case1 text stop hmodifier =>
    exact stopsOnly_error (stopsOnly_readModifier text stop hmodifier)
  | case2 text hmodifier => exact stopsOnly_ok _
  | case3 text modifier hmodifier hlt stop hstop ih => exact stopsOnly_error (ih stop hstop)
  | case4 text modifier hmodifier hlt modifiers hmodifiers ih => exact stopsOnly_ok _

/-- A roll is refused with the fault of a roll. -/
theorem Roll.isRollFault_of_parse {text : Text} {error : ParseError}
    (h : Roll.parse text = .error error) : error.fault.IsRollFault := by
  have hroll : StopsOnly Fault.IsRollFault (readRoll text) :=
    (stopsOnly_readDice text).bind fun dice =>
      (stopsOnly_readModifiers dice.remainder).bind fun modifiers => stopsOnly_ok _
  rcases Roll.eq_error_of_parse h with rfl | ⟨stop, hstop, rfl⟩
  · exact trivial
  · exact hroll stop hstop

/-! ## Behind the roll -/

namespace Operation

/-- The character of an operation stands for it, and no other character does. -/
theorem ofSymbol?_eq_some_iff {c : Char} {operation : Operation} :
    ofSymbol? c = some operation ↔ c = operation.symbol := by
  refine ⟨fun h => ?_, fun h => ?_⟩
  · unfold ofSymbol? at h
    split at h <;> cases h <;> rfl
  · subst h
    cases operation <;> rfl

/-- The operators are these four characters. -/
theorem mem_symbols_iff {c : Char} :
    c ∈ ['+', '-', '*', '/'] ↔ ∃ operation : Operation, c = operation.symbol := by
  refine ⟨fun h => ?_, fun h => ?_⟩
  · simp only [List.mem_cons, List.not_mem_nil, or_false] at h
    rcases h with h | h | h | h
    · exact ⟨add, h⟩
    · exact ⟨subtract, h⟩
    · exact ⟨multiply, h⟩
    · exact ⟨divide, h⟩
  · obtain ⟨operation, rfl⟩ := h
    cases operation <;> decide

/-- A character is seen as an operator exactly if it is one of the four. -/
theorem isSymbol_iff {c : Char} : isSymbol c = true ↔ c ∈ ['+', '-', '*', '/'] := by
  rw [isSymbol, Option.isSome_iff_exists, mem_symbols_iff]
  exact exists_congr fun operation => ofSymbol?_eq_some_iff

end Operation

/-- Behind its blanks the text does not go on with an operator. -/
def Text.LacksOperator (text : Text) : Prop :=
  ∀ c ∈ (skipBlanks text).head?, c ∉ ['+', '-', '*', '/']

/-- Behind its blanks a text either has no operator or goes on with one. -/
theorem Text.lacksOperator_or_exists (text : Text) :
    text.LacksOperator ∨
      ∃ operation : Operation, ∃ more, skipBlanks text = operation.symbol :: more := by
  by_cases h : ∃ operation : Operation, ∃ more, skipBlanks text = operation.symbol :: more
  · exact Or.inr h
  · refine Or.inl fun c hc hmem => ?_
    obtain ⟨operation, rfl⟩ := Operation.mem_symbols_iff.mp hmem
    obtain ⟨more, hmore⟩ := List.head?_eq_some_iff.mp hc
    exact h ⟨operation, more, hmore⟩

/-- What is read as a number after an operator leaves an end of the text. -/
theorem suffix_of_readScalar {text : Text} {reading : Reading Float}
    (h : readScalar? text = some reading) : reading.remainder <:+ text := by
  obtain ⟨scalar, htext, -⟩ := exists_spelling_of_readScalar h
  exact ⟨scalar.text, htext.symm⟩

/-- Without an operator behind the blanks there is no tail, and the blanks are left alone. -/
theorem readTail_of_lacksOperator {text : Text} (h : text.LacksOperator) :
    readTail text = .ok ⟨none, text⟩ := by
  have hsymbol : (Text.skipBlanks text).head?.any Operation.isSymbol = false := by
    cases hhead : (Text.skipBlanks text).head? with
    | none => rfl
    | some c =>
      rw [Option.any_some, Bool.eq_false_iff, ne_eq, Operation.isSymbol_iff]
      exact h c hhead
  simp only [readTail, hsymbol, Bool.false_eq_true, ↓reduceIte]

/-- An operator behind the blanks is read, and calls for a number. -/
theorem readTail_of_operator {text more : Text} {operation : Operation}
    (h : Text.skipBlanks text = operation.symbol :: more) :
    readTail text = match readScalar? more with
      | none => .error ⟨.missingScalar operation, more⟩
      | some scalar => .ok ⟨some ⟨operation, scalar.value⟩, scalar.remainder⟩ := by
  have hsymbol : Operation.isSymbol operation.symbol = true :=
    Operation.isSymbol_iff.mpr (Operation.mem_symbols_iff.mpr ⟨operation, rfl⟩)
  have hread : readOperation (operation.symbol :: more) = .ok ⟨operation, more⟩ := by
    simp only [readOperation, Operation.ofSymbol?_eq_some_iff.mpr rfl]
  simp only [readTail, h, List.head?_cons, Option.any_some, hsymbol, ↓reduceIte, hread, bind,
    Except.bind]
  cases readScalar? more <;> rfl

/-- A tail is refused for want of its number only. -/
theorem stopsOnly_readTail (text : Text) :
    StopsOnly (fun fault => ∃ operation, fault = .missingScalar operation) (readTail text) := by
  rcases text.lacksOperator_or_exists with hlacks | ⟨operation, more, hstart⟩
  · rw [readTail_of_lacksOperator hlacks]
    exact stopsOnly_ok _
  · rw [readTail_of_operator hstart]
    split
    · exact stopsOnly_error ⟨operation, rfl⟩
    · exact stopsOnly_ok _

/-! ## The whole calculation -/

variable {text rest : Text} {roll : Roll}

/-- A calculation is refused with the error of its roll. -/
theorem Calculation.parse_of_error {error : ParseError} (h : Roll.parse text = .error error) :
    Calculation.parse text = .error error := by
  simp only [Calculation.parse, h, bind, Except.bind]

/-- A calculation is read by reading a roll and then a tail from its remainder. -/
theorem Calculation.parse_of_roll (h : Roll.parse text = .ok ⟨roll, rest⟩) :
    Calculation.parse text = ((readTail rest).mapError (Stop.locate text)).map fun tail =>
      ⟨⟨roll, tail.value⟩, tail.remainder⟩ := by
  simp only [Calculation.parse, h, bind, Except.bind]
  cases readTail rest <;> rfl

/-- Without an operator the calculation is the roll, with the same remainder. -/
theorem Calculation.parse_of_lacksOperator (h : Roll.parse text = .ok ⟨roll, rest⟩)
    (hlacks : rest.LacksOperator) : Calculation.parse text = .ok ⟨⟨roll, none⟩, rest⟩ := by
  rw [Calculation.parse_of_roll h, readTail_of_lacksOperator hlacks]
  rfl

/-- An operator calls for a number. With one the calculation takes both, without one there is an error
right behind the operator. -/
theorem Calculation.parse_of_operator {operation : Operation} {more : Text}
    (h : Roll.parse text = .ok ⟨roll, rest⟩)
    (hstart : Text.skipBlanks rest = operation.symbol :: more) :
    Calculation.parse text = match readScalar? more with
      | none => .error ⟨.missingScalar operation, text, text.length - more.length⟩
      | some scalar => .ok ⟨⟨roll, some ⟨operation, scalar.value⟩⟩, scalar.remainder⟩ := by
  rw [Calculation.parse_of_roll h, readTail_of_operator hstart]
  cases readScalar? more <;> rfl

/-- The roll of a calculation is the one that reading a roll yields. -/
theorem Calculation.exists_roll_of_parse {tail : Option Tail} {more : Text}
    (h : Calculation.parse text = .ok ⟨⟨roll, tail⟩, more⟩) :
    ∃ rest, Roll.parse text = .ok ⟨roll, rest⟩ := by
  cases hroll : Roll.parse text with
  | error error =>
    rw [Calculation.parse_of_error hroll] at h
    cases h
  | ok reading =>
    rw [Calculation.parse_of_roll hroll] at h
    cases htail : readTail reading.remainder with
    | error stop => simp [htail, Except.mapError, Except.map] at h
    | ok tail =>
      rw [htail] at h
      cases h
      exact ⟨reading.remainder, rfl⟩

/-- A calculation is refused with the fault of a roll or for want of a number. -/
theorem Calculation.fault_of_parse {error : ParseError} (h : Calculation.parse text = .error error) :
    error.fault.IsRollFault ∨ ∃ operation, error.fault = .missingScalar operation := by
  cases hroll : Roll.parse text with
  | error first =>
    rw [Calculation.parse_of_error hroll] at h
    cases h
    exact Or.inl (Roll.isRollFault_of_parse hroll)
  | ok reading =>
    rw [Calculation.parse_of_roll hroll] at h
    cases htail : readTail reading.remainder with
    | ok tail => simp [htail, Except.mapError, Except.map] at h
    | error stop =>
      rw [htail] at h
      cases h
      exact Or.inr (stopsOnly_readTail _ stop htail)

/-- No calculation is refused with the fault of an operator. -/
theorem Calculation.not_isOperatorFault_of_parse {error : ParseError}
    (h : Calculation.parse text = .error error) : ¬ error.fault.IsOperatorFault := by
  rcases Calculation.fault_of_parse h with hroll | ⟨operation, hscalar⟩
  · exact hroll.not_isOperatorFault
  · rw [hscalar]
    exact not_false

/-- Behind the text of a roll stand blanks, an operator and the rest, so this is where the operator
ends. -/
theorem exists_operator_position {operation : Operation} {more : Text}
    (h : Roll.parse text = .ok ⟨roll, rest⟩)
    (hstart : Text.skipBlanks rest = operation.symbol :: more) :
    ∃ consumed blanks, text = consumed ++ rest ∧ rest = blanks ++ operation.symbol :: more ∧
      (∀ c ∈ blanks, Text.isBlank c = true) ∧
      text.length - more.length = consumed.length + blanks.length + 1 := by
  obtain ⟨spelling, hdivides, -⟩ := exists_divides_of_parse h
  obtain ⟨blanks, hrest, hblanks⟩ := Text.exists_blanks_of_skipBlanks hstart
  refine ⟨spelling.text, blanks, hdivides.text_eq, hrest, hblanks, ?_⟩
  have htext := congrArg List.length hdivides.text_eq
  have hlength := congrArg List.length hrest
  simp only [List.length_append, List.length_cons] at htext hlength
  omega

/-- What is left behind an operator and its number is less than what stood in front of them. -/
theorem proper_suffix_of_readScalar {c : Char} {more : Text} {scalar : Reading Float}
    (hstart : Text.skipBlanks rest = c :: more) (h : readScalar? more = some scalar) :
    scalar.remainder <:+ rest ∧ scalar.remainder ≠ rest := by
  have hmore : c :: more <:+ rest := hstart ▸ List.dropWhile_suffix _
  have hremainder := suffix_of_readScalar h
  refine ⟨(hremainder.trans (List.suffix_cons c more)).trans hmore, fun heq => ?_⟩
  have hshort := hremainder.length_le
  have hlong := hmore.length_le
  rw [heq] at hshort
  rw [List.length_cons] at hlong
  omega

/-- The calculation is the roll alone exactly if no operator follows. -/
theorem Calculation.parse_eq_alone_iff (h : Roll.parse text = .ok ⟨roll, rest⟩) :
    Calculation.parse text = .ok ⟨⟨roll, none⟩, rest⟩ ↔ rest.LacksOperator := by
  refine ⟨fun halone => ?_, Calculation.parse_of_lacksOperator h⟩
  rcases rest.lacksOperator_or_exists with hlacks | ⟨operation, more, hstart⟩
  · exact hlacks
  · rw [Calculation.parse_of_operator h hstart] at halone
    split at halone <;> cases halone

/-- Reading a calculation agrees with reading a roll. It fails with the same error where that fails.
Otherwise it yields the same roll: alone and with the same remainder exactly if no operator stands
behind the blanks of the remainder, or with an operation and a number and less of the remainder, unless
the number is missing, which is an error right behind the operator. Reading the operator itself never
fails. -/
theorem Calculation.parse_agrees_with_roll (text : Text) :
    (∀ error, Roll.parse text = .error error → Calculation.parse text = .error error) ∧
    (∀ roll rest, Roll.parse text = .ok ⟨roll, rest⟩ →
      (Calculation.parse text = .ok ⟨⟨roll, none⟩, rest⟩ ∨
        (∃ tail more, Calculation.parse text = .ok ⟨⟨roll, some tail⟩, more⟩ ∧
          more <:+ rest ∧ more ≠ rest) ∨
        ∃ consumed blanks operation more, text = consumed ++ rest ∧
          rest = blanks ++ Operation.symbol operation :: more ∧
          (∀ c ∈ blanks, Text.isBlank c = true) ∧
          Calculation.parse text =
            .error ⟨.missingScalar operation, text, consumed.length + blanks.length + 1⟩) ∧
      (Calculation.parse text = .ok ⟨⟨roll, none⟩, rest⟩ ↔ rest.LacksOperator)) ∧
    (∀ error, Calculation.parse text = .error error →
      error.fault ≠ .missingOperator ∧ ∀ symbol, error.fault ≠ .unknownOperator symbol) := by
  refine ⟨fun error => Calculation.parse_of_error, fun roll rest h => ⟨?_, ?_⟩, fun error h => ?_⟩
  · rcases rest.lacksOperator_or_exists with hlacks | ⟨operation, more, hstart⟩
    · exact Or.inl (Calculation.parse_of_lacksOperator h hlacks)
    · have hparse := Calculation.parse_of_operator h hstart
      cases hscalar : readScalar? more with
      | none =>
        obtain ⟨consumed, blanks, htext, hrest, hblanks, hposition⟩ := exists_operator_position h hstart
        rw [hscalar, hposition] at hparse
        exact Or.inr (Or.inr ⟨consumed, blanks, operation, more, htext, hrest, hblanks, hparse⟩)
      | some scalar =>
        rw [hscalar] at hparse
        exact Or.inr (Or.inl ⟨_, _, hparse, proper_suffix_of_readScalar hstart hscalar⟩)
  · exact Calculation.parse_eq_alone_iff h
  · have hfault := Calculation.not_isOperatorFault_of_parse h
    refine ⟨fun hmissing => hfault ?_, fun symbol hunknown => hfault ?_⟩
    · rw [hmissing]
      exact trivial
    · rw [hunknown]
      exact trivial

/-- Blanks in front of a stray letter stay in the remainder, an operator without a number is an error
behind it, and a letter with a number in front of an operator is the error of the roll. -/
theorem Calculation.parse_agrees_with_roll_letters :
    Calculation.parse "2d6 x".toList = .ok ⟨⟨⟨⟨2, 6⟩, []⟩, none⟩, [' ', 'x']⟩ ∧
    Calculation.parse "2d6 -x".toList ≠ .ok ⟨⟨⟨⟨2, 6⟩, []⟩, none⟩, [' ', '-', 'x']⟩ ∧
    Calculation.parse "2d6 x3 + 1".toList = .error ⟨.unknownModifier 'x', "2d6 x3 + 1".toList, 4⟩ := by
  obtain ⟨-, hplain, -⟩ := Calculation.parse_agrees_with_roll "2d6 x".toList
  obtain ⟨-, hoperator, -⟩ := Calculation.parse_agrees_with_roll "2d6 -x".toList
  obtain ⟨hfails, -, -⟩ := Calculation.parse_agrees_with_roll "2d6 x3 + 1".toList
  refine ⟨?_, ?_, hfails _ (by decide +kernel)⟩
  · refine (hplain ⟨⟨2, 6⟩, []⟩ [' ', 'x'] (by decide +kernel)).2.mpr fun c hc => ?_
    obtain rfl : 'x' = c := Option.some.inj hc
    decide
  · intro halone
    have hminus := (hoperator ⟨⟨2, 6⟩, []⟩ [' ', '-', 'x'] (by decide +kernel)).2.mp halone '-' rfl
    exact hminus (by decide)

end Tabletop
