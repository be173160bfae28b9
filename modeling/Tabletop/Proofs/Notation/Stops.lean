import Tabletop.Proofs.Notation.Tail

/-!
# Where reading stops

Reading stops where the text can no longer be completed. What stands in front of that place can be
completed: to a written number by one digit, to written dice by a separator and digits, to a written
modifier by a letter and a digit. Each part of a roll is completed together with what was read in front
of it, so the places of all errors are places up to which the text can still become a roll.
-/

namespace Tabletop

/-- The text in front of the rest can be completed to something that is written. -/
def CanComplete {α : Type} (write : α → Text) (text rest : Text) : Prop :=
  ∃ part more, text = part ++ rest ∧ ∃ value, part ++ more = write value

/-- What can be completed to a part of something larger can be completed to the whole, together with
what stands in front of it. -/
theorem CanComplete.extend {α β : Type} {write : α → Text} {larger : β → Text} {text whole rest : Text}
    (h : CanComplete write text rest) (before : Text) (hwhole : whole = before ++ text)
    (hlarger : ∀ value, ∃ wider behind, larger wider = before ++ (write value ++ behind)) :
    CanComplete larger whole rest := by
  obtain ⟨part, more, rfl, value, hvalue⟩ := h
  obtain ⟨wider, behind, hwider⟩ := hlarger value
  refine ⟨before ++ part, more ++ behind, by rw [hwhole, List.append_assoc], wider, ?_⟩
  rw [hwider, ← hvalue]
  simp only [List.append_assoc]

/-! ## Numbers -/

/-- Blanks and the digit one write a number. -/
def NumberSpelling.one (blanks : Text) (h : ∀ c ∈ blanks, Text.isBlank c = true) : NumberSpelling where
  blanks := blanks
  digits := ['1']
  isBlank_of_mem := h
  isDigit_of_mem := List.forall_mem_singleton.mpr rfl
  digits_ne_nil := List.cons_ne_nil _ _
  value_le := by decide +kernel

/-- The digit one alone. -/
def NumberSpelling.plain : NumberSpelling := .one [] (List.forall_mem_nil _)

/-- A number stops in front of its blanks or behind them, where a digit could follow. -/
theorem canComplete_of_readNumber {text : Text} {stop : Stop} (h : readNumber text = .error stop) :
    CanComplete NumberSpelling.text text stop.rest := by
  simp only [readNumber] at h
  split at h
  · cases h
    exact ⟨[], ['1'], rfl, .plain, rfl⟩
  · split at h
    · cases h
      have hblanks := Text.mem_takeWhile Text.isBlank text
      exact ⟨_, ['1'], (Text.takeWhile_append_skipBlanks text).symm, .one _ hblanks, rfl⟩
    · cases h

/-! ## Dice -/

/-- A count is completed to dice with one side. -/
theorem exists_dice_of_count (count : NumberSpelling) :
    ∃ spelling : RollSpelling, spelling.text = count.text ++ ['d', '1'] :=
  ⟨⟨count, [], 'd', .plain, [], List.forall_mem_nil _, Or.inl rfl⟩, rfl⟩

/-- A separator that is missing is missed in front of the blanks. -/
theorem rest_of_readSeparator {text : Text} {stop : Stop} (h : readSeparator text = .error stop) :
    stop.rest = text := by
  rw [readSeparator] at h
  split at h
  · cases h
  · cases h
  · cases h
    rfl

/-- Dice stop where a count, a separator or a number of sides could follow. -/
theorem canComplete_of_readDice {text : Text} {stop : Stop} (h : readDice text = .error stop) :
    CanComplete RollSpelling.text text stop.rest := by
  rw [readDice] at h
  rcases error_or_error_of_bind h with hcount | ⟨count, hcount, hdice⟩
  · refine (canComplete_of_readNumber hcount).extend [] rfl fun count => ?_
    obtain ⟨spelling, hspelling⟩ := exists_dice_of_count count
    exact ⟨spelling, ['d', '1'], hspelling⟩
  · obtain ⟨written, htext, -⟩ := exists_spelling_of_readNumber hcount
    rcases error_or_error_of_bind hdice with hseparator | ⟨rest, hseparator, hrest⟩
    · obtain ⟨spelling, hspelling⟩ := exists_dice_of_count written
      rw [rest_of_readSeparator hseparator]
      exact ⟨written.text, ['d', '1'], htext, spelling, hspelling.symm⟩
    · obtain ⟨blanks, separator, hmore, hblanks, hletter⟩ := exists_separator_of_readSeparator hseparator
      rcases error_or_error_of_bind hrest with hsides | ⟨sides, -, hdone⟩
      · refine (canComplete_of_readNumber hsides).extend (written.text ++ (blanks ++ [separator]))
          (by simp [htext, hmore]) fun sides => ?_
        exact ⟨⟨written, blanks, separator, sides, [], hblanks, hletter⟩, [], by simp [RollSpelling.text]⟩
      · cases hdone

/-! ## Modifiers -/

/-- A modifier stops where a letter of a kind or its number could follow. -/
theorem canComplete_of_readModifier {text : Text} {stop : Stop}
    (h : readModifier text = .error stop) : CanComplete ModifierSpelling.text text stop.rest := by
  cases hstart : Text.skipBlanks text with
  | nil => simp [readModifier, hstart] at h
  | cons letter more =>
    obtain ⟨blanks, rfl, hblanks⟩ := Text.exists_blanks_of_skipBlanks hstart
    cases hkind : ModifierKind.ofLetter? letter with
    | some kind =>
      have hspells := ModifierKind.ofLetter?_eq_some_iff.mp hkind
      rw [readModifier_of_spells hstart hspells] at h
      cases hnumber : readNumber more with
      | ok number => simp [hnumber, Except.map] at h
      | error first =>
        rw [hnumber] at h
        cases h
        refine (canComplete_of_readNumber hnumber).extend (blanks ++ [letter]) (by simp) fun number => ?_
        exact ⟨⟨blanks, letter, kind, number, hblanks, hspells⟩, [], by simp [ModifierSpelling.text]⟩
    | none =>
      rw [readModifier_of_not_spells hstart (ModifierKind.ofLetter?_eq_none_iff.mp hkind)] at h
      split at h
      · cases h
        exact ⟨blanks, ['k', '1'], rfl, ⟨blanks, 'k', .keep, .plain, hblanks, Or.inl rfl⟩, rfl⟩
      · cases h

/-- Modifiers stop where the first of them that is not read stops. -/
theorem canComplete_of_readModifiers {text : Text} {stop : Stop}
    (h : readModifiers text = .error stop) :
    CanComplete (List.flatMap ModifierSpelling.text) text stop.rest := by
  -- Modifiers that were read in front of the failing one are part of every completion.
  fun_induction readModifiers text with
  | case1 text first hmodifier =>
    cases h
    exact (canComplete_of_readModifier hmodifier).extend [] rfl fun modifier => ⟨[modifier], [], by simp⟩
  | case2 text hmodifier => cases h
  | case3 text modifier hmodifier hlt first hfirst ih =>
    cases h
    obtain ⟨written, htext, -⟩ := exists_spelling_of_readModifier hmodifier
    exact (ih hfirst).extend written.text htext fun others => ⟨written :: others, [], by simp⟩
  | case4 text modifier hmodifier hlt modifiers hmodifiers ih => cases h

/-! ## Rolls -/

/-- A roll stops where its dice or its modifiers stop. -/
theorem canComplete_of_readRoll {text : Text} {stop : Stop} (h : readRoll text = .error stop) :
    CanComplete RollSpelling.text text stop.rest := by
  rw [readRoll] at h
  rcases error_or_error_of_bind h with hdice | ⟨dice, hdice, hroll⟩
  · exact canComplete_of_readDice hdice
  · rcases error_or_error_of_bind hroll with hmodifiers | ⟨modifiers, -, hdone⟩
    · obtain ⟨spelling, htext, -⟩ := exists_spelling_of_readDice hdice
      refine (canComplete_of_readModifiers hmodifiers).extend
        (spelling.count.text ++ (spelling.blanks ++ spelling.separator :: spelling.sides.text))
        (by simp [htext]) fun modifiers => ?_
      exact ⟨{ spelling with modifiers }, [], by simp [RollSpelling.text]⟩
    · cases hdone

/-! ## Places of errors -/

/-- An error names the whole text and a place in it, and the text up to that place can be continued to
one that is accepted. -/
structure ParseError.PointsBehind (error : ParseError) (text : Text) (accepted : Text → Prop) : Prop where
  text_eq : error.text = text
  position_le : error.position ≤ text.length
  viable : ∃ more, accepted (text.take error.position ++ more)

/-- The place of an error divides its text into what was read and the rest. -/
theorem Stop.position_locate {text part rest : Text} (fault : Fault) (htext : text = part ++ rest) :
    (Stop.locate text ⟨fault, rest⟩).position = part.length := by
  simp only [Stop.locate, htext, List.length_append, Nat.add_sub_cancel]

namespace ParseError

variable {error : ParseError} {text : Text} {accepted accepted' : Text → Prop}

/-- An error points behind a part that can be continued. -/
theorem pointsBehind_of_append {fault : Fault} {part more rest : Text} (htext : text = part ++ rest)
    (haccepted : accepted (part ++ more)) :
    (Stop.locate text ⟨fault, rest⟩).PointsBehind text accepted := by
  have hposition := Stop.position_locate fault htext
  constructor
  · rfl
  · rw [hposition, htext, List.length_append]
    omega
  · exact ⟨more, by rw [hposition, htext, List.take_left]; exact haccepted⟩

/-- What is accepted by one reading may be accepted by another. -/
theorem PointsBehind.mono (h : error.PointsBehind text accepted)
    (haccepted : ∀ other, accepted other → accepted' other) : error.PointsBehind text accepted' :=
  ⟨h.text_eq, h.position_le, h.viable.imp fun _ => haccepted _⟩

end ParseError

/-- The error of a roll points behind a part that can be continued to a roll. -/
theorem Roll.pointsBehind_of_parse {text : Text} {error : ParseError}
    (h : Roll.parse text = .error error) :
    error.PointsBehind text fun other => ∃ roll, Roll.parse other = .ok ⟨roll, []⟩ := by
  rcases Roll.eq_error_of_parse h with rfl | ⟨stop, hstop, rfl⟩
  · let spelling : RollSpelling := ⟨.plain, [], 'd', .plain, [], List.forall_mem_nil _, Or.inl rfl⟩
    exact ⟨rfl, Nat.zero_le _, spelling.text, spelling.roll, spelling.parse_text⟩
  · obtain ⟨part, more, htext, spelling, hspelling⟩ := canComplete_of_readRoll hstop
    exact ParseError.pointsBehind_of_append htext ⟨spelling.roll, hspelling ▸ spelling.parse_text⟩

/-- A calculation is refused with the error of its roll or right behind an operator. -/
theorem Calculation.eq_error_of_parse {text : Text} {error : ParseError}
    (h : Calculation.parse text = .error error) :
    Roll.parse text = .error error ∨ ∃ (spelling : RollSpelling) (blanks : Text) (operation : Operation)
      (more : Text), text = spelling.text ++ (blanks ++ operation.symbol :: more) ∧
        (∀ c ∈ blanks, Text.isBlank c = true) ∧
        error = Stop.locate text ⟨.missingScalar operation, more⟩ := by
  cases hroll : Roll.parse text with
  | error first =>
    rw [Calculation.parse_of_error hroll] at h
    cases h
    exact Or.inl rfl
  | ok reading =>
    obtain ⟨spelling, hdivides, -⟩ := exists_divides_of_parse hroll
    rcases reading.remainder.lacksOperator_or_exists with hlacks | ⟨operation, more, hstart⟩
    · rw [Calculation.parse_of_lacksOperator hroll hlacks] at h
      cases h
    · rw [Calculation.parse_of_operator hroll hstart] at h
      obtain ⟨blanks, hrest, hblanks⟩ := Text.exists_blanks_of_skipBlanks hstart
      cases hscalar : readScalar? more with
      | some scalar =>
        rw [hscalar] at h
        cases h
      | none =>
        rw [hscalar] at h
        cases h
        exact Or.inr ⟨spelling, blanks, operation, more, hrest ▸ hdivides.text_eq, hblanks, rfl⟩

/-- The error of a calculation points behind a part that can be continued to a calculation. -/
theorem Calculation.pointsBehind_of_parse {text : Text} {error : ParseError}
    (h : Calculation.parse text = .error error) :
    error.PointsBehind text fun other => ∃ calculation, Calculation.parse other = .ok ⟨calculation, []⟩ := by
  rcases Calculation.eq_error_of_parse h with
    hroll | ⟨spelling, blanks, operation, more, htext, hblanks, rfl⟩
  · refine (Roll.pointsBehind_of_parse hroll).mono fun other hother => ?_
    obtain ⟨roll, hroll⟩ := hother
    exact ⟨⟨roll, none⟩, Calculation.parse_of_lacksOperator hroll (Text.lacksOperator_of_isWhiteSpace rfl)⟩
  · let one : ScalarSpelling :=
      ⟨[], ['1'], [], List.forall_mem_nil _, List.forall_mem_singleton.mpr rfl, List.cons_ne_nil _ _,
        List.forall_mem_nil _⟩
    have hparse := Calculation.parse_append spelling hblanks operation one (endsScalar_nil [])
    have hread : text = spelling.text ++ (blanks ++ [operation.symbol]) ++ more := by simp [htext]
    have hwritten : spelling.text ++ (blanks ++ operation.symbol :: (one.text ++ [])) =
        spelling.text ++ (blanks ++ [operation.symbol]) ++ one.text := by simp
    rw [hwritten] at hparse
    exact ParseError.pointsBehind_of_append hread ⟨_, hparse⟩

/-! ## Reading from end to end -/

/-- The error of a text that was to be read from end to end points behind a part that can be continued.
If the text was read, though not to its end, the part needs no continuation, and what was left is the
rest of the text. -/
theorem pointsBehind_of_bind_whole {α : Type} {parse : Text → Except ParseError (Reading α)}
    {text : Text} {fault : Fault} {error : ParseError}
    (hparse : ∀ error, parse text = .error error →
      error.PointsBehind text fun other => ∃ value, parse other = .ok ⟨value, []⟩)
    (hread : ∀ value rest, parse text = .ok ⟨value, rest⟩ → ∃ consumed, text = consumed ++ rest ∧
      (parse consumed >>= fun reading => reading.whole consumed fault) = .ok value)
    (h : (parse text >>= fun reading => reading.whole text fault) = .error error) :
    (error.PointsBehind text fun other =>
      ∃ value, (parse other >>= fun reading => reading.whole other fault) = .ok value) ∧
    (parse text = .error error ∨ ∃ value,
      (parse (text.take error.position) >>= fun reading =>
        reading.whole (text.take error.position) fault) = .ok value ∧
      parse text = .ok ⟨value, text.drop error.position⟩) := by
  rcases eq_error_of_bind_whole h with hfirst | ⟨value, rest, hvalue, rfl⟩
  · refine ⟨(hparse error hfirst).mono fun other hother => ?_, Or.inl hfirst⟩
    obtain ⟨value, hvalue⟩ := hother
    exact ⟨value, bind_whole_eq_ok_iff.mpr ⟨[], hvalue, rfl⟩⟩
  · obtain ⟨consumed, htext, hconsumed⟩ := hread value rest hvalue
    have hposition := Stop.position_locate fault htext
    constructor
    · apply ParseError.pointsBehind_of_append htext
      exact ⟨value, (List.append_nil consumed).symm ▸ hconsumed⟩
    · refine Or.inr ⟨value, ?_, ?_⟩
      · rw [hposition, htext, List.take_left]
        exact hconsumed
      · rw [hposition, hvalue, htext, List.drop_left]

/-- The error of a text that is no roll from end to end points behind a part that can be continued to
one, or in front of what is left behind a roll. -/
theorem Roll.pointsBehind_of_parseWhole {text : Text} {error : ParseError}
    (h : Roll.parseWhole text = .error error) :
    (error.PointsBehind text fun other => ∃ roll, Roll.parseWhole other = .ok roll) ∧
    (Roll.parse text = .error error ∨ ∃ roll, Roll.parseWhole (text.take error.position) = .ok roll ∧
      Roll.parse text = .ok ⟨roll, text.drop error.position⟩) :=
  pointsBehind_of_bind_whole (fun _ => Roll.pointsBehind_of_parse) (fun _ _ => exists_consumed_of_parse) h

/-- The error of a text that is no calculation from end to end points behind a part that can be continued
to one, or in front of what is left behind a calculation. -/
theorem Calculation.pointsBehind_of_parseWhole {text : Text} {error : ParseError}
    (h : Calculation.parseWhole text = .error error) :
    (error.PointsBehind text fun other => ∃ calculation, Calculation.parseWhole other = .ok calculation) ∧
    (Calculation.parse text = .error error ∨ ∃ calculation,
      Calculation.parseWhole (text.take error.position) = .ok calculation ∧
        Calculation.parse text = .ok ⟨calculation, text.drop error.position⟩) :=
  pointsBehind_of_bind_whole (fun _ => Calculation.pointsBehind_of_parse)
    (fun _ _ => Calculation.exists_consumed_of_parse) h

end Tabletop
