import Tabletop.Proofs.Notation.Calculation
import Tabletop.Proofs.Notation.RoundTrip

/-!
# Reading from end to end

A text is a roll or a calculation from end to end if reading one leaves nothing but white space. The
part of a text that was read always is: cutting off what was left changes neither how far reading goes
nor what it yields.
-/

namespace Tabletop

/-! ## Nothing but white space left -/

/-- White space holds no operator. -/
theorem Text.lacksOperator_of_isWhiteSpace {text : Text} (h : text.all isWhiteSpace = true) :
    text.LacksOperator := by
  intro c hc hoperator
  have hmem : c ∈ text := List.dropWhile_subset isBlank (List.mem_of_mem_head? hc)
  have hspace : isWhiteSpace c = true := List.all_eq_true.mp h c hmem
  simp only [List.mem_cons, List.not_mem_nil, or_false] at hoperator
  rcases hoperator with rfl | rfl | rfl | rfl <;> revert hspace <;> decide

section Whole

variable {α : Type} {parsed : Except ParseError (Reading α)} {text : Text} {fault : Fault}

/-- A reading is whole exactly if it leaves nothing but white space. -/
theorem Reading.whole_eq_ok_iff {reading : Reading α} {value : α} :
    reading.whole text fault = .ok value ↔
      reading.value = value ∧ reading.remainder.all Text.isWhiteSpace = true := by
  rw [Reading.whole]
  split
  · rename_i hblank
    simp only [Except.ok.injEq, hblank, and_true]
  · rename_i hblank
    simp only [reduceCtorEq, hblank, Bool.false_eq_true, and_false]

/-- Reading from end to end yields what was read in front of nothing but white space. -/
theorem bind_whole_eq_ok_iff {value : α} :
    (parsed >>= fun reading => reading.whole text fault) = .ok value ↔
      ∃ rest, parsed = .ok ⟨value, rest⟩ ∧ rest.all Text.isWhiteSpace = true := by
  cases parsed with
  | error error => simp [bind, Except.bind]
  | ok reading =>
    simp only [bind, Except.bind, Reading.whole_eq_ok_iff, Except.ok.injEq]
    constructor
    · intro h
      exact ⟨reading.remainder, by rw [← h.1], h.2⟩
    · rintro ⟨rest, rfl, hblank⟩
      exact ⟨rfl, hblank⟩

/-- Reading from end to end fails where reading fails or in front of what it leaves. -/
theorem eq_error_of_bind_whole {error : ParseError}
    (h : (parsed >>= fun reading => reading.whole text fault) = .error error) :
    parsed = .error error ∨ ∃ value rest, parsed = .ok ⟨value, rest⟩ ∧
      error = Stop.locate text ⟨fault, rest⟩ := by
  rcases error_or_error_of_bind h with hparsed | ⟨reading, hreading, hwhole⟩
  · exact Or.inl hparsed
  · rw [Reading.whole] at hwhole
    split at hwhole
    · cases hwhole
    · cases hwhole
      exact Or.inr ⟨reading.value, reading.remainder, hreading, rfl⟩

end Whole

/-- A text is a roll from end to end exactly if reading a roll leaves nothing but white space. -/
theorem Roll.parseWhole_eq_ok_iff {text : Text} {roll : Roll} :
    Roll.parseWhole text = .ok roll ↔
      ∃ rest, Roll.parse text = .ok ⟨roll, rest⟩ ∧ rest.all Text.isWhiteSpace = true :=
  bind_whole_eq_ok_iff

/-- A text is a calculation from end to end exactly if reading one leaves nothing but white space. -/
theorem Calculation.parseWhole_eq_ok_iff {text : Text} {calculation : Calculation} :
    Calculation.parseWhole text = .ok calculation ↔
      ∃ rest, Calculation.parse text = .ok ⟨calculation, rest⟩ ∧
        rest.all Text.isWhiteSpace = true :=
  bind_whole_eq_ok_iff

/-- A text is a calculation from end to end if reading one leaves nothing but white space. -/
theorem Calculation.parseWhole_of_parse {text rest : Text} {calculation : Calculation}
    (h : Calculation.parse text = .ok ⟨calculation, rest⟩)
    (hblank : rest.all Text.isWhiteSpace = true) :
    Calculation.parseWhole text = .ok calculation :=
  Calculation.parseWhole_eq_ok_iff.mpr ⟨rest, h, hblank⟩

/-- A text that is a roll from end to end is the calculation without an operator. -/
theorem Calculation.parseWhole_of_roll {text : Text} {roll : Roll}
    (h : Roll.parseWhole text = .ok roll) : Calculation.parseWhole text = .ok ⟨roll, none⟩ := by
  obtain ⟨rest, hparse, hblank⟩ := Roll.parseWhole_eq_ok_iff.mp h
  exact Calculation.parseWhole_of_parse
    (Calculation.parse_of_lacksOperator hparse (Text.lacksOperator_of_isWhiteSpace hblank)) hblank

/-! ## The part that was read -/

/-- A text that goes on with no digit, and with no letter behind its blanks, ends a roll. -/
theorem endsRoll_of_startsOutside {rest : Text} (hdigit : Text.StartsOutside Char.isDigit rest)
    (hletter : Text.StartsOutside Char.isAlpha (Text.skipBlanks rest)) : EndsRoll rest := by
  constructor
  · exact hdigit
  · intro kind c hc hspells
    exact absurd hspells.isAlpha (by rw [hletter c hc]; exact Bool.false_ne_true)
  · rw [isModifierAttempt_iff]
    rintro ⟨letter, more, hstart, halpha, -⟩
    rw [hstart] at hletter
    exact absurd halpha (by rw [hletter letter rfl]; exact Bool.false_ne_true)

/-- An operator is found behind its blanks. -/
theorem Operation.skipBlanks_append {blanks : Text} (h : ∀ c ∈ blanks, Text.isBlank c = true)
    (operation : Operation) (more : Text) :
    Text.skipBlanks (blanks ++ operation.symbol :: more) = operation.symbol :: more :=
  Text.dropWhile_run h (Text.startsOutside_cons (by cases operation <;> decide) more)

/-- An operator ends a roll, with the blanks in front of it. -/
theorem endsRoll_of_operator {blanks : Text} (h : ∀ c ∈ blanks, Text.isBlank c = true)
    (operation : Operation) (more : Text) : EndsRoll (blanks ++ operation.symbol :: more) := by
  apply endsRoll_of_startsOutside
  · apply Text.startsOutside_blanks_append h
    exact Text.startsOutside_cons (by cases operation <;> decide) more
  · rw [Operation.skipBlanks_append h]
    exact Text.startsOutside_cons (by cases operation <;> decide) more

/-- The part of a text that was read as a roll is a roll from end to end. -/
theorem exists_consumed_of_parse {text rest : Text} {roll : Roll}
    (h : Roll.parse text = .ok ⟨roll, rest⟩) :
    ∃ consumed, text = consumed ++ rest ∧ Roll.parseWhole consumed = .ok roll := by
  obtain ⟨spelling, hdivides, rfl⟩ := exists_divides_of_parse h
  exact ⟨spelling.text, hdivides.text_eq,
    Roll.parseWhole_eq_ok_iff.mpr ⟨[], spelling.parse_text, rfl⟩⟩

/-- An operator and a number behind a written roll are read with it, up to the last digit. -/
theorem Calculation.parse_append (spelling : RollSpelling) {blanks : Text}
    (hblanks : ∀ c ∈ blanks, Text.isBlank c = true) (operation : Operation) (scalar : ScalarSpelling)
    {rest : Text} (hrest : EndsScalar scalar.fraction rest) :
    Calculation.parse (spelling.text ++ (blanks ++ operation.symbol :: (scalar.text ++ rest))) =
      .ok ⟨⟨spelling.roll, some ⟨operation, scalar.value⟩⟩, rest⟩ := by
  have hdivides : Divides _ spelling _ :=
    ⟨rfl, endsRoll_of_operator hblanks operation (scalar.text ++ rest)⟩
  rw [Calculation.parse_of_operator (parse_of_divides hdivides)
    (Operation.skipBlanks_append hblanks operation _), readScalar_append scalar hrest]

end Tabletop
