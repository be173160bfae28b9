import Tabletop.Proofs.Notation.Whole
import Tabletop.Proofs.Number.Nearest
import Tabletop.Proofs.Number.Order

/-!
# Reading the operator and its number

A calculation with an operator as data: the text of a roll, blanks, the operator, and a decimal number.
Reading one succeeds exactly on the texts that begin like this, takes as much of them as belongs to the
number, and there is only one way to divide such a text. The number is converted to the double nearest
to the decimal number that is written.
-/

namespace Tabletop

/-! ## The number -/

/-- The decimal number that is written. -/
def ScalarSpelling.decimal (scalar : ScalarSpelling) : ℚ :=
  Decimal.value scalar.whole + Decimal.value scalar.fraction / 10 ^ scalar.fraction.length

/-- The digits on both sides of the point are those of one whole number. -/
theorem ScalarSpelling.decimal_eq (scalar : ScalarSpelling) :
    scalar.decimal =
      Decimal.value (scalar.whole ++ scalar.fraction) / 10 ^ scalar.fraction.length := by
  have hpos : (0 : ℚ) < 10 ^ scalar.fraction.length := by positivity
  rw [decimal, Decimal.value_append, eq_div_iff hpos.ne', add_mul, div_mul_cancel₀ _ hpos.ne']
  push_cast
  ring

/-- A written number is read as the double nearest to it. -/
theorem ScalarSpelling.isNearest_value (scalar : ScalarSpelling) :
    IsNearest scalar.value scalar.decimal := by
  rw [scalar.decimal_eq]
  exact isNearest_ofScientific _ _

/-- No other double is as near to a written number as the one it is read as. -/
theorem ScalarSpelling.isNearest_iff (scalar : ScalarSpelling) (x : Float) :
    IsNearest x scalar.decimal ↔ x = scalar.value := by
  constructor
  · exact fun h => h.unique scalar.isNearest_value
  · rintro rfl
    exact scalar.isNearest_value

/-! ## The calculation -/

/-- A calculation with an operator as it is written: the text of a roll, blanks, the operator, and a
decimal number behind blanks of its own. -/
@[ext]
structure CalculationSpelling where
  rollText : Text
  roll : Roll
  blanks : Text
  operation : Operation
  scalar : ScalarSpelling
  parse_rollText : Roll.parse rollText = .ok ⟨roll, []⟩
  isBlank_of_mem : ∀ c ∈ blanks, Text.isBlank c = true

/-- The characters of a written calculation. -/
def CalculationSpelling.text (spelling : CalculationSpelling) : Text :=
  spelling.rollText ++ (spelling.blanks ++ spelling.operation.symbol :: spelling.scalar.text)

/-- The calculation that is written. -/
def CalculationSpelling.calculation (spelling : CalculationSpelling) : Calculation :=
  ⟨spelling.roll, some ⟨spelling.operation, spelling.scalar.value⟩⟩

/-- A text consists of a written calculation and a rest that cannot belong to it. -/
structure DividesCalculation (text : Text) (spelling : CalculationSpelling) (rest : Text) : Prop where
  text_eq : text = spelling.text ++ rest
  endsScalar : EndsScalar spelling.scalar.fraction rest

section Divides

variable {text rest : Text} {spelling : CalculationSpelling}

/-- A text that is a roll from its first to its last character is a written roll. -/
theorem exists_rollSpelling_of_parse {roll : Roll} (h : Roll.parse text = .ok ⟨roll, []⟩) :
    ∃ spelling : RollSpelling, spelling.text = text ∧ spelling.roll = roll := by
  obtain ⟨spelling, hdivides, hroll⟩ := exists_divides_of_parse h
  exact ⟨spelling, (hdivides.text_eq.trans (List.append_nil _)).symm, hroll⟩

/-- The part in front of the operator is divided off as the roll. -/
theorem DividesCalculation.exists_divides (h : DividesCalculation text spelling rest) :
    ∃ roll : RollSpelling, roll.text = spelling.rollText ∧ roll.roll = spelling.roll ∧
      Divides text roll
        (spelling.blanks ++ spelling.operation.symbol :: (spelling.scalar.text ++ rest)) := by
  obtain ⟨roll, htext, hroll⟩ := exists_rollSpelling_of_parse spelling.parse_rollText
  refine ⟨roll, htext, hroll, ?_, endsRoll_of_operator spelling.isBlank_of_mem _ _⟩
  rw [h.text_eq, htext, CalculationSpelling.text]
  simp only [List.append_assoc, List.cons_append]

/-- A written calculation is read back, up to the last digit of its number. -/
theorem DividesCalculation.parse_eq (h : DividesCalculation text spelling rest) :
    Calculation.parse text = .ok ⟨spelling.calculation, rest⟩ := by
  obtain ⟨roll, -, hroll, hdivides⟩ := h.exists_divides
  rw [hdivides.text_eq, Calculation.parse_append roll spelling.isBlank_of_mem _ _ h.endsScalar, hroll]
  rfl

/-- Different operations have different characters. -/
theorem Operation.symbol_injective : Function.Injective Operation.symbol := by
  intro a b h
  have hsymbol := Operation.ofSymbol?_eq_some_iff.mpr h
  rw [Operation.ofSymbol?_eq_some_iff.mpr rfl] at hsymbol
  exact Option.some.inj hsymbol

/-- Blanks end where an operator stands. -/
theorem Operation.startsOutside_symbol (operation : Operation) (rest : Text) :
    Text.StartsOutside Text.isBlank (operation.symbol :: rest) :=
  Text.startsOutside_cons (by cases operation <;> decide) rest

/-- A text is divided in one way only. -/
theorem DividesCalculation.unique {spelling' : CalculationSpelling} {rest' : Text}
    (h : DividesCalculation text spelling rest) (h' : DividesCalculation text spelling' rest') :
    spelling = spelling' ∧ rest = rest' := by
  obtain ⟨roll, htext, hroll, hdivides⟩ := h.exists_divides
  obtain ⟨roll', htext', hroll', hdivides'⟩ := h'.exists_divides
  obtain ⟨rfl, htail⟩ := hdivides.unique hdivides'
  obtain ⟨hblanks, htail⟩ := Text.run_append_inj spelling.isBlank_of_mem spelling'.isBlank_of_mem
    (spelling.operation.startsOutside_symbol _) (spelling'.operation.startsOutside_symbol _) htail
  obtain ⟨hsymbol, htail⟩ := List.cons.inj htail
  obtain ⟨hscalar, hrest⟩ := ScalarSpelling.append_inj h.endsScalar h'.endsScalar htail
  exact ⟨CalculationSpelling.ext (htext.symm.trans htext') (hroll.symm.trans hroll') hblanks
    (Operation.symbol_injective hsymbol) hscalar, hrest⟩

/-- Whatever is read as a calculation with an operator is written in front of the remainder. -/
theorem exists_dividesCalculation_of_parse {roll : Roll} {tail : Tail}
    (h : Calculation.parse text = .ok ⟨⟨roll, some tail⟩, rest⟩) :
    ∃ spelling, DividesCalculation text spelling rest ∧ spelling.calculation = ⟨roll, some tail⟩ := by
  obtain ⟨behind, hparse⟩ := Calculation.exists_roll_of_parse h
  rcases behind.lacksOperator_or_exists with hlacks | ⟨operation, more, hstart⟩
  · rw [Calculation.parse_of_lacksOperator hparse hlacks] at h
    cases h
  · rw [Calculation.parse_of_operator hparse hstart] at h
    cases hread : readScalar? more with
    | none =>
      rw [hread] at h
      cases h
    | some reading =>
      rw [hread] at h
      cases h
      obtain ⟨written, hdivides, hroll⟩ := exists_divides_of_parse hparse
      obtain ⟨blanks, hbehind, hblanks⟩ := Text.exists_blanks_of_skipBlanks hstart
      obtain ⟨scalar, hmore, hvalue, hends⟩ := exists_spelling_of_readScalar hread
      have hwritten : Roll.parse written.text = .ok ⟨roll, []⟩ := by
        rw [written.parse_text, hroll]
      refine ⟨⟨written.text, roll, blanks, operation, scalar, hwritten, hblanks⟩, ⟨?_, hends⟩, ?_⟩
      · rw [hdivides.text_eq, hbehind, hmore, CalculationSpelling.text]
        simp only [List.append_assoc, List.cons_append]
      · rw [CalculationSpelling.calculation, hvalue]

/-- The part of a text that was read as a calculation is a calculation from end to end. -/
theorem Calculation.exists_consumed_of_parse {calculation : Calculation}
    (h : Calculation.parse text = .ok ⟨calculation, rest⟩) :
    ∃ consumed, text = consumed ++ rest ∧ Calculation.parseWhole consumed = .ok calculation := by
  obtain ⟨roll, tail⟩ := calculation
  cases tail with
  | none =>
    obtain ⟨behind, hroll⟩ := Calculation.exists_roll_of_parse h
    rcases behind.lacksOperator_or_exists with hlacks | ⟨operation, more, hstart⟩
    · rw [Calculation.parse_of_lacksOperator hroll hlacks] at h
      cases h
      obtain ⟨consumed, htext, hwhole⟩ := Tabletop.exists_consumed_of_parse hroll
      exact ⟨consumed, htext, Calculation.parseWhole_of_roll hwhole⟩
    · rw [Calculation.parse_of_operator hroll hstart] at h
      split at h <;> cases h
  | some tail =>
    obtain ⟨spelling, hdivides, hcalculation⟩ := exists_dividesCalculation_of_parse h
    have halone : DividesCalculation spelling.text spelling [] :=
      ⟨(List.append_nil _).symm, endsScalar_nil _⟩
    exact ⟨spelling.text, hdivides.text_eq,
      Calculation.parseWhole_of_parse (hcalculation ▸ halone.parse_eq) rfl⟩

end Divides

/-- Reading a calculation accepts exactly the texts that begin with a written one. The text of a roll,
blanks, an operator and a decimal number are read as the roll, the operation and the double nearest to
the decimal number, and the rest is left, whatever it is, if it could not lengthen the number.
Conversely, whenever a calculation with an operator is read, the text is divided like this, with what
was left as the rest, and in one way only. -/
theorem Calculation.parse_accepts_tail :
    (∀ (spelling : CalculationSpelling) (text rest : Text), DividesCalculation text spelling rest →
      Calculation.parse text = .ok ⟨spelling.calculation, rest⟩ ∧
        ∀ x, IsNearest x spelling.scalar.decimal ↔ x = spelling.scalar.value) ∧
    ∀ (text rest : Text) (roll : Roll) (tail : Tail),
      Calculation.parse text = .ok ⟨⟨roll, some tail⟩, rest⟩ →
        ∃ spelling, DividesCalculation text spelling rest ∧
          spelling.calculation = ⟨roll, some tail⟩ ∧
          ∀ spelling' rest', DividesCalculation text spelling' rest' →
            spelling' = spelling ∧ rest' = rest := by
  refine ⟨fun spelling text rest h => ⟨h.parse_eq, spelling.scalar.isNearest_iff⟩, ?_⟩
  intro text rest roll tail h
  obtain ⟨spelling, hdivides, hcalculation⟩ := exists_dividesCalculation_of_parse h
  exact ⟨spelling, hdivides, hcalculation, fun _ _ hdivides' => hdivides'.unique hdivides⟩

/-- A second point ends a number with a fraction, and a point without a digit behind it is left alone. -/
theorem Calculation.parse_accepts_tail_points :
    (Calculation.parse "2d6 k1 + 4.1.6".toList =
        .ok ⟨⟨⟨⟨2, 6⟩, [⟨.keep, 1⟩]⟩, some ⟨.add, 4.1⟩⟩, ".6".toList⟩ ∧
      ∀ x, IsNearest x (41 / 10) ↔ x = 4.1) ∧
    ∃ spelling, DividesCalculation "1d6*4.".toList spelling ['.'] ∧
      spelling.calculation = ⟨⟨⟨1, 6⟩, []⟩, some ⟨.multiply, 4⟩⟩ ∧
      ∀ spelling' rest', DividesCalculation "1d6*4.".toList spelling' rest' →
        spelling' = spelling ∧ rest' = ['.'] := by
  obtain ⟨hreads, hdivides⟩ := Calculation.parse_accepts_tail
  constructor
  · let scalar : ScalarSpelling := ⟨[' '], ['4'], ['1'], by simp [Text.isBlank], by simp, by simp, by simp⟩
    let spelling : CalculationSpelling :=
      ⟨"2d6 k1".toList, ⟨⟨2, 6⟩, [⟨.keep, 1⟩]⟩, [' '], .add, scalar, by decide +kernel, by simp [Text.isBlank]⟩
    have hends : EndsScalar ['1'] ".6".toList :=
      ⟨Text.startsOutside_cons (by decide) _, fun h => absurd h (List.cons_ne_nil _ _)⟩
    obtain ⟨hparse, hnearest⟩ := hreads spelling "2d6 k1 + 4.1.6".toList _ ⟨rfl, hends⟩
    have hdecimal : scalar.decimal = 41 / 10 := by
      rw [scalar.decimal_eq, show Decimal.value (scalar.whole ++ scalar.fraction) = 41 from rfl,
        show scalar.fraction.length = 1 from rfl]
      norm_num
    exact ⟨hparse, hdecimal ▸ hnearest⟩
  · let scalar : ScalarSpelling := ⟨[], ['4'], [], by simp, by simp, by simp, by simp⟩
    let spelling : CalculationSpelling :=
      ⟨"1d6".toList, ⟨⟨1, 6⟩, []⟩, [], .multiply, scalar, by decide +kernel, by simp⟩
    have hends : EndsScalar [] ['.'] :=
      ⟨Text.startsOutside_cons (by decide) _, fun _ _ _ h => absurd (List.cons.inj h).2 (by simp)⟩
    have hvalue : scalar.value = 4 := by decide +kernel
    obtain ⟨hparse, -⟩ := hreads spelling "1d6*4.".toList _ ⟨rfl, hends⟩
    rw [CalculationSpelling.calculation, show spelling.scalar.value = 4 from hvalue] at hparse
    exact hdivides _ _ _ _ hparse

end Tabletop
