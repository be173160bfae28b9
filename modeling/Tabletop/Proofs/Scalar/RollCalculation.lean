import Tabletop.Rolling.Summary
import Tabletop.Scalar.RollCalculation
import Tabletop.Proofs.Notation.Whole
import Tabletop.Proofs.Rolling.Completion

/-!
# Rolling a text and calculating with a text

Calculating with a text is rolling the part of it that is read as a roll and then going on with the
outcome. Going on needs no draws, so both runs use the supply alike and fail alike until the outcome is
there. A text that can be rolled as a whole is a calculation without an operator, since nothing that
counts as white space is an operator.
-/

namespace Tabletop

/-! ## From an outcome to a result -/

variable {σ : Type}

/-- An integer that rounds to no infinity is reduced to the double nearest to it. -/
theorem Numeral.toFloat_int {n : Int} (h : n.natAbs < overflowMagnitude) :
    (Numeral.int n).toFloat = .ok (Float.ofInt n) := by
  rw [toFloat, nearestDouble?, if_pos h]
  rfl

/-- Zero is not too large for a double. -/
theorem nearestDouble?_zero : nearestDouble? 0 = some 0.0 := by
  have hpow (m n : Nat) (h : m < n) : 0 < Nat.pow 2 n - Nat.pow 2 m :=
    Nat.sub_pos_of_lt (Nat.pow_lt_pow_right Nat.one_lt_two h)
  have hpos : 0 < overflowMagnitude := by
    rw [overflowMagnitude]
    apply hpow
    decide
  rw [nearestDouble?, Int.natAbs_zero, if_pos hpos]
  rfl

/-- An outcome contributes its total, which is zero without dice. -/
theorem toFloat_roll (outcome : Outcome) :
    (Scalar.roll outcome).toFloat =
      (Scalar.number (.int (summarize outcome none none).total)).toFloat := by
  cases outcome with
  | none =>
    simp only [Scalar.toFloat, Numeral.toFloat, summarize, Option.getD_none, total, List.foldr_nil,
      nearestDouble?_zero, Option.elim_some]
  | some dice => rfl

/-- The result of a calculation whose roll has the given outcome. -/
def Calculation.result (calculation : Calculation) (outcome : Outcome) : Except Failure Float :=
  match calculation.tail with
  | none => (Scalar.roll outcome).toFloat
  | some tail => combine (.roll outcome) (.number (.float tail.scalar)) tail.operation

/-- How a calculation goes on when its roll has the given outcome. -/
def Calculation.conclude (calculation : Calculation) (outcome : Outcome) : Play σ Float :=
  match calculation.tail with
  | none => Play.ofExcept (Scalar.roll outcome).toFloat
  | some tail => do
    let second := Scalar.number (.float tail.scalar)
    let result ← Play.ofExcept (combine (.roll outcome) second tail.operation)
    Play.report (.combined calculation.roll tail.operation tail.scalar result)
    return result

/-- A calculation concludes with its result and without draws. -/
theorem Calculation.conclude_eq (calculation : Calculation) (outcome : Outcome) (supply : Supply σ) :
    ∃ events, calculation.conclude outcome supply =
      ⟨calculation.result outcome, supply, [], events⟩ := by
  rw [Calculation.conclude, Calculation.result]
  cases calculation.tail with
  | none =>
    cases (Scalar.roll outcome).toFloat <;> exact ⟨_, rfl⟩
  | some tail =>
    simp only
    cases combine (.roll outcome) (.number (.float tail.scalar)) tail.operation <;> exact ⟨_, rfl⟩

/-! ## Both runs -/

variable [RandomSource σ] (settings : Except SettingsError Settings)

/-- A text that is no roll from end to end is not rolled. -/
theorem rollText_of_error {text : Text} {error : ParseError} (h : Roll.parseWhole text = .error error) :
    (rollText settings text : Play σ Outcome) = Play.fail (.parse error) := by
  rw [rollText, h]
  rfl

/-- A text that was read is evaluated. -/
theorem rollText_of_ok (settings : Settings) {text : Text} {roll : Roll}
    (h : Roll.parseWhole text = .ok roll) :
    (rollText (.ok settings) text : Play σ Outcome) = evaluate settings roll := by
  rw [rollText, h]
  rfl

/-- A text that was rolled is a roll from end to end. -/
theorem exists_roll_of_rollText {settings : Except SettingsError Settings} {text : Text}
    {supply : Supply σ} {outcome : Outcome}
    (h : (rollText settings text supply).ending = .ok outcome) :
    ∃ roll, Roll.parseWhole text = .ok roll := by
  cases hparse : Roll.parseWhole text with
  | ok roll => exact ⟨roll, rfl⟩
  | error error =>
    rw [rollText_of_error settings hparse] at h
    cases h

/-- Playing a calculation is evaluating its roll and concluding with the outcome. -/
theorem Calculation.play_eq (settings : Settings) (calculation : Calculation) :
    (calculation.play settings : Play σ Float) =
      evaluate settings calculation.roll >>= calculation.conclude := rfl

/-- Calculating with a text is rolling its roll and concluding with the outcome. -/
theorem rollAndCalculate_eq_bind {text consumed : Text} {calculation : Calculation}
    (hcalculation : Calculation.parseWhole text = .ok calculation)
    (hroll : Roll.parseWhole consumed = .ok calculation.roll) :
    (rollAndCalculate settings text : Play σ Float) =
      rollText settings consumed >>= calculation.conclude := by
  rw [rollAndCalculate, rollText, hcalculation, hroll]
  simp only [Calculation.play_eq, bind_assoc]
  rfl

/-- Calculating with a text and rolling its roll draw alike and leave the same supply, and the result
follows from the ending of the roll. -/
theorem rollAndCalculate_of_parse {text consumed : Text} {calculation : Calculation}
    (hcalculation : Calculation.parseWhole text = .ok calculation)
    (hroll : Roll.parseWhole consumed = .ok calculation.roll) (supply : Supply σ) :
    (rollAndCalculate settings text supply).draws = (rollText settings consumed supply).draws ∧
      (rollAndCalculate settings text supply).supply = (rollText settings consumed supply).supply ∧
      (rollAndCalculate settings text supply).ending =
        (rollText settings consumed supply).ending >>= calculation.result := by
  rw [rollAndCalculate_eq_bind settings hcalculation hroll]
  exact Play.bind_of_quiet calculation.conclude_eq supply

/-- Rolling a text and calculating with a text agree. A text that can be rolled gives, with the same
draws, its total as a double, or the overflow of a total that has none, and zero without dice. A
calculation with an operator behaves like rolling the part of its text that is read as a roll: it draws
alike, fails alike, and otherwise joins the outcome with its number. -/
theorem rollAndCalculate_agrees (text : Text) (supply : Supply σ) :
    (∀ outcome, (rollText settings text supply).ending = .ok outcome →
      (rollAndCalculate settings text supply).draws = (rollText settings text supply).draws ∧
      (rollAndCalculate settings text supply).supply = (rollText settings text supply).supply ∧
      (rollAndCalculate settings text supply).ending =
        (Scalar.number (.int (summarize outcome none none).total)).toFloat ∧
      (outcome = none → (rollAndCalculate settings text supply).ending = .ok 0.0)) ∧
    (∀ roll tail blank, Calculation.parse text = .ok ⟨⟨roll, some tail⟩, blank⟩ →
      blank.all Text.isWhiteSpace = true →
      ∃ consumed rest, text = consumed ++ rest ∧ Roll.parse text = .ok ⟨roll, rest⟩ ∧
        (rollAndCalculate settings text supply).draws = (rollText settings consumed supply).draws ∧
        (rollAndCalculate settings text supply).supply =
          (rollText settings consumed supply).supply ∧
        (∀ failure, (rollText settings consumed supply).ending = .error failure →
          (rollAndCalculate settings text supply).ending = .error failure) ∧
        ∀ outcome, (rollText settings consumed supply).ending = .ok outcome →
          (rollAndCalculate settings text supply).ending =
            combine (.roll outcome) (.number (.float tail.scalar)) tail.operation) := by
  refine ⟨fun outcome h => ?_, fun roll tail blank h hblank => ?_⟩
  · obtain ⟨roll, hroll⟩ := exists_roll_of_rollText h
    obtain ⟨hdraws, hsupply, hending⟩ := rollAndCalculate_of_parse settings
      (Calculation.parseWhole_of_roll hroll) hroll supply
    rw [h] at hending
    refine ⟨hdraws, hsupply, hending.trans (toFloat_roll outcome), ?_⟩
    rintro rfl
    exact hending
  · obtain ⟨rest, hparse⟩ := Calculation.exists_roll_of_parse h
    obtain ⟨consumed, htext, hroll⟩ := exists_consumed_of_parse hparse
    obtain ⟨hdraws, hsupply, hending⟩ := rollAndCalculate_of_parse settings
      (Calculation.parseWhole_of_parse h hblank) hroll supply
    refine ⟨consumed, rest, htext, hparse, hdraws, hsupply, fun failure hfailure => ?_,
      fun outcome houtcome => ?_⟩
    · rw [hending, hfailure]
      rfl
    · rw [hending, houtcome]
      rfl

/-- A kept die counts as its total, and an operator joins it with its number. -/
theorem rollAndCalculate_agrees_script :
    let supply : Supply Generator := ⟨.script [3, 5], 20⟩
    let two := nearestFloat ['2'] []
    (rollText (.ok .standard) "2d6 k1 ".toList supply).ending = .ok (some [5]) ∧
    (rollAndCalculate (.ok .standard) "2d6 k1 ".toList supply).ending =
      (Scalar.number (.int 5)).toFloat ∧
    Calculation.parse "2d6 k1 * 2 ".toList =
      .ok ⟨⟨⟨⟨2, 6⟩, [⟨.keep, 1⟩]⟩, some ⟨.multiply, two⟩⟩, [' ']⟩ ∧
    ∃ consumed rest, "2d6 k1 * 2 ".toList = consumed ++ rest ∧
      ∀ outcome, (rollText (.ok .standard) consumed supply).ending = .ok outcome →
        (rollAndCalculate (.ok .standard) "2d6 k1 * 2 ".toList supply).ending =
          combine (.roll outcome) (.number (.float two)) .multiply := by
  intro supply two
  have hread : Roll.parseWhole "2d6 k1 ".toList = .ok ⟨⟨2, 6⟩, [⟨.keep, 1⟩]⟩ := by
    decide +kernel
  have hrolled : rollDice ⟨2, 6⟩ supply =
      ⟨.ok [3, 5], ⟨.script [5], 18⟩, [3, 5].map (Draw.mk ⟨1, 6⟩), []⟩ := by
    cbv
  have hroll : (rollText (.ok .standard) "2d6 k1 ".toList supply).ending = .ok (some [5]) := by
    rw [rollText_of_ok .standard hread]
    exact congrArg Record.ending (evaluate_of_eq rfl hrolled rfl)
  have hrest : Roll.parse "2d6 k1 * 2 ".toList =
      .ok ⟨⟨⟨2, 6⟩, [⟨.keep, 1⟩]⟩, [' ', '*', ' ', '2', ' ']⟩ := by
    decide +kernel
  -- The number is read without carrying out the conversion of its digits.
  have hscalar : readScalar? [' ', '2', ' '] = some ⟨two, [' ']⟩ := rfl
  have hstart : Text.skipBlanks [' ', '*', ' ', '2', ' '] =
      Operation.multiply.symbol :: [' ', '2', ' '] := rfl
  have hparse := Calculation.parse_of_operator hrest hstart
  rw [hscalar] at hparse
  obtain ⟨htotal, -⟩ := rollAndCalculate_agrees (.ok .standard) "2d6 k1 ".toList supply
  obtain ⟨-, hjoin⟩ := rollAndCalculate_agrees (.ok .standard) "2d6 k1 * 2 ".toList supply
  obtain ⟨-, -, hfive, -⟩ := htotal _ hroll
  obtain ⟨consumed, rest, htext, -, -, -, -, hcombine⟩ := hjoin _ _ _ hparse (by decide)
  exact ⟨hroll, hfive, hparse, consumed, rest, htext, hcombine⟩

end Tabletop
