import Tabletop.Proofs.Notation.Stops
import Tabletop.Proofs.Scalar.Failures

/-!
# Errors in the notation

Whether a text is read, rolled or calculated with, an error in its notation names the whole text and the
place up to which it could still be continued to a text without one. The notation is checked before
anything is drawn, and nothing but the notation gives such an error.
-/

namespace Tabletop

variable {σ : Type} [RandomSource σ] {supply : Supply σ} {text : Text} {error : ParseError}

/-- Reducing a scalar fails only because it is too large. -/
theorem Scalar.eq_overflow_of_toFloat {scalar : Scalar} {failure : Failure}
    (h : scalar.toFloat = .error failure) : failure = .overflow := by
  have hnumeral (numeral : Numeral) (h : numeral.toFloat = .error failure) : failure = .overflow := by
    cases numeral with
    | float x => cases h
    | int n =>
      rw [Numeral.toFloat] at h
      cases hdouble : nearestDouble? n with
      | none =>
        rw [hdouble] at h
        cases h
        rfl
      | some x =>
        rw [hdouble] at h
        cases h
  cases scalar with
  | number value => exact hnumeral value h
  | roll outcome =>
    cases outcome with
    | none => cases h
    | some dice => exact hnumeral (.int (total dice)) h

/-- Going on with an outcome fails only because its total is too large. -/
theorem Calculation.eq_overflow_of_result {calculation : Calculation} {outcome : Outcome}
    {failure : Failure} (h : calculation.result outcome = .error failure) : failure = .overflow := by
  rw [Calculation.result] at h
  cases htail : calculation.tail with
  | none =>
    rw [htail] at h
    exact Scalar.eq_overflow_of_toFloat h
  | some tail =>
    rw [htail] at h
    rcases error_or_error_of_bind h with hroll | ⟨x, -, hnumber⟩
    · exact Scalar.eq_overflow_of_toFloat hroll
    · cases hnumber

/-- Evaluating a roll gives no error in a notation. -/
theorem ending_evaluate_ne_parse (settings : Settings) (roll : Roll) (supply : Supply σ) :
    (evaluate settings roll supply).ending ≠ .error (.parse error) := by
  intro h
  rcases failsOnly_evaluate_rejected settings roll supply _ h with hexhausted | ⟨_, hrejected, -⟩
  · cases hexhausted
  · cases hrejected

/-- Rolling a text gives the errors of reading it from end to end, and no others in a notation. -/
theorem parseWhole_of_rollText {settings : Except SettingsError Settings}
    (h : (rollText settings text supply).ending = .error (.parse error)) :
    Roll.parseWhole text = .error error := by
  cases hparse : Roll.parseWhole text with
  | error first =>
    rw [rollText_of_error settings hparse] at h
    cases h
    rfl
  | ok roll =>
    cases settings with
    | error refused =>
      rw [rollText_of_refused hparse] at h
      cases h
    | ok settings =>
      rw [rollText_of_ok settings hparse] at h
      exact absurd h (ending_evaluate_ne_parse settings roll supply)

/-- Calculating with a text gives the errors of reading it from end to end, and no others in a
notation. -/
theorem parseWhole_of_rollAndCalculate {settings : Except SettingsError Settings}
    (h : (rollAndCalculate settings text supply).ending = .error (.parse error)) :
    Calculation.parseWhole text = .error error := by
  cases hparse : Calculation.parseWhole text with
  | error first =>
    rw [rollAndCalculate_of_error settings hparse] at h
    cases h
    rfl
  | ok calculation =>
    cases settings with
    | error refused =>
      rw [rollAndCalculate_of_refused hparse] at h
      cases h
    | ok settings =>
      rw [(rollAndCalculate_of_evaluate settings hparse supply).2] at h
      rcases error_or_error_of_bind h with hevaluate | ⟨outcome, -, hresult⟩
      · exact absurd hevaluate (ending_evaluate_ne_parse settings calculation.roll supply)
      · cases Calculation.eq_overflow_of_result hresult

/-- Errors in a notation point behind what can be continued. Whatever the text, the error of reading,
rolling or calculating names the whole text and a place in it, and what stands in front of that place can
be continued to a text that is accepted in the same way. An error about text left behind a roll or a
calculation points right behind it: what stands in front needs no continuation, and what is left is the
rest of the text. Rolling and calculating have drawn nothing by then and shown nothing. -/
theorem parse_errors_point_behind_viable_text (text : Text) (error : ParseError) :
    (Roll.parse text = .error error →
      error.PointsBehind text fun other => ∃ reading, Roll.parse other = .ok reading) ∧
    (Calculation.parse text = .error error →
      error.PointsBehind text fun other => ∃ reading, Calculation.parse other = .ok reading) ∧
    (∀ (settings : Except SettingsError Settings) (supply : Supply σ),
      (rollText settings text supply).ending = .error (.parse error) →
        (error.PointsBehind text fun other => ∃ roll, Roll.parseWhole other = .ok roll) ∧
        (error.fault = .textAfterRoll → ∃ roll,
          Roll.parseWhole (text.take error.position) = .ok roll ∧
          Roll.parse text = .ok ⟨roll, text.drop error.position⟩) ∧
        rollText settings text supply = ⟨.error (.parse error), supply, [], []⟩) ∧
    (∀ (settings : Except SettingsError Settings) (supply : Supply σ),
      (rollAndCalculate settings text supply).ending = .error (.parse error) →
        (error.PointsBehind text fun other =>
          ∃ calculation, Calculation.parseWhole other = .ok calculation) ∧
        (error.fault = .textAfterCalculation → ∃ calculation,
          Calculation.parseWhole (text.take error.position) = .ok calculation ∧
          Calculation.parse text = .ok ⟨calculation, text.drop error.position⟩) ∧
        rollAndCalculate settings text supply = ⟨.error (.parse error), supply, [], []⟩) := by
  refine ⟨fun h => ?_, fun h => ?_, fun settings supply h => ?_, fun settings supply h => ?_⟩
  · exact (Roll.pointsBehind_of_parse h).mono fun other ⟨roll, hroll⟩ => ⟨_, hroll⟩
  · exact (Calculation.pointsBehind_of_parse h).mono fun other ⟨calculation, hcalculation⟩ =>
      ⟨_, hcalculation⟩
  · have hwhole := parseWhole_of_rollText h
    obtain ⟨hbehind, hread⟩ := Roll.pointsBehind_of_parseWhole hwhole
    refine ⟨hbehind, fun hfault => hread.resolve_left fun hparse => ?_, ?_⟩
    · have hroll := Roll.isRollFault_of_parse hparse
      rw [hfault] at hroll
      exact hroll
    · rw [rollText_of_error settings hwhole]
      rfl
  · have hwhole := parseWhole_of_rollAndCalculate h
    obtain ⟨hbehind, hread⟩ := Calculation.pointsBehind_of_parseWhole hwhole
    refine ⟨hbehind, fun hfault => hread.resolve_left fun hparse => ?_, ?_⟩
    · rcases Calculation.fault_of_parse hparse with hroll | ⟨operation, hscalar⟩
      · rw [hfault] at hroll
        exact hroll
      · cases hfault.symm.trans hscalar
    · rw [rollAndCalculate_of_error settings hwhole]
      rfl

/-- A letter without its number, an operator without one, and a stray letter behind a roll and behind a
calculation. -/
theorem parse_errors_point_behind_viable_text_letters :
    let supply : Supply Generator := ⟨.script [3, 5], 20⟩
    (∃ more reading, Roll.parse ("2d6 k".toList ++ more) = .ok reading) ∧
    (∃ more reading, Calculation.parse ("2d6 +".toList ++ more) = .ok reading) ∧
    (∃ roll, Roll.parseWhole "2d6".toList = .ok roll ∧
      Roll.parse "2d6 x".toList = .ok ⟨roll, " x".toList⟩) ∧
    rollAndCalculate (.ok .standard) "2d6 x".toList supply =
      ⟨.error (.parse ⟨.textAfterCalculation, "2d6 x".toList, 3⟩), supply, [], []⟩ := by
  intro supply
  have hletter : Roll.parse "2d6 k x".toList = .error ⟨.missingNumber, "2d6 k x".toList, 5⟩ := by
    decide +kernel
  have hroll : Roll.parse "2d6 + x".toList = .ok ⟨⟨⟨2, 6⟩, []⟩, " + x".toList⟩ := by
    decide +kernel
  have hoperator : Calculation.parse "2d6 + x".toList =
      .error ⟨.missingScalar .add, "2d6 + x".toList, 5⟩ := by
    have hstart : Text.skipBlanks " + x".toList = Operation.add.symbol :: " x".toList := rfl
    rw [Calculation.parse_of_operator hroll hstart]
    rfl
  have hstray : Roll.parse "2d6 x".toList = .ok ⟨⟨⟨2, 6⟩, []⟩, " x".toList⟩ := by
    decide +kernel
  have hrolled : (rollText (.ok .standard) "2d6 x".toList supply).ending =
      .error (.parse ⟨.textAfterRoll, "2d6 x".toList, 3⟩) := by
    have hunread : Roll.parseWhole "2d6 x".toList = .error ⟨.textAfterRoll, "2d6 x".toList, 3⟩ := by
      decide +kernel
    rw [rollText_of_error _ hunread]
    rfl
  have hcalculated : (rollAndCalculate (.ok .standard) "2d6 x".toList supply).ending =
      .error (.parse ⟨.textAfterCalculation, "2d6 x".toList, 3⟩) := by
    have hlacks : Text.LacksOperator " x".toList := by
      intro c hc
      obtain rfl : 'x' = c := Option.mem_some_iff.mp hc
      decide
    have hunread : Calculation.parseWhole "2d6 x".toList =
        .error ⟨.textAfterCalculation, "2d6 x".toList, 3⟩ := by
      rw [Calculation.parseWhole, Calculation.parse_of_lacksOperator hstray hlacks]
      rfl
    rw [rollAndCalculate_of_error _ hunread]
    rfl
  refine ⟨?_, ?_, ?_, ?_⟩
  · exact ((parse_errors_point_behind_viable_text (σ := Generator) _ _).1 hletter).viable
  · exact ((parse_errors_point_behind_viable_text (σ := Generator) _ _).2.1 hoperator).viable
  · exact ((parse_errors_point_behind_viable_text _ _).2.2.1 _ _ hrolled).2.1 rfl
  · exact ((parse_errors_point_behind_viable_text _ _).2.2.2 _ _ hcalculated).2.2

end Tabletop
