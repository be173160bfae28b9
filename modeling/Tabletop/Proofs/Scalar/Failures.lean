import Tabletop.Proofs.Rolling.Conservation
import Tabletop.Proofs.Rolling.Rejection
import Tabletop.Proofs.Scalar.RollCalculation

/-!
# How rolling and calculating fail

Rolling a text and calculating with a text fail because the text is not read or because its roll is
rejected. All other failures are out of reach: digits are converted only when there are few of them, an
operator is looked up only where one was seen, every kind of modifier and every operation is handled, no
division by zero is carried out, and a total is too large for a double only if there are far more dice
than twenty thousand.
-/

namespace Tabletop

variable {σ : Type} [RandomSource σ] {supply : Supply σ} {text : Text}

/-! ## Reading first -/

/-- A text that is no calculation from end to end is not calculated with. -/
theorem rollAndCalculate_of_error (settings : Except SettingsError Settings) {error : ParseError}
    (h : Calculation.parseWhole text = .error error) :
    (rollAndCalculate settings text : Play σ Float) = Play.fail (.parse error) := by
  rw [rollAndCalculate, h]
  rfl

/-- A text that was read needs settings, and fails without them. -/
theorem rollText_of_refused {roll : Roll} (h : Roll.parseWhole text = .ok roll) (error : SettingsError) :
    (rollText (.error error) text : Play σ Outcome) = Play.fail (.settings error) := by
  rw [rollText, h]
  rfl

/-- A calculation that was read needs settings, and fails without them. -/
theorem rollAndCalculate_of_refused {calculation : Calculation}
    (h : Calculation.parseWhole text = .ok calculation) (error : SettingsError) :
    (rollAndCalculate (.error error) text : Play σ Float) = Play.fail (.settings error) := by
  rw [rollAndCalculate, h]
  rfl

/-- A calculation that was read is played. -/
theorem rollAndCalculate_of_ok (settings : Settings) {calculation : Calculation}
    (h : Calculation.parseWhole text = .ok calculation) :
    (rollAndCalculate (.ok settings) text : Play σ Float) =
      evaluate settings calculation.roll >>= calculation.conclude := by
  rw [rollAndCalculate, h]
  rfl

/-- A calculation that was read draws as its roll does and ends with what follows from the ending of
the roll. -/
theorem rollAndCalculate_of_evaluate (settings : Settings) {calculation : Calculation}
    (h : Calculation.parseWhole text = .ok calculation) (supply : Supply σ) :
    (rollAndCalculate (.ok settings) text supply).draws =
        (evaluate settings calculation.roll supply).draws ∧
      (rollAndCalculate (.ok settings) text supply).ending =
        (evaluate settings calculation.roll supply).ending >>= calculation.result := by
  rw [rollAndCalculate_of_ok settings h]
  constructor
  · exact (Play.bind_of_quiet calculation.conclude_eq supply).1
  · exact (Play.bind_of_quiet calculation.conclude_eq supply).2.2

/-! ## Evaluating -/

/-- Evaluating a roll fails only for want of draws or by the rejection of the whole roll. -/
theorem failsOnly_evaluate_rejected (settings : Settings) (roll : Roll) :
    Play.FailsOnly (fun failure => failure = .exhausted ∨
        ∃ rejection, failure = .rejected rejection ∧ roll.rejection? settings = some rejection)
      (evaluate settings roll : Play σ Outcome) := by
  refine Play.FailsOnly.compositional.evaluate
    (fun counts wanted _ => Play.failsOnly_drawBatch (Or.inl rfl) _ counts wanted) ?_
  intro rejection hrejection supply failure h
  cases h
  exact Or.inr ⟨rejection, rfl, hrejection⟩

/-! ## Totals -/

/-- The total of dice within a bound is within the bound for each of them. -/
theorem natAbs_total_le {dice : List Int} {bound : Nat} (h : ∀ die ∈ dice, die.natAbs ≤ bound) :
    (total dice).natAbs ≤ dice.length * bound := by
  induction dice with
  | nil => exact Nat.zero_le _
  | cons die dice ih =>
    have hdie := h die List.mem_cons_self
    have hrest := ih fun other hother => h other (List.mem_cons_of_mem _ hother)
    change (die + total dice).natAbs ≤ (dice.length + 1) * bound
    rw [Nat.add_mul, Nat.one_mul]
    omega

/-- An outcome has no more dice than its run has draws, and each of them is one of the draws. -/
theorem natAbs_total_le_of_evaluate {settings : Settings} {roll : Roll} {outcome : Outcome}
    {bound : Nat} (hsides : roll.dice.sides ≤ bound)
    (hrange : ∀ draw ∈ (evaluate settings roll supply).draws, draw.InRange)
    (h : (evaluate settings roll supply).ending = .ok outcome) :
    (total (outcome.getD [])).natAbs ≤ (evaluate settings roll supply).draws.length * bound := by
  have hderives := derives_of_evaluate (Play.eq_of_ending_eq_ok h)
  have hsubperm := hderives.subperm
  rw [List.nil_append] at hsubperm
  have hdice : ∀ die ∈ outcome.getD [], die.natAbs ≤ bound := by
    intro die hdie
    obtain ⟨draw, hdraw, rfl⟩ := List.mem_map.mp (hsubperm.subset hdie)
    obtain ⟨hlow, hhigh⟩ := hrange draw hdraw
    rw [asksOnly_evaluate settings roll supply |>.range_eq draw hdraw] at hlow hhigh
    simp only [dieRange] at hlow hhigh
    omega
  have hlength := hsubperm.length_le
  rw [List.length_map] at hlength
  exact (natAbs_total_le hdice).trans (Nat.mul_le_mul_right bound hlength)

/-- An outcome whose total is not too large has a nearest double. -/
theorem exists_toFloat_roll {outcome : Outcome}
    (h : (total (outcome.getD [])).natAbs < overflowMagnitude) :
    ∃ x, (Scalar.roll outcome).toFloat = .ok x := by
  cases outcome with
  | none => exact ⟨0.0, rfl⟩
  | some dice =>
    rw [Option.getD_some] at h
    have hdouble := Numeral.toFloat_int h
    exact ⟨Float.ofInt (total dice), hdouble⟩

/-- A calculation with such an outcome has a result, whatever its operation and its number. -/
theorem Calculation.exists_result (calculation : Calculation) {outcome : Outcome}
    (h : (total (outcome.getD [])).natAbs < overflowMagnitude) :
    ∃ x, calculation.result outcome = .ok x := by
  obtain ⟨a, ha⟩ := exists_toFloat_roll h
  rw [Calculation.result]
  cases calculation.tail with
  | none => exact ⟨a, ha⟩
  | some tail =>
    refine ⟨tail.operation.apply a tail.scalar, ?_⟩
    simp only [combine, ha]
    rfl

/-- Twenty thousand of the largest numbers are not too large for a double. -/
theorem mul_maxNumber_lt_overflowMagnitude : 20000 * maxNumber < overflowMagnitude := by
  decide +kernel

/-! ## Division -/

/-- What a division by zero would give makes no difference, since none is carried out. -/
theorem quotientBy_eq {divide : Float → Float → Float}
    (h : ∀ a b, (b == 0.0) = false → divide a b = a / b) (a b : Float) :
    quotientBy divide a b = quotient a b := by
  rw [quotient, quotientBy, quotientBy]
  split
  · rename_i hb
    rw [h a b (by simpa [bne] using hb)]
  · rfl

/-! ## Reading -/

/-- Reading a roll from end to end never fails at an operator. -/
theorem Roll.not_isOperatorFault_of_parseWhole {error : ParseError}
    (h : Roll.parseWhole text = .error error) : ¬ error.fault.IsOperatorFault := by
  rcases eq_error_of_bind_whole h with hparse | ⟨roll, rest, -, rfl⟩
  · exact (Roll.isRollFault_of_parse hparse).not_isOperatorFault
  · exact not_false

/-- Reading a calculation from end to end never fails at an operator. -/
theorem Calculation.not_isOperatorFault_of_parseWhole {error : ParseError}
    (h : Calculation.parseWhole text = .error error) : ¬ error.fault.IsOperatorFault := by
  rcases eq_error_of_bind_whole h with hparse | ⟨calculation, rest, -, rfl⟩
  · exact Calculation.not_isOperatorFault_of_parse hparse
  · exact not_false

/-- The sides of a calculation that was read fit the notation. -/
theorem Calculation.sides_le_of_parseWhole {calculation : Calculation}
    (h : Calculation.parseWhole text = .ok calculation) : calculation.roll.dice.sides ≤ maxNumber := by
  obtain ⟨rest, hparse, -⟩ := Calculation.parseWhole_eq_ok_iff.mp h
  obtain ⟨behind, hroll⟩ := Calculation.exists_roll_of_parse hparse
  obtain ⟨spelling, -, hvalue⟩ := exists_divides_of_parse hroll
  change spelling.roll = calculation.roll at hvalue
  exact hvalue ▸ spelling.writable.sides.2

/-! ## Both runs -/

/-- A failure that is documented, given what reading the text yields: the text was not read, though not
for an operator that was seen and then not found, or its roll is rejected as a whole. -/
def Failure.IsDocumented (settings : Settings) (parsed : Except ParseError Roll) : Failure → Prop
  | parse error => parsed = .error error ∧ ¬ error.fault.IsOperatorFault
  | rejected rejection => ∃ roll, parsed = .ok roll ∧ roll.rejection? settings = some rejection
  | _ => False

/-- Evaluating a roll that was read fails as documented, unless the source must not be asked again. -/
theorem isDocumented_of_evaluate {settings : Settings} {roll : Roll} {failure : Failure}
    (h : (evaluate settings roll supply).ending = .error failure) :
    failure = .exhausted ∨ failure.IsDocumented settings (.ok roll) := by
  rcases failsOnly_evaluate_rejected settings roll supply failure h with
    hexhausted | ⟨rejection, rfl, hrejection⟩
  · exact Or.inl hexhausted
  · exact Or.inr ⟨roll, rfl, hrejection⟩

/-- Rolling a text gives a proper outcome or fails as documented, unless the source must not be asked
again. -/
theorem rollText_ending (settings : Settings) (text : Text) (supply : Supply σ)
    (hends : (rollText (.ok settings) text supply).ending ≠ .error .exhausted) :
    (∃ outcome, (rollText (.ok settings) text supply).ending = .ok outcome ∧ outcome.Proper) ∨
      ∃ failure, (rollText (.ok settings) text supply).ending = .error failure ∧
        failure.IsDocumented settings (Roll.parseWhole text) := by
  cases hroll : Roll.parseWhole text with
  | error error =>
    rw [rollText_of_error _ hroll]
    exact Or.inr ⟨_, rfl, rfl, Roll.not_isOperatorFault_of_parseWhole hroll⟩
  | ok roll =>
    rw [rollText_of_ok settings hroll] at hends ⊢
    cases hending : (evaluate settings roll supply).ending with
    | ok outcome =>
      exact Or.inl ⟨outcome, rfl, (derives_of_evaluate (Play.eq_of_ending_eq_ok hending)).proper⟩
    | error failure =>
      rcases isDocumented_of_evaluate hending with rfl | hdocumented
      · exact absurd hending hends
      · exact Or.inr ⟨failure, rfl, hdocumented⟩

/-- Calculating with a text gives a double or fails as documented, unless the source must not be asked
again. All draws have to lie in their range and to be no more than twenty thousand. -/
theorem rollAndCalculate_ending (settings : Settings) (text : Text) (supply : Supply σ)
    (hends : (rollAndCalculate (.ok settings) text supply).ending ≠ .error .exhausted)
    (hcount : (rollAndCalculate (.ok settings) text supply).draws.length ≤ 20000)
    (hrange : ∀ draw ∈ (rollAndCalculate (.ok settings) text supply).draws, draw.InRange) :
    (∃ x, (rollAndCalculate (.ok settings) text supply).ending = .ok x) ∨
      ∃ failure, (rollAndCalculate (.ok settings) text supply).ending = .error failure ∧
        failure.IsDocumented settings ((Calculation.parseWhole text).map Calculation.roll) := by
  cases hparse : Calculation.parseWhole text with
  | error error =>
    rw [rollAndCalculate_of_error _ hparse]
    exact Or.inr ⟨_, rfl, rfl, Calculation.not_isOperatorFault_of_parseWhole hparse⟩
  | ok calculation =>
    obtain ⟨hdraws, hending⟩ := rollAndCalculate_of_evaluate settings hparse supply
    rw [hending] at hends ⊢
    rw [hdraws] at hcount hrange
    cases hevaluate : (evaluate settings calculation.roll supply).ending with
    | error failure =>
      rw [hevaluate] at hends
      rcases isDocumented_of_evaluate hevaluate with rfl | hdocumented
      · exact absurd rfl hends
      · exact Or.inr ⟨failure, rfl, hdocumented⟩
    | ok outcome =>
      -- The dice are among the draws, so their number and their sides bound the total.
      have htotal := natAbs_total_le_of_evaluate (Calculation.sides_le_of_parseWhole hparse) hrange
        hevaluate
      have hsmall : (total (outcome.getD [])).natAbs < overflowMagnitude :=
        (htotal.trans (Nat.mul_le_mul_right maxNumber hcount)).trans_lt mul_maxNumber_lt_overflowMagnitude
      exact Or.inl (calculation.exists_result hsmall)

/-- Only documented failures come out of rolling a text and of calculating with a text. Whatever the
text, the settings and the source, if the source is asked as often as it takes, then rolling gives no
outcome or some dice, and calculating gives a double, as long as no more than twenty thousand values
are drawn and all lie in their range. Otherwise the text is not read, though never for want of an
operator that was seen, or its roll is rejected as a whole. Runs of digits that are too long are never
converted, and no quotient by zero is formed. -/
theorem only_documented_failures (settings : Settings) (text : Text) (supply : Supply σ) :
    ((rollText (.ok settings) text supply).ending ≠ .error .exhausted →
      (∃ outcome, (rollText (.ok settings) text supply).ending = .ok outcome ∧
        (outcome = none ∨ ∃ dice, outcome = some dice ∧ dice ≠ [])) ∨
      ∃ failure, (rollText (.ok settings) text supply).ending = .error failure ∧
        failure.IsDocumented settings (Roll.parseWhole text)) ∧
    ((rollAndCalculate (.ok settings) text supply).ending ≠ .error .exhausted →
      (rollAndCalculate (.ok settings) text supply).draws.length ≤ 20000 →
      (∀ draw ∈ (rollAndCalculate (.ok settings) text supply).draws, draw.InRange) →
      (∃ x, (rollAndCalculate (.ok settings) text supply).ending = .ok x) ∨
      ∃ failure, (rollAndCalculate (.ok settings) text supply).ending = .error failure ∧
        failure.IsDocumented settings ((Calculation.parseWhole text).map Calculation.roll)) ∧
    (∀ convert : Text → Nat,
      (∀ digits, digits.length ≤ maxDigits → convert digits = Decimal.value digits) →
      ∀ digits, boundedValue? convert digits = boundedValue? Decimal.value digits) ∧
    (∀ divide : Float → Float → Float, (∀ a b, (b == 0.0) = false → divide a b = a / b) →
      ∀ a b, quotientBy divide a b = quotient a b) := by
  refine ⟨fun hends => ?_, rollAndCalculate_ending settings text supply, ?_, fun divide h => ?_⟩
  · rcases rollText_ending settings text supply hends with ⟨outcome, hending, hproper⟩ | hfailure
    · cases outcome with
      | none => exact Or.inl ⟨none, hending, Or.inl rfl⟩
      | some dice => exact Or.inl ⟨some dice, hending, Or.inr ⟨dice, rfl, (hproper dice rfl).1⟩⟩
    · exact Or.inr hfailure
  · exact fun convert => boundedValue?_congr
  · exact quotientBy_eq h

/-- A kept die is a double, and a letter without its number is not read. A conversion that gives up on
long runs and a division that gives up on zero do as well. -/
theorem only_documented_failures_script :
    let supply : Supply Generator := ⟨.script [3, 5], 20000⟩
    (∃ x, (rollAndCalculate (.ok .standard) "2d6 k1".toList supply).ending = .ok x) ∧
    (∃ failure, (rollText (.ok .standard) "2d6 k".toList supply).ending = .error failure ∧
      failure.IsDocumented .standard (Roll.parseWhole "2d6 k".toList)) ∧
    (∀ digits, boundedValue? (fun digits => if maxDigits < digits.length then 0 else Decimal.value digits)
      digits = boundedValue? Decimal.value digits) ∧
    ∀ a b, quotientBy (fun a b => if b == 0.0 then a else a / b) a b = quotient a b := by
  intro supply
  have hread : Roll.parseWhole "2d6 k1".toList = .ok ⟨⟨2, 6⟩, [⟨.keep, 1⟩]⟩ := by
    decide +kernel
  have hrolled : rollDice ⟨2, 6⟩ supply =
      ⟨.ok [3, 5], ⟨.script [5], 19998⟩, [3, 5].map (Draw.mk ⟨1, 6⟩), []⟩ := by
    cbv
  have hrun : evaluate .standard ⟨⟨2, 6⟩, [⟨.keep, 1⟩]⟩ supply = ⟨.ok (some [5]), _, _, _⟩ :=
    evaluate_of_eq rfl hrolled rfl
  obtain ⟨hdraws, hending⟩ :=
    rollAndCalculate_of_evaluate .standard (Calculation.parseWhole_of_roll hread) supply
  rw [hrun] at hdraws hending
  have hsmall : (total ((some [5] : Outcome).getD [])).natAbs < overflowMagnitude := by decide +kernel
  obtain ⟨x, hx⟩ := Calculation.exists_result ⟨⟨⟨2, 6⟩, [⟨.keep, 1⟩]⟩, none⟩ hsmall
  simp only [bind, Except.bind, hx] at hending
  have hunread : Roll.parseWhole "2d6 k".toList = .error ⟨.missingNumber, "2d6 k".toList, 5⟩ := by
    decide +kernel
  have hfails : (rollText (.ok .standard) "2d6 k".toList supply).ending =
      .error (.parse ⟨.missingNumber, "2d6 k".toList, 5⟩) := by
    rw [rollText_of_error _ hunread]
    rfl
  obtain ⟨-, hcalculates, hconverts, hdivides⟩ :=
    only_documented_failures .standard "2d6 k1".toList supply
  obtain ⟨hrolls, -⟩ := only_documented_failures .standard "2d6 k".toList supply
  rw [hdraws, hending] at hcalculates
  rw [hfails] at hrolls
  refine ⟨?_, ?_, ?_, ?_⟩
  · rw [hending]
    exact (hcalculates (by simp) (by decide) (by decide)).resolve_right (by simp)
  · rw [hfails]
    exact (hrolls (by simp)).resolve_left (by simp)
  · exact hconverts _ fun digits hlength => if_neg (Nat.not_lt.mpr hlength)
  · exact hdivides _ fun a b hb => by rw [hb, if_neg Bool.false_ne_true]

end Tabletop
