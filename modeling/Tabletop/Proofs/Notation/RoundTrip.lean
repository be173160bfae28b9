import Tabletop.Proofs.Notation.Reading

/-!
# Writing and reading back

A roll whose numbers fit the notation is written as one of its spellings, with nothing behind it, so
reading gives it back. Reading never yields other rolls, hence writing what was read and reading it
again changes nothing.
-/

namespace Tabletop

/-- Numbers of a notation are natural and at most `maxNumber`. -/
def FitsNotation (n : Int) : Prop := 0 ≤ n ∧ n ≤ maxNumber

instance (n : Int) : Decidable (FitsNotation n) := inferInstanceAs (Decidable (_ ∧ _))

/-- All numbers of a roll fit the notation. -/
structure Roll.Writable (roll : Roll) : Prop where
  count : FitsNotation roll.dice.count
  sides : FitsNotation roll.dice.sides
  value_of_mem : ∀ modifier ∈ roll.modifiers, FitsNotation modifier.value

/-- The decimal notation of a fitting number spells it without blanks. -/
theorem exists_numberSpelling {n : Int} (h : FitsNotation n) :
    ∃ number : NumberSpelling, number.text = Decimal.ofInt n ∧ (number.value : Int) = n := by
  obtain ⟨k, rfl⟩ := Int.eq_ofNat_of_zero_le h.1
  have hle : Decimal.value (Decimal.ofNat k) ≤ maxNumber := by
    rw [Decimal.value_ofNat]
    exact Int.ofNat_le.mp h.2
  refine ⟨⟨[], Decimal.ofNat k, ?_, fun c => Decimal.isDigit_of_mem_ofNat, Nat.toDigits_ne_nil, hle⟩,
    rfl, ?_⟩
  · intro c hc
    cases hc
  · rw [NumberSpelling.value, Decimal.value_ofNat]

/-- A modifier is written behind one space. -/
theorem exists_modifierSpelling {modifier : Modifier} (h : FitsNotation modifier.value) :
    ∃ written : ModifierSpelling, written.text = ' ' :: modifier.text ∧ written.modifier = modifier := by
  obtain ⟨number, htext, hvalue⟩ := exists_numberSpelling h
  refine ⟨⟨[' '], modifier.kind.letter, modifier.kind, number, ?_, Or.inl rfl⟩, ?_, ?_⟩
  · intro c hc
    rw [List.mem_singleton.mp hc]
    rfl
  · rw [ModifierSpelling.text, Modifier.text, htext]
    rfl
  · rw [ModifierSpelling.modifier, hvalue]

/-- Modifiers are written one after the other. -/
theorem exists_modifierSpellings {modifiers : List Modifier}
    (h : ∀ modifier ∈ modifiers, FitsNotation modifier.value) :
    ∃ written : List ModifierSpelling,
      written.flatMap ModifierSpelling.text = modifiers.flatMap (fun modifier => ' ' :: modifier.text) ∧
        written.map ModifierSpelling.modifier = modifiers := by
  induction modifiers with
  | nil => exact ⟨[], rfl, rfl⟩
  | cons modifier modifiers ih =>
    obtain ⟨first, hfirst, hmodifier⟩ := exists_modifierSpelling (h modifier List.mem_cons_self)
    obtain ⟨others, hothers, hmodifiers⟩ := ih fun other hother => h other (List.mem_cons_of_mem _ hother)
    refine ⟨first :: others, ?_, ?_⟩
    · rw [List.flatMap_cons, List.flatMap_cons, hfirst, hothers]
    · rw [List.map_cons, hmodifier, hmodifiers]

/-- A roll is written as one of its spellings. -/
theorem exists_rollSpelling {roll : Roll} (h : roll.Writable) :
    ∃ spelling : RollSpelling, spelling.text = roll.text ∧ spelling.roll = roll := by
  obtain ⟨count, hcountText, hcount⟩ := exists_numberSpelling h.count
  obtain ⟨sides, hsidesText, hsides⟩ := exists_numberSpelling h.sides
  obtain ⟨modifiers, htext, hmodifiers⟩ := exists_modifierSpellings h.value_of_mem
  refine ⟨⟨count, [], 'd', sides, modifiers, ?_, Or.inl rfl⟩, ?_, ?_⟩
  · intro c hc
    cases hc
  · simp only [RollSpelling.text, Roll.text, DiceTerm.text, hcountText, hsidesText, htext,
      List.nil_append, List.append_assoc, List.cons_append]
  · rw [RollSpelling.roll, hcount, hsides, hmodifiers]

/-- Nothing at all ends a roll. -/
theorem endsRoll_nil : EndsRoll [] := by
  refine ⟨?_, ?_, ?_⟩
  · intro c hc
    cases hc
  · intro kind c hc
    cases hc
  · rw [isModifierAttempt_iff]
    intro h
    obtain ⟨letter, more, hstart, -⟩ := h
    cases hstart

/-- A written roll alone is read with nothing left. -/
theorem RollSpelling.parse_text (spelling : RollSpelling) :
    Roll.parse spelling.text = .ok ⟨spelling.roll, []⟩ :=
  parse_of_divides ⟨(List.append_nil _).symm, endsRoll_nil⟩

/-- A roll whose numbers fit is read back from its text. -/
theorem parse_text {roll : Roll} (h : roll.Writable) : Roll.parse roll.text = .ok ⟨roll, []⟩ := by
  obtain ⟨spelling, htext, hroll⟩ := exists_rollSpelling h
  rw [← htext, spelling.parse_text, hroll]

/-- A spelled number fits the notation. -/
theorem NumberSpelling.fitsNotation (number : NumberSpelling) : FitsNotation number.value :=
  ⟨Int.natCast_nonneg _, Int.ofNat_le.mpr number.value_le⟩

/-- A spelled roll is writable. -/
theorem RollSpelling.writable (spelling : RollSpelling) : spelling.roll.Writable := by
  refine ⟨spelling.count.fitsNotation, spelling.sides.fitsNotation, ?_⟩
  intro modifier hmodifier
  obtain ⟨written, -, rfl⟩ := List.mem_map.mp hmodifier
  exact written.number.fitsNotation

/-- Writing and reading are inverse: a roll whose numbers fit is read back from its text with nothing
left, and whatever roll was read from any text is read back from its own text. -/
theorem parse_text_inverse :
    (∀ roll : Roll, roll.Writable → Roll.parse roll.text = .ok ⟨roll, []⟩) ∧
    (∀ text reading, Roll.parse text = .ok reading →
      Roll.parse reading.value.text = .ok ⟨reading.value, []⟩) := by
  refine ⟨fun roll => parse_text, ?_⟩
  intro text reading h
  obtain ⟨spelling, -, hroll⟩ := exists_divides_of_parse h
  exact parse_text (hroll ▸ spelling.writable)

/-- The smallest and the largest number are read back, and another spelling becomes the written one. -/
theorem parse_text_inverse_bounds :
    Roll.parse "0d18446744073709551615 l0 e7".toList =
      .ok ⟨⟨⟨0, 18446744073709551615⟩, [⟨.keepLower, 0⟩, ⟨.explode, 7⟩]⟩, []⟩ ∧
    Roll.parse "4d6 k1".toList = .ok ⟨⟨⟨4, 6⟩, [⟨.keep, 1⟩]⟩, []⟩ :=
  ⟨parse_text_inverse.1 ⟨⟨0, 18446744073709551615⟩, [⟨.keepLower, 0⟩, ⟨.explode, 7⟩]⟩
    ⟨by decide, by decide, by decide⟩,
    parse_text_inverse.2 " 4D06\tK1 x!".toList ⟨⟨⟨4, 6⟩, [⟨.keep, 1⟩]⟩, " x!".toList⟩ (by decide +kernel)⟩

end Tabletop
