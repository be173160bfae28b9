import Tabletop.Notation.Basic
import Tabletop.Notation.Number

/-!
# Reading a roll

A roll is a count, the letter `d` or `D`, a number of sides and any number of modifiers, each part
after optional blanks. Reading ends in front of the first text that cannot be a modifier and leaves
it, with its blanks, as the remainder. A letter with a number after it always counts as a modifier,
and a known letter needs a number.
-/

namespace Tabletop

/-- Read the letter between the count and the sides. -/
def readSeparator (text : Text) : Except Stop Text :=
  match Text.skipBlanks text with
  | 'd' :: rest => .ok rest
  | 'D' :: rest => .ok rest
  | _ => .error ⟨.missingSeparator, text⟩

/-- Read a count, the separator and a number of sides. -/
def readDice (text : Text) : Except Stop (Reading DiceTerm) := do
  let count ← readNumber text
  let rest ← readSeparator count.remainder
  let sides ← readNumber rest
  return ⟨⟨count.value, sides.value⟩, sides.remainder⟩

/-- Does a number come next, after optional blanks? -/
def numberAhead (text : Text) : Bool :=
  (Text.skipBlanks text).head?.any Char.isDigit

/-- Read one modifier, if the text starts one. -/
def readModifier (text : Text) : Except Stop (Option (Reading Modifier)) :=
  match Text.skipBlanks text with
  | [] => .ok none
  | c :: rest =>
    match ModifierKind.ofLetter? c with
    | some kind => do
      let number ← readNumber rest
      return some ⟨⟨kind, number.value⟩, number.remainder⟩
    | none =>
      if c.isAlpha && numberAhead rest then .error ⟨.unknownModifier c, c :: rest⟩ else .ok none

/-- Reading a modifier uses up part of the text. -/
theorem length_remainder_lt_of_readModifier {text : Text} {reading : Reading Modifier}
    (h : readModifier text = .ok (some reading)) : reading.remainder.length < text.length := by
  have hblanks := Text.length_skipBlanks_le text
  simp only [readModifier] at h
  split at h
  · simp at h
  · rename_i c rest hstart
    rw [hstart, List.length_cons] at hblanks
    split at h
    · cases hnumber : readNumber rest with
      | error stop => simp [hnumber, bind, Except.bind] at h
      | ok number =>
        have hlt := length_remainder_lt_of_readNumber hnumber
        simp only [hnumber, bind, Except.bind, pure, Except.pure, Except.ok.injEq,
          Option.some.injEq] at h
        subst h
        simp only
        omega
    · split at h <;> simp at h

/-- Read modifiers for as long as the text starts one. -/
def readModifiers (text : Text) : Except Stop (Reading (List Modifier)) :=
  match h : readModifier text with
  | .error stop => .error stop
  | .ok none => .ok ⟨[], text⟩
  | .ok (some modifier) =>
    have := length_remainder_lt_of_readModifier h
    match readModifiers modifier.remainder with
    | .error stop => .error stop
    | .ok modifiers => .ok ⟨modifier.value :: modifiers.value, modifiers.remainder⟩
termination_by text.length

/-- Read dice and their modifiers. -/
def readRoll (text : Text) : Except Stop (Reading Roll) := do
  let dice ← readDice text
  let modifiers ← readModifiers dice.remainder
  return ⟨⟨dice.value, modifiers.value⟩, modifiers.remainder⟩

/-- Read a roll from the start of a text, which must not be blank. -/
def Roll.parse (text : Text) : Except ParseError (Reading Roll) :=
  if text.all Text.isWhiteSpace then .error ⟨.blankText, text, 0⟩
  else (readRoll text).mapError (Stop.locate text)

/-- The value of a reading that leaves nothing but white space. -/
def Reading.whole {α : Type} (reading : Reading α) (text : Text) (fault : Fault) : Except ParseError α :=
  if reading.remainder.all Text.isWhiteSpace then .ok reading.value
  else .error (Stop.locate text ⟨fault, reading.remainder⟩)

/-- Read a text that is a roll from end to end, white space aside. -/
def Roll.parseWhole (text : Text) : Except ParseError Roll := do
  let reading ← Roll.parse text
  reading.whole text .textAfterRoll

end Tabletop
