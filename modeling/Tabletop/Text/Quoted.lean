import Tabletop.Text.Printable

/-!
# Quoted texts

A text shown between quotation marks on one line: single marks, or double ones around a text that
holds a single mark and no double one. Printable characters stand for themselves, the others are
escaped by name or by code point.
-/

namespace Tabletop.Text

/-- Write a number in base sixteen with at least the given number of digits. -/
def hexDigits (width n : Nat) : Text :=
  let digits := Nat.toDigits 16 n
  List.replicate (width - digits.length) '0' ++ digits

/-- One character as it is shown inside the given quotation marks. -/
def escaped (mark c : Char) : Text :=
  if c == mark || c == '\\' then ['\\', c]
  else if c == '\n' then ['\\', 'n']
  else if c == '\r' then ['\\', 'r']
  else if c == '\t' then ['\\', 't']
  else if isPrintable c then [c]
  else if c.toNat < 0x100 then '\\' :: 'x' :: hexDigits 2 c.toNat
  else if c.toNat < 0x10000 then '\\' :: 'u' :: hexDigits 4 c.toNat
  else '\\' :: 'U' :: hexDigits 8 c.toNat

/-- The quotation mark that needs the fewest escapes, a single one where both do. -/
def quotationMark (text : Text) : Char :=
  if text.contains '\'' && !text.contains '"' then '"' else '\''

/-- A text between quotation marks. -/
def quoted (text : Text) : Text :=
  let mark := quotationMark text
  mark :: text.flatMap (escaped mark) ++ [mark]

end Tabletop.Text
