import Tabletop.Datum
import Tabletop.Settings.Error

/-!
# Values of settings

A limit is given as a whole number or as the text of one, and must be positive. A text may have white
space around it, a plus sign, leading zeros, single underscores between digits and a fraction of zeros.
A level is given by its exact name.
-/

namespace Tabletop

/-- Drop the zeros, and the underscores among them, in front of the first other digit or minus sign. The
last one stays if neither follows. Texts that do not start with a digit are refused. -/
def dropLeadingZeros? : Text → Option Text
  | [] => none
  | c :: rest => if c == '0' then afterZero c rest else if c.isDigit then some (c :: rest) else none
where
  /-- Go on after a zero or underscore. -/
  afterZero (last : Char) : Text → Option Text
    | [] => some [last]
    | c :: rest =>
      if c == '0' || c == '_' then afterZero c rest
      else if c.isDigit || c == '-' then some (c :: rest)
      else if c == '.' then some (last :: c :: rest)
      else none

/-- Drop leading zeros, behind the minus sign if the text starts with one. -/
def significant? : Text → Option Text
  | '-' :: rest => (dropLeadingZeros? rest).map ('-' :: ·)
  | text => dropLeadingZeros? text

/-- Drop a point and the zeros after it, of which there must be one at least. -/
def dropZeroFraction (text : Text) : Text :=
  let fraction := (text.dropWhile (· != '.')).drop 1
  if !fraction.isEmpty && fraction.all (· == '0') then text.takeWhile (· != '.') else text

/-- Drop underscores that stand alone between other characters. -/
def dropUnderscores? (text : Text) : Option Text :=
  let atEnd := text.head? == some '_' || text.getLast? == some '_'
  let doubled := (text.zip (text.drop 1)).any fun pair => pair.1 == '_' && pair.2 == '_'
  if atEnd || doubled then none else some (text.filter (· != '_'))

/-- Drop one plus sign in front, which must not be followed by a minus sign. -/
def dropPlus? : Text → Option Text
  | '+' :: '-' :: _ => none
  | '+' :: rest => some rest
  | text => some text

/-- The characters of a whole number without decoration: a minus sign, if any, and digits. -/
def plainWhole? (text : Text) : Option Text := do
  let unmarked ← dropPlus? (Text.trimBy Text.isSpace text)
  let significant ← significant? unmarked
  dropUnderscores? (dropZeroFraction significant)

/-- Does a run of digits write a number without leading zeros? -/
def isCanonical (digits : Text) : Bool :=
  !digits.isEmpty && digits.all Char.isDigit && (digits.head? != some '0' || digits.length == 1)

/-- Read a whole number without decoration. -/
def readWhole? : Text → Option Int
  | '-' :: digits => if isCanonical digits then some (-Decimal.value digits) else none
  | digits => if isCanonical digits then some (Decimal.value digits) else none

/-- The longest plain text that is read as a whole number. -/
def maxWholeLength : Nat := 4300

/-- The whole number that a text stands for. -/
def wholeOfText (text : Text) : Except Flaw Int :=
  let plain := (plainWhole? text).getD []
  match readWhole? plain with
  | none => .error .notWhole
  | some whole => if maxWholeLength < plain.length then .error .tooLong else .ok whole

/-- The whole number that a double stands for, within the range of 64-bit integers. -/
def wholeOfFloat (x : Float) : Except Flaw Int :=
  if x.isNaN || x.isInf then .error .infinite
  else if x.floor != x then .error .fractional
  else if x.abs < 9223372036854775808.0 then .ok x.toInt64.toInt
  else .error .tooLong

/-- The whole number that a value stands for. -/
def wholeOf : Datum → Except Flaw Int
  | .int n => .ok n
  | .bool value => .ok value.toInt
  | .float x => wholeOfFloat x
  | .text text => wholeOfText text
  | _ => .error .notNumeric

/-- The positive limit that a value stands for, as a whole number. -/
def limitOf (wholeOf : Datum → Except Flaw Int) (value : Datum) :
    Except Flaw { limit : Nat // 0 < limit } := do
  let whole ← wholeOf value
  if h : 0 < whole then return ⟨whole.toNat, by omega⟩ else throw .notPositive

/-- The level that a value names. -/
def levelOf : Datum → Except Flaw Level
  | .text name => (Level.ofName? name).elim (.error .unknownLevel) .ok
  | _ => .error .unknownLevel

end Tabletop
