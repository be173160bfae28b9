/-!
# Texts

A text is a list of characters, so every length and position counts code points. This module
holds the kinds of space: the blanks that the dice notation allows between its parts, the characters
with the Unicode property White_Space, and the white space that may surround a text.
-/

namespace Tabletop

/-- A text, as the list of its characters. -/
abbrev Text := List Char

namespace Text

/-- A space or a tab, the only characters skipped between the parts of a notation. -/
def isBlank (c : Char) : Bool := c == ' ' || c == '\t'

/-- Drop the blanks in front of a text. -/
def skipBlanks (text : Text) : Text := text.dropWhile isBlank

/-- Does the code point lie in one of the closed ranges? -/
def inRanges (ranges : List (Nat × Nat)) (c : Char) : Bool :=
  ranges.any fun range => range.1 ≤ c.toNat && c.toNat ≤ range.2

/-- The characters with the Unicode property White_Space. -/
def spaceRanges : List (Nat × Nat) :=
  [(0x09, 0x0D), (0x20, 0x20), (0x85, 0x85), (0xA0, 0xA0), (0x1680, 0x1680), (0x2000, 0x200A),
   (0x2028, 0x2029), (0x202F, 0x202F), (0x205F, 0x205F), (0x3000, 0x3000)]

/-- A character with the Unicode property White_Space. -/
def isSpace (c : Char) : Bool := inRanges spaceRanges c

/-- White space of any script, which includes the four information separators. -/
def isWhiteSpace (c : Char) : Bool := isSpace c || (0x1C ≤ c.toNat && c.toNat ≤ 0x1F)

/-- Drop the characters of a class from the end of a text. -/
def dropEnd (drops : Char → Bool) (text : Text) : Text := (text.reverse.dropWhile drops).reverse

/-- Drop the characters of a class from both ends of a text. -/
def trimBy (drops : Char → Bool) (text : Text) : Text := dropEnd drops (text.dropWhile drops)

/-- Drop the white space around a text. -/
def trim (text : Text) : Text := trimBy isWhiteSpace text

/-- Texts one after the other, with a comma and a space between any two. -/
def commaSeparated (items : List Text) : Text := [',', ' '].intercalate items

/-- Skipping blanks never lengthens a text. -/
theorem length_skipBlanks_le (text : Text) : (skipBlanks text).length ≤ text.length :=
  (List.dropWhile_sublist isBlank).length_le

end Text

end Tabletop
