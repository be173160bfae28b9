import Tabletop.Settings.Bindings

/-!
# Files of environment variables

A file holds one assignment `NAME=value` per line, besides comments and blank lines. Names and values
may be quoted, and a quoted value may span lines. A line that cannot be read is skipped. Values may
refer to variables that are defined in the environment or earlier in the file.
-/

namespace Tabletop.EnvFile

/-- A part of the file and the rest after it, or the rest from where reading failed. -/
abbrev Part (α : Type) := Except Text (α × Text)

/-- An assignment, or a name that stands alone without a value. -/
structure Entry where
  name : Text
  value : Option Text
  deriving DecidableEq

/-- Drop a byte order mark in front of the file. -/
def dropByteOrderMark : Text → Text
  | '\ufeff' :: rest => rest
  | text => text

/-- Write every line end as a single line feed. -/
def unifyLineEnds : Text → Text
  | '\r' :: '\n' :: rest => '\n' :: unifyLineEnds rest
  | '\r' :: rest => '\n' :: unifyLineEnds rest
  | c :: rest => c :: unifyLineEnds rest
  | [] => []

/-- White space within a line. -/
def isInlineSpace (c : Char) : Bool := Text.isWhiteSpace c && c != '\n'

/-- Drop the white space up to the next text of the line. -/
def skipInline (text : Text) : Text := text.dropWhile isInlineSpace

/-- Drop the rest of the line without its end. -/
def skipToLineEnd (text : Text) : Text := text.dropWhile (· != '\n')

/-- Drop the rest of the line with its end. -/
def skipLine (text : Text) : Text := (skipToLineEnd text).drop 1

/-- Drop the word `export` in front of a name. -/
def skipExport (text : Text) : Text :=
  match text with
  | 'e' :: 'x' :: 'p' :: 'o' :: 'r' :: 't' :: c :: rest => if isInlineSpace c then skipInline rest else text
  | _ => text

/-- Read the name at the start of a line. A comment takes the place of a name. -/
def readName (text : Text) : Part (Option Text) :=
  match text with
  | '#' :: _ => .ok (none, text)
  | '\'' :: rest =>
    let name := rest.takeWhile (· != '\'')
    match rest.dropWhile (· != '\'') with
    | _ :: after => if name.isEmpty then .error text else .ok (some name, after)
    | [] => .error text
  | _ =>
    let belongs := fun c => c != '=' && c != '#' && !Text.isWhiteSpace c
    let name := text.takeWhile belongs
    if name.isEmpty then .error text else .ok (some name, text.dropWhile belongs)

/-- Split a text at the first mark, passing over every backslash together with the character after it. -/
def splitAtMark? (mark : Char) : Text → Option (Text × Text)
  | [] => none
  | [c] => if c == mark then some ([], []) else none
  | c :: d :: rest =>
    if c == mark then some ([], d :: rest)
    else if c == '\\' then (splitAtMark? mark rest).map fun (value, after) => (c :: d :: value, after)
    else (splitAtMark? mark (d :: rest)).map fun (value, after) => (c :: value, after)

/-- What a backslash and a character stand for between single quotes. -/
def singleEscape? : Char → Option Char
  | '\\' => some '\\'
  | '\'' => some '\''
  | _ => none

/-- What a backslash and a character stand for between double quotes. -/
def doubleEscape? : Char → Option Char
  | '\\' => some '\\'
  | '\'' => some '\''
  | '"' => some '"'
  | 'a' => some '\x07'
  | 'b' => some '\x08'
  | 'f' => some '\x0c'
  | 'n' => some '\n'
  | 'r' => some '\r'
  | 't' => some '\t'
  | 'v' => some '\x0b'
  | _ => none

/-- Replace escapes by what they stand for. -/
def unescape (escape? : Char → Option Char) : Text → Text
  | [] => []
  | [c] => [c]
  | c :: d :: rest =>
    if c == '\\' then
      match escape? d with
      | some e => e :: unescape escape? rest
      | none => c :: unescape escape? (d :: rest)
    else c :: unescape escape? (d :: rest)

/-- Read a value up to its closing mark. -/
def readQuoted (mark : Char) (escape? : Char → Option Char) (text rest : Text) : Part Text :=
  match splitAtMark? mark rest with
  | some (value, after) => .ok (unescape escape? value, after)
  | none => .error text

/-- Cut off a comment, which has white space in front of it. -/
def cutComment : Text → Text
  | [] => []
  | c :: rest =>
    if Text.isWhiteSpace c && rest.head? == some '#' then [] else c :: cutComment rest

/-- Read a value in either kind of quotes after optional white space, or without quotes up to a comment
or the end of the line. -/
def readValue (text : Text) : Part Text :=
  match skipInline text with
  | '\'' :: rest => readQuoted '\'' singleEscape? ('\'' :: rest) rest
  | '"' :: rest => readQuoted '"' doubleEscape? ('"' :: rest) rest
  | _ => .ok (Text.trim (cutComment (text.takeWhile (· != '\n'))), skipToLineEnd text)

/-- Read the value after an equals sign, if there is one. -/
def readAssigned (text : Text) : Part (Option Text) :=
  match text with
  | '=' :: rest => (readValue rest).map fun (value, after) => (some value, after)
  | _ => .ok (none, text)

/-- Drop a comment, if one comes next in the line. -/
def skipComment (text : Text) : Text :=
  if (skipInline text).head? == some '#' then skipToLineEnd text else text

/-- Read the end of a line or of the file. -/
def readLineEnd (text : Text) : Part Unit :=
  match skipInline text with
  | [] => .ok ((), [])
  | '\n' :: rest => .ok ((), rest)
  | _ => .error text

/-- Read one entry with its line end, from the start of its first line. -/
def readEntry (text : Text) : Except Text (Option Entry × Text) := do
  let (name, text) ← readName (skipExport text)
  let (value, text) ← readAssigned (skipInline text)
  let ((), text) ← readLineEnd (skipComment text)
  return (name.map fun name => ⟨name, value⟩, text)

/-- Read entries to the end of the file, skipping lines that cannot be read. -/
def entries (text : Text) : List Entry :=
  match text.dropWhile Text.isWhiteSpace with
  | [] => []
  | c :: rest =>
    let (entry, after) :=
      match readEntry (c :: rest) with
      | .ok (entry, after) => (entry, after)
      | .error after => (none, skipLine after)
    if after.length < text.length then entry.toList ++ entries after else entry.toList
termination_by text.length

/-- The end of a reference to a variable: the default after `:-`, if any, and the text behind. -/
def referenceEnd? : Text → Option (Option Text × Text)
  | '\x7d' :: after => some (none, after)
  | ':' :: '-' :: rest =>
    match rest.dropWhile (· != '\x7d') with
    | _ :: after => some (some (rest.takeWhile (· != '\x7d')), after)
    | [] => none
  | _ => none

/-- Replace references to variables by their values. A variable without a value counts as empty, and
one that is not defined counts as its default. -/
def expand (known : Bindings (Option Text)) : Text → Text
  | [] => []
  | '$' :: '\x7b' :: rest =>
    let belongs := fun c => c != '\x7d' && c != ':'
    match referenceEnd? (rest.dropWhile belongs) with
    | some (default, after) =>
      let value :=
        match known.lookup (rest.takeWhile belongs) with
        | some value => value.getD []
        | none => default.getD []
      if after.length < rest.length then value ++ expand known after else value
    | none => '$' :: expand known ('\x7b' :: rest)
  | c :: rest => c :: expand known rest
termination_by text => text.length

/-- The entries of a file, however its lines end. -/
def linesOf (text : Text) : List Entry := entries (unifyLineEnds (dropByteOrderMark text))

/-- The variables that a reference may mean. What the file defines hides the environment. -/
def scope (environment : Bindings Text) (defined : Bindings (Option Text)) : Bindings (Option Text) :=
  defined ++ environment.map fun (name, value) => (name, some value)

/-- The bindings that lines make, one after the other. Each value is expanded with what is defined by
then. -/
def define (expand : Bindings (Option Text) → Text → Text) (environment : Bindings Text)
    (lines : List Entry) : Bindings (Option Text) :=
  lines.foldl (fun defined line =>
    Bindings.put line.name (line.value.map (expand (scope environment defined))) defined) []

end Tabletop.EnvFile
