import BlockNotes.Text.Basic

/-!
# Writing TOML

A string is written in the first form that fits: between quotes if it has none
and no backslash, between apostrophes if it has none of those, and else between
three quotes or three apostrophes.  What has characters that cannot stand in a
string as they are is written between quotes with escapes.

An array with less than two items stays on its line, and a longer one has a line
for each item.
-/

namespace BlockNotes.TomlWriter

/-- The longest run of a character. -/
def longestRun (c : Char) (t : Text) : Nat :=
  let runs := t.foldl (fun (longest, now) d =>
    if d = c then (max longest (now + 1), now + 1) else (longest, 0)) (0, 0)
  runs.1

/-- Whether a character cannot stand in a string as it is, an end of line aside. -/
def needsCode (c : Char) : Bool :=
  c ≠ '\t' && c ≠ '\n' && (c.toNat < 0x20 || c = '\x7f')

/-! ## Strings -/

/-- How a string is written. -/
inductive StringForm where
  /-- Between quotes, with escapes. -/
  | basic
  /-- Between apostrophes. -/
  | literal
  /-- Between three quotes, with escapes. -/
  | longBasic
  /-- Between three apostrophes. -/
  | longLiteral
deriving DecidableEq, Repr

/-- The form in which a string is written. -/
def formOf (t : Text) : StringForm :=
  let coded := t.any needsCode
  let quotes := longestRun '"' t
  let apostrophes := longestRun '\'' t
  let broken := t.any (· = '\n')
  let slashed := t.any (· = '\\')
  if !coded && !slashed && quotes = 0 && !broken then .basic
  else if !coded && apostrophes = 0 && !broken then .literal
  else if !coded && !slashed && quotes ≤ 2 then .longBasic
  else if !coded && apostrophes ≤ 2 then .longLiteral
  else if broken then .longBasic
  else .basic

/-- The hexadecimal digit of a number below 16. -/
def hexDigit (n : Nat) : Char :=
  if n < 10 then Char.ofNat ('0'.toNat + n) else Char.ofNat ('A'.toNat + (n - 10))

/-- A character other than a quote, as it is written between quotes. -/
def escape (long : Bool) (c : Char) : Text :=
  match c with
  | '\x08' => ['\\', 'b']
  | '\t' => ['\\', 't']
  | '\n' => if long then ['\n'] else ['\\', 'n']
  | '\x0c' => ['\\', 'f']
  | '\r' => ['\\', 'r']
  | '\\' => ['\\', '\\']
  | c =>
    if needsCode c then ['\\', 'u', '0', '0', hexDigit (c.toNat / 16), hexDigit (c.toNat % 16)]
    else [c]

/-- A text as it is written between quotes, of which so many may still follow each other. -/
def escaped (long : Bool) (free : Nat) : Text → Text
  | [] => []
  | c :: rest =>
    let most := if long then 2 else 0
    if c = '"' then
      match free with
      | 0 => '\\' :: '"' :: escaped long most rest
      | free + 1 => '"' :: escaped long free rest
    else escape long c ++ escaped long most rest

/-- A string. -/
def string (t : Text) : Text :=
  let start := if t.any (· = '\n') then ['\n'] else []
  match formOf t with
  | .basic => '"' :: escaped false 0 t ++ ['"']
  | .literal => '\'' :: t ++ ['\'']
  | .longBasic => ['"', '"', '"'] ++ start ++ escaped true 2 t ++ ['"', '"', '"']
  | .longLiteral => ['\'', '\'', '\''] ++ start ++ t ++ ['\'', '\'', '\'']

/-! ## Arrays and lines -/

/-- An array of strings. -/
def strings : List Text → Text
  | [] => ['[', ']']
  | [t] => '[' :: string t ++ [']']
  | ts =>
    ['[', '\n'] ++ ts.flatMap (fun t => [' ', ' ', ' ', ' '] ++ string t ++ [',', '\n']) ++ [']']

/-- A line with a name and a value. -/
def line (name : String) (value : Text) : Text :=
  name.toList ++ [' ', '=', ' '] ++ value ++ ['\n']

/-- A line with the header of a table. -/
def header (name : String) : Text :=
  '[' :: name.toList ++ [']', '\n']

example : string "it's".toList = "\"it's\"".toList := by decide
example : string "a\"b\\c".toList = "'a\"b\\c'".toList := by decide
example : string "'\"".toList = "\"\"\"'\"\"\"\"".toList := by decide
example : string "\x01\x7f".toList = "\"\\u0001\\u007F\"".toList := by decide

end BlockNotes.TomlWriter
