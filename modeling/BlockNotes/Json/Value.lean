import BlockNotes.Json.Number

/-!
# JSON

The written form of a value goes through tokens, in both directions.  Writing
turns a value into tokens and each token into text; reading scans a text into
tokens, which a stack machine puts together again.

The machine knows which kind of token it may see next and keeps the open
arrays and objects on a stack.  More than `maxOpen` of them are refused.
-/

namespace BlockNotes

mutual

/-- A JSON value.  The value of a number is of no use here and is not kept. -/
inductive JsonValue where
  /-- `null` -/
  | null
  /-- A truth value. -/
  | bool (value : Bool)
  /-- A number. -/
  | number
  /-- A string. -/
  | string (value : Text)
  /-- An array. -/
  | array (items : List JsonValue)
  /-- An object, with its fields in order; names may repeat. -/
  | object (fields : List JsonField)

/-- A field of an object. -/
structure JsonField where
  /-- The name. -/
  name : Text
  /-- The value. -/
  value : JsonValue

end

deriving instance Repr for JsonValue, JsonField

instance : Inhabited JsonValue := ⟨.null⟩

/-- A token of the written form. -/
inductive JsonToken where
  /-- `[` -/
  | openArray
  /-- `]` -/
  | closeArray
  /-- An opening brace. -/
  | openObject
  /-- A closing brace. -/
  | closeObject
  /-- `:` -/
  | colon
  /-- `,` -/
  | comma
  /-- `null` -/
  | null
  /-- `true` or `false` -/
  | bool (value : Bool)
  /-- A number. -/
  | number
  /-- A string. -/
  | string (value : Text)
deriving DecidableEq, Repr

/-! ## Writing -/

namespace JsonToken

/-- A digit of a number below sixteen. -/
def hexDigit (n : Nat) : Char :=
  if n < 10 then Char.ofNat ('0'.toNat + n) else Char.ofNat ('a'.toNat + n - 10)

/-- A character as it stands in a string. -/
def escape (c : Char) : Text :=
  if c = '"' then ['\\', '"']
  else if c = '\\' then ['\\', '\\']
  else if c = '\x08' then ['\\', 'b']
  else if c = '\x0c' then ['\\', 'f']
  else if c = '\n' then ['\\', 'n']
  else if c = '\r' then ['\\', 'r']
  else if c = '\t' then ['\\', 't']
  else if c.toNat < 0x20 then
    ['\\', 'u', '0', '0', hexDigit (c.toNat / 16), hexDigit (c.toNat % 16)]
  else [c]

/-- A token as text. -/
def write : JsonToken → Text
  | openArray => ['[']
  | closeArray => [']']
  | openObject => ['\x7b']
  | closeObject => ['\x7d']
  | colon => [':']
  | comma => [',']
  | null => ['n', 'u', 'l', 'l']
  | bool true => ['t', 'r', 'u', 'e']
  | bool false => ['f', 'a', 'l', 's', 'e']
  | number => ['0']
  | string t => '"' :: (t.flatMap escape ++ ['"'])

end JsonToken

mutual

/-- The tokens of a value. -/
def JsonValue.tokens : JsonValue → List JsonToken
  | .null => [.null]
  | .bool b => [.bool b]
  | .number => [.number]
  | .string t => [.string t]
  | .array items => .openArray :: JsonValue.itemTokens true items
  | .object fields => .openObject :: JsonValue.fieldTokens true fields

/-- The tokens of items and the closing bracket; a comma stands before each but the first. -/
def JsonValue.itemTokens (first : Bool) : List JsonValue → List JsonToken
  | [] => [.closeArray]
  | v :: rest =>
    (if first then [] else [.comma]) ++ v.tokens ++ JsonValue.itemTokens false rest

/-- The tokens of fields and the closing brace; a comma stands before each but the first. -/
def JsonValue.fieldTokens (first : Bool) : List JsonField → List JsonToken
  | [] => [.closeObject]
  | ⟨name, v⟩ :: rest =>
    (if first then [] else [.comma]) ++ .string name :: .colon :: v.tokens ++
      JsonValue.fieldTokens false rest

end

/-- A value as text, without blanks. -/
def JsonValue.write (v : JsonValue) : Text :=
  v.tokens.flatMap JsonToken.write

/-! ## Scanning -/

namespace JsonToken

/-- The value of a hexadecimal digit. -/
def hexValue? (c : Char) : Option Nat :=
  if '0' ≤ c ∧ c ≤ '9' then some (c.toNat - '0'.toNat)
  else if 'a' ≤ c ∧ c ≤ 'f' then some (c.toNat - 'a'.toNat + 10)
  else if 'A' ≤ c ∧ c ≤ 'F' then some (c.toNat - 'A'.toNat + 10)
  else none

/-- The number that four hexadecimal digits write. -/
def hex4? (a b c d : Char) : Option Nat := do
  let a ← hexValue? a
  let b ← hexValue? b
  let c ← hexValue? c
  let d ← hexValue? d
  some (((a * 16 + b) * 16 + c) * 16 + d)

/-- The character that stands for another one after a backslash. -/
def unescape? (c : Char) : Option Char :=
  match c with
  | '"' => some '"'
  | '\\' => some '\\'
  | '/' => some '/'
  | 'b' => some '\x08'
  | 'f' => some '\x0c'
  | 'n' => some '\n'
  | 'r' => some '\r'
  | 't' => some '\t'
  | _ => none

/-- The rest of a string with one more character in front. -/
def cons (c : Char) (r : Option (Text × Text)) : Option (Text × Text) :=
  r.map fun (t, rest) => (c :: t, rest)

/-- The character of a pair of surrogates. -/
def ofSurrogates (high low : Nat) : Char :=
  Char.ofNat (0x10000 + (high - 0xd800) * 0x400 + (low - 0xdc00))

/-- Reads a string, after its opening quote: its characters and what stands behind it. -/
def scanString? : Text → Option (Text × Text)
  | [] => none
  | ['\\'] => none
  | '"' :: rest => some ([], rest)
  | '\\' :: 'u' :: a :: b :: c :: d :: rest =>
    match hex4? a b c d with
    | none => none
    | some n =>
      if n < 0xd800 ∨ 0xdfff < n then cons (Char.ofNat n) (scanString? rest)
      else if 0xdc00 ≤ n then none
      else match rest with
        | '\\' :: 'u' :: e :: f :: g :: h :: rest =>
          match hex4? e f g h with
          | none => none
          | some m =>
            if 0xdc00 ≤ m ∧ m ≤ 0xdfff then cons (ofSurrogates n m) (scanString? rest) else none
        | _ => none
  | '\\' :: c :: rest =>
    match unescape? c with
    | none => none
    | some c => cons c (scanString? rest)
  | c :: rest => if c.toNat < 0x20 then none else cons c (scanString? rest)

theorem length_of_cons {c : Char} {r : Option (Text × Text)} {s rest : Text}
    (h : cons c r = some (s, rest)) : ∃ s', r = some (s', rest) := by
  simp only [cons, Option.map_eq_some_iff, Prod.mk.injEq, Prod.exists] at h
  obtain ⟨s', rest', h, -, rfl⟩ := h
  exact ⟨s', h⟩

/-- What stands behind a string is shorter. -/
theorem length_scanString? {t s rest : Text} (h : scanString? t = some (s, rest)) :
    rest.length < t.length := by
  fun_induction scanString? t generalizing s rest with
  | case1 | case2 => cases h
  | case3 => cases h; simp
  | case4 | case6 | case7 | case9 | case10 => cases h
  | case5 a b c d t n hn hr ih =>
    obtain ⟨s', h⟩ := length_of_cons h
    have := ih h
    simp only [List.length_cons]
    omega
  | case8 a b c d n hn hr hl e f g i t m hm hr' ih =>
    obtain ⟨s', h⟩ := length_of_cons h
    have := ih h
    simp only [List.length_cons]
    omega
  | case11 => cases h
  | case12 c t _ c' hc ih =>
    obtain ⟨s', h⟩ := length_of_cons h
    have := ih h
    simp only [List.length_cons]
    omega
  | case13 => cases h
  | case14 c t _ _ _ _ _ ih =>
    obtain ⟨s', h⟩ := length_of_cons h
    have := ih h
    simp only [List.length_cons]
    omega

/-- The token of one character, if it has one. -/
def ofSign? (c : Char) : Option JsonToken :=
  match c with
  | '[' => some openArray
  | ']' => some closeArray
  | '\x7b' => some openObject
  | '\x7d' => some closeObject
  | ':' => some colon
  | ',' => some comma
  | _ => none

/-- Whether a character may stand between tokens. -/
def isSpace (c : Char) : Bool :=
  c = ' ' || c = '\n' || c = '\t' || c = '\r'

/-- The tokens of a text, if it consists of tokens. -/
def scan? : Text → Option (List JsonToken)
  | [] => some []
  | 'n' :: 'u' :: 'l' :: 'l' :: rest => (scan? rest).map (null :: ·)
  | 't' :: 'r' :: 'u' :: 'e' :: rest => (scan? rest).map (bool true :: ·)
  | 'f' :: 'a' :: 'l' :: 's' :: 'e' :: rest => (scan? rest).map (bool false :: ·)
  | c :: t =>
    if isSpace c then scan? t
    else match ofSign? c with
      | some sign => (scan? t).map (sign :: ·)
      | none =>
        if c = '"' then
          match h : scanString? t with
          | none => none
          | some (s, rest) =>
            have := length_scanString? h
            (scan? rest).map (string s :: ·)
        else
          match h : JsonNumber.scan? (c :: t) with
          | none => none
          | some rest =>
            have := JsonNumber.length_scan? h
            (scan? rest).map (number :: ·)
termination_by t => t.length
decreasing_by all_goals simp_all <;> omega

end JsonToken

/-! ## Reading -/

namespace JsonValue

/-- An array or object that is open. -/
inductive OpenValue where
  /-- An array, with its items last first. -/
  | array (items : List JsonValue)
  /-- An object, with its fields last first and the name whose value is to come. -/
  | object (fields : List JsonField) (name : Text)

/-- What may come next. -/
inductive Expected where
  /-- A value. -/
  | value
  /-- A value, or the end of an array. -/
  | valueOrEnd
  /-- A name. -/
  | name
  /-- A name, or the end of an object. -/
  | nameOrEnd
  /-- The colon after a name. -/
  | colon
  /-- A comma, or the end of what is open. -/
  | commaOrEnd
  /-- Nothing more: the value is complete. -/
  | nothing (value : JsonValue)

/-- Where reading stands: what is open, innermost first, and what may come next. -/
structure Reader where
  /-- The open arrays and objects. -/
  stack : List OpenValue
  /-- What may come next. -/
  expected : Expected

/-- How many arrays and objects may be open at once. -/
def maxOpen : Nat := 127

namespace Reader

/-- Takes in a complete value. -/
def complete (stack : List OpenValue) (v : JsonValue) : Reader :=
  match stack with
  | [] => ⟨[], .nothing v⟩
  | .array items :: rest => ⟨.array (v :: items) :: rest, .commaOrEnd⟩
  | .object fields name :: rest => ⟨.object (⟨name, v⟩ :: fields) [] :: rest, .commaOrEnd⟩

/-- Opens an array or object. -/
def enter? (stack : List OpenValue) (v : OpenValue) (expected : Expected) : Option Reader :=
  if stack.length < maxOpen then some ⟨v :: stack, expected⟩ else none

/-- Takes in a token that starts a value. -/
def begin? (stack : List OpenValue) : JsonToken → Option Reader
  | .null => some (complete stack .null)
  | .bool b => some (complete stack (.bool b))
  | .number => some (complete stack .number)
  | .string t => some (complete stack (.string t))
  | .openArray => enter? stack (.array []) .valueOrEnd
  | .openObject => enter? stack (.object [] []) .nameOrEnd
  | _ => none

/-- Closes the innermost array or object, if the token is the one for it. -/
def close? : List OpenValue → JsonToken → Option Reader
  | .array items :: rest, .closeArray => some (complete rest (.array items.reverse))
  | .object fields _ :: rest, .closeObject => some (complete rest (.object fields.reverse))
  | _, _ => none

/-- Takes in a token. -/
def step? (r : Reader) (t : JsonToken) : Option Reader :=
  match r.expected with
  | .value => begin? r.stack t
  | .valueOrEnd => if t = .closeArray then close? r.stack t else begin? r.stack t
  | .name | .nameOrEnd =>
    match t, r.stack with
    | .string name, .object fields _ :: rest => some ⟨.object fields name :: rest, .colon⟩
    | .closeObject, _ =>
      match r.expected with
      | .nameOrEnd => close? r.stack t
      | _ => none
    | _, _ => none
  | .colon => if t = .colon then some ⟨r.stack, .value⟩ else none
  | .commaOrEnd =>
    match t, r.stack with
    | .comma, .array _ :: _ => some ⟨r.stack, .value⟩
    | .comma, .object _ _ :: _ => some ⟨r.stack, .name⟩
    | _, _ => close? r.stack t
  | .nothing _ => none

end Reader

/-- The value that tokens write. -/
def ofTokens? (ts : List JsonToken) : Option JsonValue :=
  match ts.foldlM Reader.step? ⟨[], .value⟩ with
  | some ⟨_, .nothing v⟩ => some v
  | _ => none

/-- The value that a text writes. -/
def ofText? (t : Text) : Option JsonValue :=
  (JsonToken.scan? t).bind ofTokens?

end JsonValue

example : (JsonToken.scan? "\"a\\ud83d\\ude00\"".toList) = some [.string ['a', '😀']] := by
  cbv
example : (JsonToken.scanString? "\\ud83d\"".toList) = none := by cbv

end BlockNotes
