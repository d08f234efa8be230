import BlockNotes.Toml.Token

/-!
# Reading TOML

A document is read token by token.  The reader holds the document as far as it
is known, the path of the header under which it stands, the arrays and tables
that are open within the current value, and what may come next.

Every statement takes one line.  Inside of an array or of a table in braces
there may be ends of line between the items, and a comma behind the last one.
-/

namespace BlockNotes

namespace TomlTable

/-! ## Keys -/

/-- A key that is being read: its names, and whether a name stands at its end. -/
structure KeyPath where
  /-- The names so far. -/
  names : List Text := []
  /-- Whether a name came last; otherwise a name has to follow. -/
  named : Bool := false
deriving DecidableEq, Repr

namespace KeyPath

/-- Whether a character may stand in a name without quotes. -/
def isNameChar (c : Char) : Bool :=
  c.isAlphanum || c = '_' || c = '-'

/-- Takes in a name. -/
def name? (k : KeyPath) (n : Text) : Option KeyPath :=
  if k.named then none else some ⟨k.names ++ [n], true⟩

/-- Takes in a dot. -/
def dot? (k : KeyPath) : Option KeyPath :=
  if k.named then some { k with named := false } else none

/-- Takes in what stands between two dots of a word, if anything does. -/
def bare? (k : KeyPath) (n : Text) : Option KeyPath :=
  if n = [] then some k else if n.all isNameChar then k.name? n else none

/-- Takes in a word, with the dots in it. -/
def word? (k : KeyPath) (t : Text) : Option KeyPath :=
  match t.split '.' with
  | [] => some k
  | first :: rest =>
    (k.bare? first).bind fun k => rest.foldlM (fun k n => k.dot?.bind fun k => k.bare? n) k

/-- Takes in a token that is part of a key. -/
def token? (k : KeyPath) : TomlToken → Option KeyPath
  | .word t => k.word? t
  | .string t false => k.name? t
  | _ => none

end KeyPath

/-! ## The reader -/

/-- What a key is read for. -/
inductive KeyUse where
  /-- For a value, on a line of its own. -/
  | line
  /-- For a value, inside of braces. -/
  | braces
  /-- For the header of a table. -/
  | header
  /-- For the header of a table in an array. -/
  | element
deriving DecidableEq, Repr

/-- An array or a table that is open. -/
inductive OpenValue where
  /-- An array, with its items last first. -/
  | array (items : List TomlValue)
  /-- A table, with the path of the key whose value is to come. -/
  | table (table : TomlTable) (path : List Text)

/-- What may come next. -/
inductive Expected where
  /-- A statement. -/
  | statement
  /-- A second bracket, or the key of a header. -/
  | bracket
  /-- More of a key, or what ends it. -/
  | key (use : KeyUse) (path : KeyPath)
  /-- The second bracket behind the header of a table in an array. -/
  | closing (path : List Text)
  /-- A value. -/
  | value
  /-- A value, or the end of an array. -/
  | item
  /-- A key, or the end of a table. -/
  | field
  /-- A comma, or the end of what is open. -/
  | comma
  /-- The end of the line. -/
  | lineEnd

/-- Where reading stands. -/
structure Reader where
  /-- The document so far. -/
  document : TomlTable := .empty .headed
  /-- The path of the last header. -/
  header : List Text := []
  /-- The path of the last key on a line of its own. -/
  path : List Text := []
  /-- The arrays and tables that are open, innermost first. -/
  stack : List OpenValue := []
  /-- What may come next. -/
  expected : Expected := .statement

/-- How many arrays and tables may be open at once. -/
def maxOpen : Nat := 80

namespace Reader

/-- Expects something else. -/
def expect (r : Reader) (e : Expected) : Reader :=
  { r with expected := e }

/-- Takes in a complete value. -/
def complete? (r : Reader) (stack : List OpenValue) (v : TomlValue) : Option Reader :=
  match stack with
  | [] =>
    (r.document.change? .implied (fun t => t.assign? r.path v) r.header).map fun document =>
      { r with document, stack := [], expected := .lineEnd }
  | .array items :: rest => some { r with stack := .array (v :: items) :: rest, expected := .comma }
  | .table t path :: rest =>
    (t.assign? path v).map fun t => { r with stack := .table t [] :: rest, expected := .comma }

/-- Opens an array or a table. -/
def enter? (r : Reader) (v : OpenValue) (e : Expected) : Option Reader :=
  if r.stack.length < maxOpen then some { r with stack := v :: r.stack, expected := e } else none

/-- Takes in a token that starts a value. -/
def begin? (r : Reader) : TomlToken → Option Reader
  | .string t _ => r.complete? r.stack (.string t)
  | .word t => (TomlWord.value? t).bind (r.complete? r.stack)
  | .openBracket => r.enter? (.array []) .item
  | .openBrace => r.enter? (.table (.empty .inline) []) .field
  | _ => none

/-- Closes the innermost array or table, if the token is the one for it. -/
def close? (r : Reader) (token : TomlToken) : Option Reader :=
  match r.stack, token with
  | .array items :: rest, .closeBracket => r.complete? rest (.array items.reverse)
  | .table t _ :: rest, .closeBrace => r.complete? rest (.table t)
  | _, _ => none

/-- Takes in what ends a key. -/
def endKey? (r : Reader) (use : KeyUse) (path : List Text) (token : TomlToken) : Option Reader :=
  match use, token, r.stack with
  | .line, .equals, _ => some { r with path, expected := .value }
  | .braces, .equals, .table t _ :: rest =>
    some { r with stack := .table t path :: rest, expected := .value }
  | .header, .closeBracket, _ =>
    (r.document.openTable? path).map fun document =>
      { r with document, header := path, expected := .lineEnd }
  | .element, .closeBracket, _ => some (r.expect (.closing path))
  | _, _, _ => none

/-- Takes in a token within a key or behind it. -/
def key? (r : Reader) (use : KeyUse) (path : KeyPath) (token : TomlToken) : Option Reader :=
  match path.token? token with
  | some path => some (r.expect (.key use path))
  | none => if path.named then r.endKey? use path.names token else none

/-- Takes in a token other than a blank or an end of line. -/
def sign? (r : Reader) (token : TomlToken) : Option Reader :=
  match r.expected with
  | .statement =>
    if token = .openBracket then some (r.expect .bracket) else r.key? .line {} token
  | .bracket =>
    if token = .openBracket then some (r.expect (.key .element {})) else r.key? .header {} token
  | .key use path => r.key? use path token
  | .closing path =>
    if token = .closeBracket then
      (r.document.openElement? path).map fun document =>
        { r with document, header := path, expected := .lineEnd }
    else none
  | .value => r.begin? token
  | .item => if token = .closeBracket then r.close? token else r.begin? token
  | .field => if token = .closeBrace then r.close? token else r.key? .braces {} token
  | .comma =>
    match token, r.stack with
    | .comma, .array _ :: _ => some (r.expect .item)
    | .comma, .table _ _ :: _ => some (r.expect .field)
    | _, _ => r.close? token
  | .lineEnd => none

/-- Takes in a token. -/
def step? (r : Reader) (token : TomlToken) : Option Reader :=
  match token with
  | .blank _ =>
    match r.expected with
    | .bracket => some (r.expect (.key .header {}))
    | .closing _ => none
    | _ => some r
  | .newline =>
    match r.expected with
    | .statement | .item | .field | .comma => some r
    | .lineEnd => some (r.expect .statement)
    | _ => none
  | _ => r.sign? token

end Reader

/-- The document that tokens write. -/
def ofTokens? (tokens : List TomlToken) : Option TomlTable :=
  (tokens.foldlM Reader.step? {}).bind fun r =>
    match r.expected with
    | .statement | .lineEnd => some r.document
    | _ => none

/-- The document that a text writes.  A byte order mark in front of it is passed over. -/
def ofText? (t : Text) : Option TomlTable :=
  let t := match t with
    | '\ufeff' :: rest => rest
    | t => t
  (TomlToken.scan? t).bind fun tokens => ofTokens? (TomlToken.joinDates tokens)

end TomlTable

end BlockNotes
