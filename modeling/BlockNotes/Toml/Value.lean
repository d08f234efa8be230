import BlockNotes.Text.Basic

/-!
# Values in TOML

A TOML document is a table.  It is built up statement by statement, and whether
a statement may still add to a table depends on how the table came about:

* the path of a header or of a key makes the tables that are missing on the way;
* a header makes a table whose keys follow, once, and it may take over a table
  that so far was only on the way of another header;
* a key with dots may add only to tables that such keys have made;
* a table written in one piece is complete, and so is an array written so.

`TomlTable.change?` follows a path under these rules and changes the table at
its end.  Numbers with a point and dates are not looked at by anybody, so their
values are not kept.
-/

namespace BlockNotes

/-- How a table came about. -/
inductive TableForm where
  /-- On the way of a header. -/
  | implied
  /-- On the way of a key with dots. -/
  | dotted
  /-- By a header of its own; also the document itself. -/
  | headed
  /-- In one piece. -/
  | inline
deriving DecidableEq, Repr, Inhabited

mutual

/-- A value. -/
inductive TomlValue where
  /-- A string. -/
  | string (text : Text)
  /-- A whole number. -/
  | integer (value : Int)
  /-- A number with a point or an exponent, or one of the special ones. -/
  | float
  /-- A truth value. -/
  | bool (value : Bool)
  /-- A date, a time, or both. -/
  | dateTime
  /-- An array that was written in one piece. -/
  | array (items : List TomlValue)
  /-- An array of tables with headers. -/
  | tables (items : List TomlTable)
  /-- A table. -/
  | table (table : TomlTable)

/-- A table. -/
structure TomlTable where
  /-- How it came about. -/
  form : TableForm
  /-- Its fields, each name once. -/
  fields : List TomlField

/-- A field of a table. -/
structure TomlField where
  /-- The name. -/
  name : Text
  /-- The value. -/
  value : TomlValue

end

deriving instance Repr for TomlValue, TomlTable, TomlField

instance : Inhabited TomlValue := ⟨.float⟩

instance : Inhabited TomlTable := ⟨⟨.headed, []⟩⟩

namespace TomlTable

/-- A table without fields. -/
def empty (form : TableForm) : TomlTable := ⟨form, []⟩

/-- The value of a name. -/
def find? (t : TomlTable) (name : Text) : Option TomlValue :=
  (t.fields.find? fun f => f.name == name).map TomlField.value

/-- Puts in a value, in place of the one of its name. -/
def put (t : TomlTable) (name : Text) (v : TomlValue) : TomlTable :=
  if (t.find? name).isSome then
    { t with fields := t.fields.map fun f => if f.name = name then ⟨name, v⟩ else f }
  else { t with fields := t.fields ++ [⟨name, v⟩] }

/-! ## Following paths -/

/-- Whether a path of a form may lead into a table. -/
def isOpenFor (t : TomlTable) (form : TableForm) : Bool :=
  match t.form with
  | .inline => false
  | .headed => form ≠ .dotted
  | .implied | .dotted => true

/-- Changes the table that a path leads to.  Tables that are missing get the form of the path. -/
def change? (form : TableForm) (f : TomlTable → Option TomlTable) :
    (path : List Text) → TomlTable → Option TomlTable
  | [], t => f t
  | name :: rest, t =>
    match t.find? name with
    | none => (change? form f rest (empty form)).map fun u => t.put name (.table u)
    | some (.table u) =>
      if u.isOpenFor form then (change? form f rest u).map fun u => t.put name (.table u)
      else none
    | some (.tables us) =>
      us.getLast?.bind fun u =>
        (change? form f rest u).map fun u => t.put name (.tables (us.dropLast ++ [u]))
    | some _ => none

/-- A path in two: the way to a table, and the last name. -/
def splitPath? (path : List Text) : Option (List Text × Text) :=
  path.getLast?.map fun name => (path.dropLast, name)

/-- Takes in a key with its value. -/
def assign? (t : TomlTable) (path : List Text) (v : TomlValue) : Option TomlTable :=
  (splitPath? path).bind fun (way, name) =>
    t.change? .dotted (fun u =>
      if way ≠ [] ∧ u.form ≠ .dotted then none
      else if (u.find? name).isSome then none
      else some (u.put name v)) way

/-- Takes in the header of a table. -/
def openTable? (t : TomlTable) (path : List Text) : Option TomlTable :=
  (splitPath? path).bind fun (way, name) =>
    t.change? .implied (fun u =>
      match u.find? name with
      | none => some (u.put name (.table (empty .headed)))
      | some (.table v) =>
        if v.form = .implied then some (u.put name (.table { v with form := .headed })) else none
      | some _ => none) way

/-- Takes in the header of a table in an array. -/
def openElement? (t : TomlTable) (path : List Text) : Option TomlTable :=
  (splitPath? path).bind fun (way, name) =>
    t.change? .implied (fun u =>
      match u.find? name with
      | none => some (u.put name (.tables [empty .headed]))
      | some (.tables vs) => some (u.put name (.tables (vs ++ [empty .headed])))
      | some _ => none) way

end TomlTable

end BlockNotes
