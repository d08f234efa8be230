import BlockNotes.Text.Basic
import BlockNotes.Text.NameSet

/-!
# Leaves

A leaf is a run of text with one set of marks.  The leaves of a block are
brought into a normal form: neighbours with equal marks are joined, empty
leaves go away, and one leaf is always left.

`Leaf.normalize` reads the leaves from left to right and keeps what it has in
reverse.  A new leaf is joined to the last one, or takes the place of an empty
last one, or is put after it.
-/

namespace BlockNotes

/-! ## Marks -/

/-- How a run of text is set. -/
inductive Mark where
  /-- Bold. -/
  | bold
  /-- Italic. -/
  | italic
  /-- Code within a line. -/
  | code
  /-- A link to an address. -/
  | link (url : String)
deriving DecidableEq, Repr

/-- A set of marks.  There may be several links. -/
structure Marks where
  /-- Whether the text is bold. -/
  bold : Bool := false
  /-- Whether the text is italic. -/
  italic : Bool := false
  /-- Whether the text is code. -/
  code : Bool := false
  /-- The addresses that the text links to. -/
  links : NameSet := ∅
deriving DecidableEq, Repr, Inhabited

namespace Marks

/-- The set with one more mark. -/
def insert (ms : Marks) : Mark → Marks
  | .bold => { ms with bold := true }
  | .italic => { ms with italic := true }
  | .code => { ms with code := true }
  | .link url => { ms with links := ms.links.insert url }

/-- The marks of a list. -/
def ofList (l : List Mark) : Marks :=
  l.foldl insert {}

/-- The marks in order: bold, italic, code, then the links by address. -/
def toList (ms : Marks) : List Mark :=
  (if ms.bold then [.bold] else []) ++ (if ms.italic then [.italic] else []) ++
    (if ms.code then [.code] else []) ++ ms.links.toList.map .link

end Marks

/-! ## Leaves -/

/-- A run of text with one set of marks. -/
structure Leaf where
  /-- The text. -/
  text : Text := []
  /-- Its marks. -/
  marks : Marks := {}
deriving DecidableEq, Repr, Inhabited

namespace Leaf

/-- A leaf without marks. -/
def ofText (t : Text) : Leaf := { text := t }

/-- The number of bytes of the text. -/
def size (l : Leaf) : Nat := Text.bytes l.text

/-- The characters of leaves in order, each with its marks. -/
def marked (ls : List Leaf) : List (Char × Marks) :=
  ls.flatMap fun l => l.text.map fun c => (c, l.marks)

/-- Adds a leaf behind normal leaves, which are given last first. -/
def append : List Leaf → Leaf → List Leaf
  | [], l => [l]
  | p :: rest, l =>
    if p.marks = l.marks ∨ l.text = [] then { p with text := p.text ++ l.text } :: rest
    else if p.text = [] then l :: rest
    else l :: p :: rest

/-- The normal form of a list of leaves. -/
def normalize (ls : List Leaf) : List Leaf :=
  match ls.foldl append [] with
  | [] => [{}]
  | merged => merged.reverse

example : normalize [⟨['a'], {}⟩, ⟨[], { bold := true }⟩, ⟨['b'], {}⟩] = [⟨['a', 'b'], {}⟩] := by
  decide
example : normalize [] = [{}] := by decide

end Leaf

end BlockNotes
