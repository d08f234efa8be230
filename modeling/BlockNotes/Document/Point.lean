/-!
# Points and ranges

A path leads from the root of a document to a node, by the index among the
children at each level.  A point is the path of a leaf and a byte offset in its
text.  Points are ordered as they stand in the document: by path, a shorter one
first, and then by offset.

A range runs from its anchor, where a selection was begun, to its focus, where
it ends.  Either may come first.
-/

namespace BlockNotes

/-- Indices from the root of a document to a node. -/
abbrev Path := List Nat

/-- A position: a leaf and a byte offset in its text. -/
structure Point where
  /-- The path of the leaf. -/
  path : Path
  /-- The byte offset in its text. -/
  offset : Nat
deriving DecidableEq, Repr, Inhabited

namespace Point

/-- One point stands before another. -/
protected def Before (p q : Point) : Prop :=
  p.path < q.path ∨ (p.path = q.path ∧ p.offset < q.offset)

instance : LT Point := ⟨Point.Before⟩

instance : LE Point := ⟨fun p q => ¬ q < p⟩

instance (p q : Point) : Decidable (p < q) :=
  inferInstanceAs (Decidable (_ ∨ _))

instance (p q : Point) : Decidable (p ≤ q) :=
  inferInstanceAs (Decidable (¬ _))

end Point

/-- A piece of a document between two points. -/
structure Range where
  /-- Where it was begun. -/
  anchor : Point
  /-- Where it ends. -/
  focus : Point
deriving DecidableEq, Repr, Inhabited

namespace Range

/-- The range from a point to itself. -/
def collapsed (p : Point) : Range := ⟨p, p⟩

/-- Whether both ends are the same point. -/
def isCollapsed (r : Range) : Bool :=
  decide (r.anchor = r.focus)

/-- The end that comes first. -/
def start (r : Range) : Point :=
  if r.anchor ≤ r.focus then r.anchor else r.focus

/-- The end that comes last. -/
def stop (r : Range) : Point :=
  if r.anchor ≤ r.focus then r.focus else r.anchor

/-- Whether the focus comes before the anchor. -/
def isBackward (r : Range) : Bool :=
  decide (r.focus < r.anchor)

end Range

example : (⟨[0], 5⟩ : Point) < ⟨[0, 0], 0⟩ ∧ (⟨[0, 0], 3⟩ : Point) < ⟨[0, 1], 0⟩ := by decide
example : (Range.start ⟨⟨[1, 0], 0⟩, ⟨[0, 0], 2⟩⟩).path = [0, 0] := by decide

end BlockNotes
