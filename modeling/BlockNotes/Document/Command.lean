import BlockNotes.Document.Basic

/-!
# Commands and patches

All changes of a document are commands.  Text commands act at the selection,
structural ones at a path.  What a command did is told by a patch: whether the
content changed or only the selection, which blocks, and the selection and
version afterwards.
-/

namespace BlockNotes

/-- How much a backward deletion takes away. -/
inductive DeleteUnit where
  /-- One character. -/
  | character
  /-- A word with the blanks behind it. -/
  | word
  /-- To the start of the line. -/
  | line
deriving DecidableEq, Repr

/-- A change of a document. -/
inductive Command where
  /-- Puts text in the place of the selection. -/
  | insertText (text : Text)
  /-- Deletes an expanded selection, or backward from a collapsed one. -/
  | deleteBackward (unit : DeleteUnit)
  /-- Deletes everything between two points and joins the blocks at both ends. -/
  | deleteRange (range : Range)
  /-- Splits the block at the selection; the cursor goes to the new block. -/
  | splitBlock
  /-- Changes the kind of the block at a path. -/
  | setKind (path : Path) (kind : Kind)
  /-- Wraps the block at a path in a new one of a kind. -/
  | wrapBlock (path : Path) (kind : Kind)
  /-- Puts the children of the block at a path in its place. -/
  | unwrapBlock (path : Path)
  /-- Moves the block at a path out of its parent, which is split around it. -/
  | liftBlock (path : Path)
  /-- Inserts a block so that it stands at a path. -/
  | insertBlock (path : Path) (block : Block)
  /-- Removes the block at a path. -/
  | removeBlock (path : Path)
  /-- Moves the selection. -/
  | select (range : Range)
deriving Repr

/-- Whether a command can change the content. -/
def Command.editsContent : Command → Bool
  | .select _ => false
  | _ => true

/-- What a change was about. -/
inductive Origin where
  /-- Text or structure. -/
  | content
  /-- The selection alone. -/
  | selection
deriving DecidableEq, Repr

/-- What a command did. -/
structure Patch where
  /-- What the change was about. -/
  origin : Origin
  /-- The blocks that changed, in the order in which they were met. -/
  changed : List BlockId
  /-- The selection afterwards. -/
  selection : Option Range
  /-- The version afterwards. -/
  version : Nat
deriving DecidableEq, Repr

end BlockNotes
