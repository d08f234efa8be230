import BlockNotes.Document.Tree

/-!
# Documents

A document is a list of nodes with a selection, a version that grows with every
change of the content, and the identity that the next new block gets.

A `BlockPoint` speaks of a position by the identity of its block and an offset
in it.  Commands move blocks around and so change paths; a selection is carried
through a command as block points and turned into points again afterwards.

The normal form of a document has its blocks in normal form, no list without
children, no leaf at the root, and at least one block.
-/

namespace BlockNotes

/-! ## Errors -/

/-- A path as it is printed. -/
def Path.render (p : Path) : String :=
  "[" ++ ", ".intercalate (p.map toString) ++ "]"

/-- Why a document refuses a command or a question. -/
inductive DocumentError where
  /-- There is no node at the path. -/
  | invalidPath (path : Path)
  /-- The block at the path does not hold text. -/
  | notATextBlock (path : Path)
  /-- The block at the path does not hold other blocks. -/
  | notAContainer (path : Path)
  /-- The offset is too large or falls inside a character. -/
  | invalidOffset (path : Path) (offset : Nat)
  /-- The block at the path is at the root. -/
  | notNested (path : Path)
  /-- There is no selection. -/
  | noSelection
deriving DecidableEq, Repr

namespace DocumentError

/-- What an error says. -/
def message : DocumentError → String
  | invalidPath path => "No node at path " ++ path.render
  | notATextBlock path => "Block at " ++ path.render ++ " does not hold text"
  | notAContainer path => "Block at " ++ path.render ++ " does not hold other blocks"
  | invalidOffset path offset =>
    "Offset " ++ toString offset ++ " is out of bounds or not a char boundary at " ++ path.render
  | notNested path => "Block at " ++ path.render ++ " has no parent block to lift out of"
  | noSelection => "Document has no selection"

end DocumentError

/-! ## The type -/

/-- A document. -/
structure Document where
  /-- The nodes at the root. -/
  children : List Node
  /-- The selection. -/
  selection : Option Range
  /-- How often the content has changed. -/
  version : Nat
  /-- The identity of the next new block. -/
  nextId : Nat
deriving Repr, Inhabited

/-- A position by the identity of its block. -/
structure BlockPoint where
  /-- The block. -/
  block : BlockId
  /-- The byte offset among its own leaves. -/
  offset : Nat
deriving DecidableEq, Repr, Inhabited

/-- A range by the identities of its blocks. -/
structure BlockRange where
  /-- Where it was begun. -/
  anchor : BlockPoint
  /-- Where it ends. -/
  focus : BlockPoint
deriving DecidableEq, Repr, Inhabited

/-- The range from a block point to itself. -/
def BlockRange.collapsed (p : BlockPoint) : BlockRange := ⟨p, p⟩

namespace Document

/-! ## Blocks -/

/-- The blocks at the root. -/
def blocks (d : Document) : List Block :=
  d.children.filterMap Node.block?

/-- The block at a path. -/
def blockAt? (d : Document) (path : Path) : Option Block :=
  Node.blockAt? d.children path

/-- Every block with its path, parents before children. -/
def walk (d : Document) : List (Path × Block) :=
  Node.walkFrom [] 0 d.children

/-- The blocks that satisfy a test, with their paths. -/
def matching (d : Document) (test : Block → Bool) : List (Path × Block) :=
  d.walk.filter fun (_, b) => test b

/-- The path of the first block of an identity. -/
def findPath? (d : Document) (id : BlockId) : Option Path :=
  (d.walk.find? fun (_, b) => b.id == id).map Prod.fst

/-- The first block of an identity. -/
def block? (d : Document) (id : BlockId) : Option Block :=
  (d.findPath? id).bind d.blockAt?

/-- Whether there is a code block. -/
def hasCode (d : Document) : Bool :=
  d.walk.any fun (_, b) => b.kind.isCode

/-- The text blocks where a cursor can stand. -/
def textBlocks (d : Document) : List (Path × Block) :=
  d.matching fun b => b.isTextBlock && !b.kind.isVoid

/-- The block that directly holds a point. -/
def blockAbove? (d : Document) (p : Point) : Option (Path × Block) := do
  let (parent, _) ← p.path.split?
  let b ← d.blockAt? parent
  some (parent, b)

/-- The block that holds the anchor of the selection. -/
def currentBlock? (d : Document) : Option (Path × Block) :=
  d.selection.bind fun s => d.blockAbove? s.anchor

/-! ## Positions -/

/-- The first position in the block at a path. -/
def startOf (d : Document) (path : Path) : Except DocumentError Point :=
  match d.blockAt? path with
  | none => .error (.invalidPath path)
  | some b =>
    match b.firstLeaf path with
    | .ok leaf => .ok ⟨leaf, 0⟩
    | .error childless => .error (.notATextBlock childless)

/-- The last position in the block at a path. -/
def endOf (d : Document) (path : Path) : Except DocumentError Point :=
  match d.blockAt? path with
  | none => .error (.invalidPath path)
  | some b =>
    match b.lastLeaf path with
    | .ok (leaf, l) => .ok ⟨leaf, l.size⟩
    | .error childless => .error (.notATextBlock childless)

/-- The part of a leaf at a path that lies between two points. -/
def leafPart (start stop : Point) (path : Path) (l : Leaf) : Text :=
  if path < start.path ∨ stop.path < path then []
  else
    let a := if path = start.path then start.offset else 0
    let b := if path = stop.path then stop.offset else l.size
    (l.text.slice? (min a b) (min b l.size)).getD []

/-- The parts of the leaves among nodes that lie between two points. -/
def partsFrom (start stop : Point) (parent : Path) (index : Nat) : List Node → Text
  | [] => []
  | .leaf l :: rest =>
    leafPart start stop (parent ++ [index]) l ++ partsFrom start stop parent (index + 1) rest
  | .block _ :: rest => partsFrom start stop parent (index + 1) rest

/-- The text in a range, leaf after leaf. -/
def textIn (d : Document) (r : Range) : Text :=
  d.walk.flatMap fun (path, b) => partsFrom r.start r.stop path 0 b.children

/-- A point as a block point.  The point is valid exactly if there is one. -/
def blockPoint (d : Document) (p : Point) : Except DocumentError BlockPoint :=
  match p.path.split? with
  | none => .error (.invalidPath p.path)
  | some (parent, index) =>
    match d.blockAt? parent with
    | none => .error (.invalidPath p.path)
    | some b =>
      match b.children[index]? with
      | some (.leaf l) =>
        if l.text.isBoundary p.offset then .ok ⟨b.id, Node.offsetOf b.children index p.offset⟩
        else .error (.invalidOffset p.path p.offset)
      | _ => .error (.invalidPath p.path)

/-- A range as a block range, if both ends are valid. -/
def blockRange? (d : Document) (r : Range) : Option BlockRange :=
  match d.blockPoint r.anchor, d.blockPoint r.focus with
  | .ok anchor, .ok focus => some ⟨anchor, focus⟩
  | _, _ => none

/--
The point of a block point, if its block holds text.  An offset behind the end
is moved to the end, and one inside of a character to its start.
-/
def resolve? (d : Document) (p : BlockPoint) : Option Point := do
  let path ← d.findPath? p.block
  let b ← d.blockAt? path
  if b.isTextBlock then
    let text := b.text
    let offset := text.floorBoundary (min p.offset text.bytes)
    let (index, at_) := Node.locate b.children offset
    some ⟨path ++ [index], at_⟩
  else none

/-- The point at an offset in the text of a block. -/
def pointIn? (d : Document) (id : BlockId) (offset : Nat) : Option Point :=
  d.resolve? ⟨id, offset⟩

/-- The first position where a cursor can stand. -/
def firstPoint? (d : Document) : Option Point :=
  match d.textBlocks with
  | [] => none
  | (path, _) :: _ => (d.startOf path).toOption

/-- The range of a block range.  An end without a point goes to the first position. -/
def resolveRange (d : Document) (r : BlockRange) : Range :=
  match (d.resolve? r.anchor).or d.firstPoint?, (d.resolve? r.focus).or d.firstPoint? with
  | some anchor, some focus => ⟨anchor, focus⟩
  | _, _ => .collapsed ⟨[0, 0], 0⟩

/-! ## Normal form -/

/-- Puts each leaf at the root into a paragraph.  The last one is given its identity first. -/
def wrapLeaves : List Node → (next : Nat) → List Node × Nat
  | [], next => ([], next)
  | n :: rest, next =>
    let (rest, next) := wrapLeaves rest next
    match n with
    | .leaf l => (.block ⟨next, .paragraph, [.leaf l]⟩ :: rest, next + 1)
    | .block b => (.block b :: rest, next)

/-- The document with its tree in normal form. -/
def normalize (d : Document) : Document :=
  let children := (Node.normalizeAll d.children).filter fun n => !n.isEmptyList
  let (children, nextId) := wrapLeaves children d.nextId
  match children with
  | [] =>
    { d with children := [.block ⟨nextId, .paragraph, [.leaf {}]⟩], nextId := nextId + 1 }
  | _ => { d with children, nextId }

/-- A document of given blocks, with a cursor at its first position. -/
def ofBlocks (bs : List Block) : Document :=
  let (children, nextId) := Node.adoptAll (bs.map .block) 1
  let d := normalize { children, selection := none, version := 0, nextId }
  { d with selection := d.firstPoint?.map .collapsed }

/-- A document with one empty paragraph. -/
def empty : Document :=
  ofBlocks []

end Document

end BlockNotes
