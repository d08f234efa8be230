import BlockNotes.Document.Kind
import BlockNotes.Document.Leaf

/-!
# Blocks and nodes

A block has an identity, a kind and children.  A child is a leaf or a block.
Usually all children are of one sort, but nothing here depends on it.

Offsets in a block count the bytes of its own leaves.  `locate` turns such an
offset into a leaf and an offset in it, and where two leaves meet it takes the
earlier one; `offsetOf` goes the other way.  The pieces of surgery on leaves
fail if an offset falls inside a character.

Recursion over nodes goes through two functions, one for a block and one for a
list of nodes.
-/

namespace BlockNotes

/-- The identity of a block.  A document gives out ascending ones and none twice. -/
abbrev BlockId := Nat

mutual

/-- A child of a block. -/
inductive Node where
  /-- A run of text. -/
  | leaf (leaf : Leaf)
  /-- A block. -/
  | block (block : Block)

/-- A block of a document. -/
structure Block where
  /-- Its identity; zero before a document gives it one. -/
  id : BlockId
  /-- Its kind. -/
  kind : Kind
  /-- What it holds. -/
  children : List Node

end

deriving instance Repr for Node, Block

instance : Inhabited Node := ⟨.leaf {}⟩

instance : Inhabited Block := ⟨⟨0, .paragraph, []⟩⟩

namespace Node

/-- The leaf, if the node is one. -/
def leaf? : Node → Option Leaf
  | .leaf l => some l
  | .block _ => none

/-- The block, if the node is one. -/
def block? : Node → Option Block
  | .leaf _ => none
  | .block b => some b

/-- Whether the node is a leaf. -/
def isLeaf : Node → Bool
  | .leaf _ => true
  | .block _ => false

/-- Whether the node is a list without children. -/
def isEmptyList : Node → Bool
  | .leaf _ => false
  | .block b => b.kind.isList && b.children.isEmpty

end Node

/-! ## Text -/

mutual

/-- The text of every leaf below a block. -/
def Block.text : Block → Text
  | ⟨_, _, children⟩ => Node.textOf children

/-- The text of every leaf among and below nodes. -/
def Node.textOf : List Node → Text
  | [] => []
  | .leaf l :: rest => l.text ++ Node.textOf rest
  | .block b :: rest => b.text ++ Node.textOf rest

end

mutual

/-- The leaves below a block, in order. -/
def Block.allLeaves : Block → List Leaf
  | ⟨_, _, children⟩ => Node.leavesOf children

/-- The leaves among and below nodes, in order. -/
def Node.leavesOf : List Node → List Leaf
  | [] => []
  | .leaf l :: rest => l :: Node.leavesOf rest
  | .block b :: rest => b.allLeaves ++ Node.leavesOf rest

end

namespace Block

/-- A new block, in the canonical form of its kind and without an identity. -/
def ofKind (kind : Kind) (children : List Node) : Block :=
  ⟨0, kind.canonical, children⟩

/-- A new block with one leaf without marks. -/
def ofText (kind : Kind) (text : Text) : Block :=
  ofKind kind [.leaf (.ofText text)]

/-- Whether all children are leaves. -/
def isTextBlock (b : Block) : Bool :=
  b.children.all Node.isLeaf

/-- The leaves among the children. -/
def leaves (b : Block) : List Leaf :=
  b.children.filterMap Node.leaf?

/-- The blocks among the children. -/
def childBlocks (b : Block) : List Block :=
  b.children.filterMap Node.block?

end Block

/-! ## Offsets in a block -/

namespace Node

/-- The number of bytes of the leaves among nodes. -/
def size : List Node → Nat
  | [] => 0
  | .leaf l :: rest => l.size + size rest
  | .block _ :: rest => size rest

/-- `locate` for nodes that start at an index; `last` is the end of the last leaf before them. -/
def locateFrom (index : Nat) (last : Nat × Nat) : (offset : Nat) → List Node → Nat × Nat
  | _, [] => last
  | offset, .leaf l :: rest =>
    if offset ≤ l.size then (index, offset)
    else locateFrom (index + 1) (index, l.size) (offset - l.size) rest
  | offset, .block _ :: rest => locateFrom (index + 1) last offset rest

/--
The index of the leaf that holds an offset, and the offset in it.  Where two
leaves meet the earlier one is taken, and behind the end the last one.
-/
def locate (ns : List Node) (offset : Nat) : Nat × Nat :=
  locateFrom 0 (0, 0) offset ns

/-- The offset among nodes of a position in the leaf at an index. -/
def offsetOf (ns : List Node) (index offset : Nat) : Nat :=
  size (ns.take index) + offset

/-! ## Surgery on leaves -/

/-- Puts text in at an offset. -/
def insertText? (ns : List Node) (offset : Nat) (t : Text) : Option (List Node) :=
  let ns := if ns.isEmpty then [.leaf {}] else ns
  let (index, at_) := locate ns offset
  match ns[index]? with
  | some (.leaf l) => do
    let text ← l.text.insert? at_ t
    some (ns.set index (.leaf { l with text }))
  | _ => some ns

/-- Leaves out the text of leaves between two offsets.  The leaves stay, and so do their marks. -/
def eraseText? : (start stop : Nat) → List Node → Option (List Node)
  | _, _, [] => some []
  | start, stop, .leaf l :: rest => do
    let a := min start l.size
    let b := min stop l.size
    let text ← if a < b then l.text.erase? a b else some l.text
    let rest ← eraseText? (start - l.size) (stop - l.size) rest
    some (.leaf { l with text } :: rest)
  | start, stop, .block b :: rest => do
    let rest ← eraseText? start stop rest
    some (.block b :: rest)

/-- The nodes before and after an offset.  The leaf that holds it is cut in two. -/
def splitLeaves? (ns : List Node) (offset : Nat) : Option (List Node × List Node) :=
  let (index, at_) := locate ns offset
  match ns[index]? with
  | some (.leaf l) => do
    let (front, back) ← l.text.splitAt? at_
    some (ns.take index ++ [.leaf { l with text := front }],
      .leaf { l with text := back } :: ns.drop (index + 1))
  | _ => some (ns.take (index + 1), ns.drop (index + 1))

end Node

/-! ## Normal form -/

mutual

/--
A block in normal form: lists without children are gone, and where all
children are leaves and the block is no list, the leaves are normal.
-/
def Block.normalize : Block → Block
  | ⟨id, kind, children⟩ =>
    let children := (Node.normalizeAll children).filter fun n => !n.isEmptyList
    if !kind.isList && children.all Node.isLeaf then
      ⟨id, kind, (Leaf.normalize (children.filterMap Node.leaf?)).map .leaf⟩
    else ⟨id, kind, children⟩

/-- Nodes whose blocks are in normal form. -/
def Node.normalizeAll : List Node → List Node
  | [] => []
  | .leaf l :: rest => .leaf l :: Node.normalizeAll rest
  | .block b :: rest => .block b.normalize :: Node.normalizeAll rest

end

/-! ## Identities -/

mutual

/-- Gives a block and all blocks below it fresh identities, and says which one is next. -/
def Block.adopt : Block → (next : Nat) → Block × Nat
  | ⟨_, kind, children⟩, next =>
    let (children, after) := Node.adoptAll children (next + 1)
    (⟨next, kind, children⟩, after)

/-- Gives the blocks among and below nodes fresh identities. -/
def Node.adoptAll : List Node → (next : Nat) → List Node × Nat
  | [], next => ([], next)
  | .leaf l :: rest, next =>
    let (rest, after) := Node.adoptAll rest next
    (.leaf l :: rest, after)
  | .block b :: rest, next =>
    let (b, next) := b.adopt next
    let (rest, after) := Node.adoptAll rest next
    (.block b :: rest, after)

end

end BlockNotes
