import BlockNotes.Document.Node
import BlockNotes.Document.Point

/-!
# Paths into a tree

A document is a list of nodes.  Here are the ways to reach a place in it by its
path and to change what stands there, and the walk over all blocks.

The walk lists each block with its path, parents before children.  Everything
that searches a document, by identity or by kind, searches the walk, so its
order decides which of several blocks is found.
-/

namespace BlockNotes

/-- The path of the parent and the index in it. -/
def Path.split? : Path → Option (Path × Nat)
  | [] => none
  | [i] => some ([], i)
  | i :: rest => (split? rest).map fun (parent, j) => (i :: parent, j)

namespace Node

/-! ## Reaching a place -/

/-- The block at a path. -/
def blockAt? : List Node → Path → Option Block
  | _, [] => none
  | ns, i :: rest =>
    match ns[i]? with
    | some (.block b) =>
      match rest with
      | [] => some b
      | _ :: _ => blockAt? b.children rest
    | _ => none

/-- The children of the block at a path; the empty path stands for the nodes themselves. -/
def childrenAt? (ns : List Node) : Path → Option (List Node)
  | [] => some ns
  | path => (blockAt? ns path).map Block.children

/-- Puts other children into the block at a path. -/
def setChildren : List Node → Path → List Node → List Node
  | _, [], new => new
  | ns, i :: rest, new =>
    ns.modify i fun
      | .leaf l => .leaf l
      | .block b => .block { b with children := setChildren b.children rest new }

/-- Puts another block in the place of the one at a path. -/
def setBlock (new : Block) : List Node → Path → List Node
  | ns, [] => ns
  | ns, i :: rest =>
    ns.modify i fun
      | .leaf l => .leaf l
      | .block b =>
        match rest with
        | [] => .block new
        | _ :: _ => .block { b with children := setBlock new b.children rest }

/-! ## Lists of children -/

/-- A list without the element at an index, and that element. -/
def removeAt? (ns : List Node) (index : Nat) : Option (Node × List Node) :=
  ns[index]?.map fun n => (n, ns.eraseIdx index)

/-- A list with new elements in place of those between two indices. -/
def splice? (ns : List Node) (start stop : Nat) (new : List Node) : Option (List Node) :=
  if start ≤ stop ∧ stop ≤ ns.length then some (ns.take start ++ new ++ ns.drop stop) else none

end Node

/-! ## The walk -/

mutual

/-- A block and all blocks below it, with their paths. -/
def Block.walk (path : Path) : Block → List (Path × Block)
  | ⟨id, kind, children⟩ => (path, ⟨id, kind, children⟩) :: Node.walkFrom path 0 children

/-- The blocks among and below nodes with their paths; the first node has the given index. -/
def Node.walkFrom (parent : Path) (index : Nat) : List Node → List (Path × Block)
  | [] => []
  | .leaf _ :: rest => Node.walkFrom parent (index + 1) rest
  | .block b :: rest =>
    b.walk (parent ++ [index]) ++ Node.walkFrom parent (index + 1) rest

end

/-! ## The first and the last position -/

mutual

/-- The path of the first leaf in a block, or of the block without children met on the way to it. -/
def Block.firstLeaf (path : Path) : Block → Except Path Path
  | ⟨_, _, children⟩ => Node.firstLeafOf path children

/-- The path of the first leaf in the first of the nodes. -/
def Node.firstLeafOf (path : Path) : List Node → Except Path Path
  | [] => .error path
  | .leaf _ :: _ => .ok (path ++ [0])
  | .block b :: _ => b.firstLeaf (path ++ [0])

end

mutual

/-- The last leaf in a block with its path, or the block without children met on the way to it. -/
def Block.lastLeaf (path : Path) : Block → Except Path (Path × Leaf)
  | ⟨_, _, children⟩ => Node.lastLeafOf path 0 children

/-- The last leaf in the last of the nodes with its path; the first node has the given index. -/
def Node.lastLeafOf (path : Path) (index : Nat) : List Node → Except Path (Path × Leaf)
  | [] => .error path
  | [.leaf l] => .ok (path ++ [index], l)
  | [.block b] => b.lastLeaf (path ++ [index])
  | _ :: n :: rest => Node.lastLeafOf path (index + 1) (n :: rest)

end

end BlockNotes
