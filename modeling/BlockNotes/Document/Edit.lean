import BlockNotes.Document.Command
import BlockNotes.Unicode.Letter

/-!
# The edits behind the commands

An edit works on the document in place, step after step, and may stop at any of
them.  What it changed before it stopped stays changed, so that a command
leaves the document alone when it fails is a fact about the order of its steps
and not about the way it is written down.

An edit stops in one of two ways.  It is *refused* for a reason that the caller
learns, or it is *lost*: it reached for a place outside of a text or a list, or
inside of a character.  No document runs into the second.

Each edit gives an `Effect`: the blocks that changed and the selection to go to,
if it is not the one from before.
-/

namespace BlockNotes

/-- Why an edit stops. -/
inductive Halt where
  /-- The document refuses. -/
  | refused (error : DocumentError)
  /-- A place outside of a text or a list was asked for. -/
  | lost
deriving DecidableEq, Repr

/-- Steps that change a document and may stop. -/
abbrev EditM := EStateM Halt Document

/-- What an edit did, before the tree is brought into normal form. -/
structure Effect where
  /-- The blocks that changed. -/
  changed : List BlockId
  /-- Where the selection goes, if it does not stay. -/
  target : Option BlockRange
deriving Repr, Inhabited

namespace Effect

/-- Nothing happened. -/
def none : Effect := ⟨[], .none⟩

/-- Blocks changed and the selection stays. -/
def stay (changed : List BlockId) : Effect := ⟨changed, .none⟩

/-- Blocks changed and the cursor goes to a place. -/
def goTo (changed : List BlockId) (p : BlockPoint) : Effect := ⟨changed, some (.collapsed p)⟩

end Effect

namespace EditM

/-- Stops for a reason. -/
def refuse {α : Type} (e : DocumentError) : EditM α :=
  throw (.refused e)

/-- Goes on with an answer, or stops for its reason. -/
def ofExcept {α : Type} : Except DocumentError α → EditM α
  | .ok a => pure a
  | .error e => refuse e

/-- Goes on with a value, or stops for a reason. -/
def orRefuse {α : Type} (o : Option α) (e : DocumentError) : EditM α :=
  match o with
  | some a => pure a
  | none => refuse e

/-- Goes on with what was found at a place, or is lost. -/
def orLost {α : Type} : Option α → EditM α
  | some a => pure a
  | none => throw .lost

/-- Puts other children into the block at a path. -/
def putChildren (path : Path) (ns : List Node) : EditM Unit :=
  modify fun d => { d with children := Node.setChildren d.children path ns }

/-- Gives out the next identity. -/
def issueId : EditM BlockId :=
  modifyGet fun d => (d.nextId, { d with nextId := d.nextId + 1 })

/-- The path without its last index, and that index. -/
def splitPath (path : Path) : EditM (Path × Nat) :=
  orRefuse path.split? (.invalidPath [])

/-- Removes the node at a path, if there is one. -/
def removeNode (path : Path) : EditM Unit := do
  let d ← get
  match path.split? with
  | none => pure ()
  | some (parent, index) =>
    match Node.childrenAt? d.children parent with
    | none => pure ()
    | some siblings =>
      if index < siblings.length then putChildren parent (siblings.eraseIdx index) else pure ()

/-- The path and block of an identity whose text can be edited. -/
def editable (id : BlockId) : EditM Block := do
  let d ← get
  let path ← orRefuse (d.findPath? id) (.invalidPath [])
  match d.blockAt? path with
  | some b => if b.isTextBlock && !b.kind.isVoid then pure b else refuse (.notATextBlock path)
  | none => refuse (.notATextBlock path)

/-- The selection, with its anchor as a block point. -/
def selectionPoint : EditM (Range × BlockPoint) := do
  let d ← get
  let s ← orRefuse d.selection .noSelection
  let p ← ofExcept (d.blockPoint s.anchor)
  pure (s, p)

/-- Changes the children of the block of an identity, if there is such a block. -/
def editChildren (id : BlockId) (f : Block → Option (List Node)) : EditM Unit := do
  let d ← get
  match d.findPath? id with
  | none => pure ()
  | some path =>
    match d.blockAt? path with
    | none => pure ()
    | some b =>
      let ns ← orLost (f b)
      putChildren path ns

/-! ## Deletion -/

/--
Deletes what lies in a range.  Between two blocks the end of the last one is
joined to the start of the first one, and the text blocks after the first one
up to the last one go away.
-/
def deleteRange (r : Range) : EditM (BlockPoint × List BlockId) := do
  let d ← get
  let start ← ofExcept (d.blockPoint r.start)
  let stop ← ofExcept (d.blockPoint r.stop)
  if start.block = stop.block then
    editChildren start.block fun b => Node.eraseText? start.offset stop.offset b.children
    pure (start, [start.block])
  else
    let order := d.matching Block.isTextBlock
    let indexOf := fun (id : BlockId) => order.findIdx? fun (_, b) => b.id == id
    match indexOf start.block, indexOf stop.block with
    | some first, some last =>
      if last < first then throw .lost
      let doomed := (order.drop (first + 1)).take (last - first)
      let tail ← match d.findPath? stop.block with
        | none => pure []
        | some path =>
          match d.blockAt? path with
          | none => pure []
          | some b =>
            let (front, back) ← orLost (Node.splitLeaves? b.children stop.offset)
            putChildren path front
            pure back
      editChildren start.block fun b =>
        (Node.eraseText? start.offset (Node.size b.children) b.children).map fun ns =>
          if b.kind.isVoid then ns else ns ++ tail
      doomed.reverse.forM fun (path, _) => removeNode path
      pure (start, start.block :: doomed.map fun (_, b) => b.id)
    | _, _ => refuse (.invalidPath r.start.path)

/-- The characters at the end of a reversed text that a word deletion takes: blanks, then a word. -/
def wordBefore (reversed : Text) : Text :=
  let blanks := reversed.takeWhile Unicode.isBlank
  let rest := reversed.drop blanks.length
  let word := rest.takeWhile fun c => Unicode.isAlphanumeric c || c == '_'
  if word.isEmpty && blanks.isEmpty then rest.take 1 else blanks ++ word

/-- The characters at the end of a reversed text that a line deletion takes. -/
def lineBefore (reversed : Text) : Text :=
  match reversed with
  | '\n' :: _ => ['\n']
  | _ => reversed.takeWhile (· ≠ '\n')

/-- Where a backward deletion that ends at an offset starts. -/
def previousBoundary? (text : Text) (offset : Nat) (unit : DeleteUnit) : Option Nat :=
  (text.take? offset).map fun before =>
    let reversed := before.reverse
    let taken := match unit with
      | .character => reversed.take 1
      | .word => wordBefore reversed
      | .line => lineBefore reversed
    offset - Text.bytes taken

/-- Joins a block to the end of the text block before it.  A void block before it goes away. -/
def mergeIntoPrevious (id : BlockId) : EditM Effect := do
  let d ← get
  let order := d.matching Block.isTextBlock
  match order.findIdx? fun (_, b) => b.id == id with
  | none => refuse (.invalidPath [])
  | some 0 => pure .none
  | some (position + 1) =>
    match order[position]?, order[position + 1]? with
    | some (previousPath, previous), some (path, _) =>
      if previous.kind.isVoid then
        removeNode previousPath
        pure (.stay [id])
      else
        let joinAt := Node.size previous.children
        let leaves := ((d.blockAt? path).map Block.children).getD []
        putChildren path []
        editChildren previous.id fun b => some (b.children ++ leaves)
        removeNode path
        pure (.goTo [previous.id, id] ⟨previous.id, joinAt⟩)
    | _, _ => throw .lost

/-! ## Text commands -/

/-- Puts text in the place of the selection. -/
def insertText (text : Text) : EditM Effect := do
  let (s, anchor) ← selectionPoint
  let (p, changed) ←
    if s.isCollapsed then pure (anchor, [])
    else do
      let start ← ofExcept ((← get).blockPoint s.start)
      let _ ← editable start.block
      deleteRange s
  let _ ← editable p.block
  if text.isEmpty then pure (.goTo changed p)
  else
    editChildren p.block fun b => Node.insertText? b.children p.offset text
    pure (.goTo (changed ++ [p.block]) ⟨p.block, p.offset + text.bytes⟩)

/-- Deletes the selection, or backward from it. -/
def deleteBackward (unit : DeleteUnit) : EditM Effect := do
  let (s, p) ← selectionPoint
  if !s.isCollapsed then
    let (start, changed) ← deleteRange s
    pure (.goTo changed start)
  else
    let b ← editable p.block
    if 0 < p.offset then
      let start ← orLost (previousBoundary? b.text p.offset unit)
      editChildren p.block fun b => Node.eraseText? start p.offset b.children
      pure (.goTo [p.block] ⟨p.block, start⟩)
    else mergeIntoPrevious p.block

/-- Splits the block at the selection. -/
def splitBlock : EditM Effect := do
  let (s, anchor) ← selectionPoint
  let _ ← editable anchor.block
  let (p, changed) ←
    if s.isCollapsed then pure (anchor, [])
    else do
      let start ← ofExcept ((← get).blockPoint s.start)
      let _ ← editable start.block
      deleteRange s
  let d ← get
  let path ← orRefuse (d.findPath? p.block) (.invalidPath [])
  let b ← orRefuse (d.blockAt? path) (.invalidPath path)
  let (front, back) ← orLost (Node.splitLeaves? b.children p.offset)
  putChildren path front
  let id ← issueId
  let fresh : Block := { Block.ofKind b.kind back with id }
  let (parent, index) ← splitPath path
  match Node.childrenAt? (← get).children parent with
  | none => pure ()
  | some siblings =>
    let siblings ← orLost (Node.splice? siblings (index + 1) (index + 1) [.block fresh])
    putChildren parent siblings
  pure (.goTo (changed ++ [p.block, id]) ⟨id, 0⟩)

/-! ## Structural commands -/

/-- Changes the kind of a block. -/
def setKind (path : Path) (kind : Kind) : EditM Effect := do
  let b ← orRefuse ((← get).blockAt? path) (.invalidPath path)
  modify fun d =>
    { d with children := Node.setBlock { b with kind := kind.canonical } d.children path }
  pure (.stay [b.id])

/-- Wraps a block in a new one. -/
def wrapBlock (path : Path) (kind : Kind) : EditM Effect := do
  let _ ← orRefuse ((← get).blockAt? path) (.invalidPath path)
  let (parent, index) ← splitPath path
  let id ← issueId
  let siblings ← orRefuse (Node.childrenAt? (← get).children parent) (.invalidPath path)
  let (node, siblings) ← orLost (Node.removeAt? siblings index)
  let container : Block := { Block.ofKind kind [node] with id }
  let siblings ← orLost (Node.splice? siblings index index [.block container])
  putChildren parent siblings
  pure (.stay [id])

/-- Puts the children of a block in its place. -/
def unwrapBlock (path : Path) : EditM Effect := do
  let b ← orRefuse ((← get).blockAt? path) (.invalidPath path)
  if b.children.any Node.isLeaf then refuse (.notAContainer path)
  let (parent, index) ← splitPath path
  let siblings ← orRefuse (Node.childrenAt? (← get).children parent) (.invalidPath path)
  let (node, siblings) ← orLost (Node.removeAt? siblings index)
  match node with
  | .leaf _ => putChildren parent siblings
  | .block b =>
    let siblings ← orLost (Node.splice? siblings index index b.children)
    putChildren parent siblings
  pure (.stay [b.id])

/--
Moves a block out of its parent.  The first child goes in front of the parent,
which keeps the rest or goes away if there is none.  A later child goes behind
the parent, and what stood after it follows in a new block of the same kind.
-/
def liftBlock (path : Path) : EditM Effect := do
  let b ← orRefuse ((← get).blockAt? path) (.invalidPath path)
  if path.length < 2 then refuse (.notNested path)
  let (parentPath, index) ← splitPath path
  let (grandparent, parentIndex) ← splitPath parentPath
  let parent ← orRefuse ((← get).blockAt? parentPath) (.invalidPath parentPath)
  if parent.children.length < index + 1 then throw .lost
  let right := parent.children.drop (index + 1)
  let (lifted, left) ← orLost (Node.removeAt? (parent.children.take (index + 1)) index)
  let (moved, start, stop) ←
    if left.isEmpty then do
      putChildren parentPath right
      pure ([lifted], parentIndex, if right.isEmpty then parentIndex + 1 else parentIndex)
    else do
      putChildren parentPath left
      if right.isEmpty then pure ([lifted], parentIndex + 1, parentIndex + 1)
      else
        let id ← issueId
        let tail : Block := { Block.ofKind parent.kind right with id }
        pure ([lifted, .block tail], parentIndex + 1, parentIndex + 1)
  let siblings ← orRefuse (Node.childrenAt? (← get).children grandparent) (.invalidPath grandparent)
  let siblings ← orLost (Node.splice? siblings start stop moved)
  putChildren grandparent siblings
  pure (.stay [b.id])

/-- Inserts a block. -/
def insertBlock (path : Path) (block : Block) : EditM Effect := do
  let (parent, index) ← splitPath path
  let d ← get
  match d.blockAt? parent with
  | some container =>
    if container.children.any Node.isLeaf then refuse (.notAContainer parent)
  | none => pure ()
  let siblings ← orRefuse (Node.childrenAt? d.children parent) (.invalidPath parent)
  if siblings.length < index then refuse (.invalidPath path)
  let (block, nextId) := block.adopt d.nextId
  modify fun d => { d with nextId }
  let siblings ← orLost (Node.splice? siblings index index [.block block])
  putChildren parent siblings
  pure (.stay [block.id])

/--
Removes a block.  If it held the anchor of the selection, the cursor goes to
the end of the last text block in front of it.
-/
def removeBlock (path : Path) (saved : Option BlockRange) : EditM Effect := do
  let d ← get
  let b ← orRefuse (d.blockAt? path) (.invalidPath path)
  let selectionInside := saved.any fun r =>
    (d.findPath? r.anchor.block).any fun p => path.isPrefixOf p
  let previous := (d.textBlocks.reverse.find? fun (p, _) =>
    decide (p < path) && !path.isPrefixOf p).map fun (_, b) =>
      (⟨b.id, Node.size b.children⟩ : BlockPoint)
  removeNode path
  match selectionInside, previous with
  | true, some p => pure (.goTo [b.id] p)
  | _, _ => pure (.stay [b.id])

end EditM

end BlockNotes
