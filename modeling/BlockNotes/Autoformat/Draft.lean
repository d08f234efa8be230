import BlockNotes.Autoformat.Fence
import BlockNotes.Autoformat.Trigger
import BlockNotes.Document.Apply

/-!
# Typing into a document

A draft is a document with a queue of tasks that are put off until the current
input is dealt with.  Text that is typed and deletions go through a draft, which
may give a block another kind instead of passing them on:

* a space behind a trigger takes the trigger away and changes the block;
* a deletion at the start of a block that is no paragraph makes it one, and an
  item leaves its list first;
* a block whose text is a fence becomes a code block.

Nothing is remembered between inputs.  Every decision looks at the block that
holds the anchor of the selection, its text and the cursor.
-/

namespace BlockNotes

/-- Work that is put off. -/
inductive Task where
  /-- Computes the table of spans again. -/
  | refresh
  /-- Looks for a fence in the block with the cursor. -/
  | checkFence
  /-- Puts the selection back. -/
  | restore (selection : Range)
deriving DecidableEq, Repr

/-- A document with the tasks that wait, the oldest first. -/
structure Draft where
  /-- The document. -/
  document : Document
  /-- The tasks. -/
  tasks : List Task := []
deriving Repr, Inhabited

/-- What a draft did with an input. -/
inductive Transition where
  /-- It was passed on to the document. -/
  | forwarded
  /-- It was put into a code block as it is. -/
  | codeInsert
  /-- A trigger changed the block. -/
  | shortcut (trigger : Trigger)
  /-- A block of a kind became a paragraph. -/
  | reverted (kind : Kind)
  /-- An item left its list and became a paragraph. -/
  | liftedListItem
deriving DecidableEq, Repr

/-- Steps that change a draft and may stop. -/
abbrev DraftM := EStateM Halt Draft

namespace DraftM

/-! ## Steps -/

/-- Runs a command. -/
def perform (c : Command) : DraftM Unit := do
  let draft ← get
  let (result, document) := draft.document.apply c
  set { draft with document }
  match result with
  | .ok _ => pure ()
  | .error e => throw e

/-- Puts a task off. -/
def later (t : Task) : DraftM Unit :=
  modify fun draft => { draft with tasks := draft.tasks ++ [t] }

/-- Stops for a reason. -/
def refuse {α : Type} (e : DocumentError) : DraftM α :=
  throw (.refused e)

/-- Goes on with an answer, or stops for its reason. -/
def ofExcept {α : Type} : Except DocumentError α → DraftM α
  | .ok a => pure a
  | .error e => refuse e

/-- Goes on with a value, or stops for a reason. -/
def orRefuse {α : Type} (o : Option α) (e : DocumentError) : DraftM α :=
  match o with
  | some a => pure a
  | none => refuse e

/-- Goes on with what was found at a place, or is lost. -/
def orLost {α : Type} : Option α → DraftM α
  | some a => pure a
  | none => throw .lost

/-- The selection, if it is collapsed. -/
def cursor? (d : Document) : Option Point :=
  d.selection.bind fun s => if s.isCollapsed then some s.anchor else none

/-- Whether the parent of the block at a path is a list. -/
def inList (d : Document) (path : Path) : Bool :=
  match path.split? with
  | some (parent, _) => (d.blockAt? parent).any fun b => b.kind.isList
  | none => false

/-- Moves the block of an identity out of the list around it, and gives its path then. -/
def leaveList (path : Path) (id : BlockId) : DraftM Path := do
  if inList (← get).document path then perform (.liftBlock path)
  orRefuse ((← get).document.findPath? id) (.invalidPath [])

/-! ## Insertion -/

/-- Passes text on. -/
def forwardInsert (text : Text) : DraftM Transition := do
  perform (.insertText text)
  pure .forwarded

/-- Takes a trigger in front of the cursor away and changes the block. -/
def shortcut (path : Path) (before : Range) (t : Trigger) : DraftM Transition := do
  perform (.deleteRange before)
  perform (.setKind path t.kind)
  match t.list? with
  | some list => perform (.wrapBlock path list)
  | none => pure ()
  pure (.shortcut t)

/-- Takes in text that was typed. -/
def insertText (text : Text) : DraftM Transition := do
  let d := (← get).document
  match d.currentBlock? with
  | none => forwardInsert text
  | some (path, block) =>
    if block.kind.isCode then
      perform (.insertText text)
      later .refresh
      match (← get).document.selection with
      | some s => later (.restore s)
      | none => pure ()
      pure .codeInsert
    else
      match cursor? d with
      | none => forwardInsert text
      | some p =>
        if text ≠ [' '] then forwardInsert text
        else
          let before : Range := ⟨← ofExcept (d.startOf path), p⟩
          match Trigger.ofText? (d.textIn before) with
          | none => forwardInsert text
          | some t => shortcut path before t

/-! ## Deletion -/

/-- Passes a deletion on. -/
def forwardDelete (unit : DeleteUnit) : DraftM Transition := do
  perform (.deleteBackward unit)
  pure .forwarded

/-- Deletes backward. -/
def deleteBackward (unit : DeleteUnit) : DraftM Transition := do
  let d := (← get).document
  match cursor? d, d.currentBlock? with
  | some p, some (path, block) =>
    let atStart := (← ofExcept (d.blockPoint p)).offset = 0
    let revert : DraftM Transition := do
      perform (.setKind path .paragraph)
      pure (.reverted block.kind)
    match block.kind with
    | .paragraph => forwardDelete unit
    | .code _ =>
      if atStart ∨ block.text.all Unicode.isBlank then revert else forwardDelete unit
    | .listItem =>
      if atStart then
        let path ← leaveList path block.id
        perform (.setKind path .paragraph)
        pure .liftedListItem
      else forwardDelete unit
    | _ => if atStart then revert else forwardDelete unit
  | _, _ => forwardDelete unit

/-! ## Fences -/

/-- Makes the block with the cursor a code block if its text is a fence, and tells if it did. -/
def checkFence : DraftM Bool := do
  let d := (← get).document
  match d.currentBlock? with
  | none => pure false
  | some (path, block) =>
    if block.kind.isCode || block.kind.isVoid then pure false
    else
      match Fence.ofText? block.text with
      | none => pure false
      | some fence =>
        let whole : Range := ⟨← ofExcept (d.startOf path), ← ofExcept (d.endOf path)⟩
        perform (.deleteRange whole)
        match fence with
        | .opened _ => pure ()
        | .complete _ body => perform (.insertText body)
        perform (.setKind path (.codeOf fence.language))
        later .refresh
        pure true

end DraftM

namespace Draft

/-- Removes all tasks, the oldest first. -/
def takeTasks (d : Draft) : List Task × Draft :=
  (d.tasks, { d with tasks := [] })

end Draft

end BlockNotes
