import BlockNotes.Editor.Indent
import BlockNotes.Editor.Key
import BlockNotes.Editor.Motion
import BlockNotes.Highlight.Coordinator

/-!
# The editor

An editor holds a draft and the coordinator of its table of spans.  Each
operation is *observed*: the coordinator learns once whether it changed the
content, whether it succeeded or not, so code blocks are highlighted again
before anybody looks.

Tasks that an operation puts off wait for the next tick.  A tick runs those that
wait when it begins; what they put off themselves waits for the tick after it.
-/

namespace BlockNotes

/-- What can be chosen about an editor. -/
structure EditorOptions where
  /-- The number of spaces in a unit of indentation. -/
  indentWidth : Nat := 2
  /-- The grammar for languages that are not known. -/
  fallback : String := Kind.textLanguage
  /-- The languages that are offered. -/
  languages : List String := []
deriving DecidableEq, Repr

/-- A draft with the highlighting of its code blocks. -/
structure Editor (τ : Type) where
  /-- The document and the tasks that wait. -/
  draft : Draft
  /-- The published spans. -/
  coordinator : Coordinator τ
  /-- A unit of indentation. -/
  indent : Text

/-- Steps that change an editor and may stop. -/
abbrev EditorM (τ : Type) := EStateM Halt (Editor τ)

namespace Editor

variable {τ : Type}

/-- The document. -/
def document (e : Editor τ) : Document := e.draft.document

/-- The published spans of a block. -/
def spansOf (e : Editor τ) (id : BlockId) : List Span := e.coordinator.spansOf id

/-- Whether the anchor of the selection is in a code block. -/
def inCode (e : Editor τ) : Bool :=
  e.document.currentBlock?.any fun (_, b) => b.kind.isCode

/-- An editor over a document, highlighted from the start. -/
def ofDocument [Tokenizer τ] (d : Document) (tokenizer : τ) (options : EditorOptions) :
    Editor τ :=
  { draft := { document := d }
    coordinator :=
      (Coordinator.ofTokenizer tokenizer options.fallback options.languages).refresh d
    indent := List.replicate options.indentWidth ' ' }

/-- The selected text, with a line for each block that the selection touches. -/
def selectedText (e : Editor τ) : Text :=
  let d := e.document
  match d.selection with
  | none => []
  | some s =>
    Text.ofLines <| d.textBlocks.filterMap fun (path, _) =>
      match d.startOf path, d.endOf path with
      | .ok first, .ok last =>
        if last < s.start ∨ s.stop < first then none
        else
          let a := if first < s.start then s.start else first
          let b := if s.stop < last then s.stop else last
          some (d.textIn ⟨a, b⟩)
      | _, _ => none

end Editor

namespace EditorM

variable {τ : Type} [Tokenizer τ]

/-- Runs steps on the draft, and then tells the coordinator whether they changed the content. -/
def observed {α : Type} (steps : DraftM α) : EditorM τ α := do
  let e ← get
  let finish := fun (draft : Draft) =>
    let origin := if draft.document.version = e.document.version then Origin.selection else .content
    set { e with draft, coordinator := e.coordinator.onChange draft.document origin }
  match steps e.draft with
  | .ok a draft => do
    finish draft
    pure a
  | .error halt draft => do
    finish draft
    throw halt

/-! ## Input -/

/-- Takes in text that was typed. -/
def insertText (text : Text) : EditorM τ Transition :=
  observed (DraftM.insertText text)

/-- Deletes backward. -/
def deleteBackward (unit : DeleteUnit) : EditorM τ Transition :=
  observed (DraftM.deleteBackward unit)

/--
The enter key.  In a code block it starts a line, behind an open fence it makes
a code block at once, and otherwise it splits the block and looks for a fence
later.
-/
def insertBreak : EditorM τ Unit :=
  observed do
    match (← get).document.currentBlock? with
    | none => DraftM.refuse .noSelection
    | some (_, block) =>
      if block.kind.isCode then DraftM.perform (.insertText ['\n'])
      else if Fence.isOpener block.text then do
        let _ ← DraftM.checkFence
        pure ()
      else do
        DraftM.perform .splitBlock
        DraftM.later .checkFence

/-- Sets the selection. -/
def select (r : Range) : EditorM τ Unit :=
  observed (DraftM.perform (.select r))

/-- Moves the focus of the selection; unless it is extended, the anchor goes along. -/
def moveCursor (m : Motion) (extend : Bool) : EditorM τ Unit := do
  let d := (← get).document
  match d.selection with
  | none => pure ()
  | some s =>
    match d.blockPoint s.focus with
    | .error e => throw (.refused e)
    | .ok p =>
      match Motion.surroundings d p with
      | .noText => pure ()
      | .lost => throw .lost
      | .found around =>
        let target := m.land around
        match d.pointIn? target.block target.offset with
        | none => pure ()
        | some q => select (if extend then ⟨s.anchor, q⟩ else .collapsed q)

/-! ## Blocks -/

/-- Whether a block on the way to a path has the type of a kind. -/
def isActive (d : Document) (path : Path) (kind : Kind) : Bool :=
  (List.range path.length).any fun depth =>
    (d.blockAt? (path.take (depth + 1))).any fun b => b.kind.sameType kind

/--
Gives the block with the cursor a kind, or makes it a paragraph if the kind is
active.  It leaves the list around it first, and a kind of list wraps it.
-/
def toggleBlock (kind : Kind) : EditorM τ Unit :=
  observed do
    let d := (← get).document
    let (path, block) ← DraftM.orRefuse d.currentBlock? .noSelection
    let active := isActive d path kind
    let path ← DraftM.leaveList path block.id
    if active then DraftM.perform (.setKind path .paragraph)
    else if kind.isList then do
      DraftM.perform (.setKind path .listItem)
      DraftM.perform (.wrapBlock path kind)
    else DraftM.perform (.setKind path kind)

/-- Puts an image behind the block with the cursor. -/
def insertImage (url : String) : EditorM τ Unit :=
  observed do
    let (path, _) ← DraftM.orRefuse (← get).document.currentBlock? .noSelection
    match path.split? with
    | some (parent, index) =>
      DraftM.perform (.insertBlock (parent ++ [index + 1]) (.ofText (.image url) []))
    | none => DraftM.perform (.insertBlock path (.ofText (.image url) []))

/-- Offers other languages. -/
def setLanguages (languages : List String) : EditorM τ Unit :=
  modify fun e => { e with
    coordinator := e.coordinator.setLanguages languages
    draft := { e.draft with tasks := e.draft.tasks ++ [.refresh] } }

/-! ## Tasks -/

/-- Lets steps be refused; what they did before that stays. -/
def tolerate {α : Type} (steps : EditorM τ α) : EditorM τ Unit := fun e =>
  match steps e with
  | .ok _ e => .ok () e
  | .error (.refused _) e => .ok () e
  | .error .lost e => .error .lost e

/-- Steps on the draft that the coordinator does not learn of. -/
def unobserved {α : Type} (steps : DraftM α) : EditorM τ α := fun e =>
  match steps e.draft with
  | .ok a draft => .ok a { e with draft }
  | .error halt draft => .error halt { e with draft }

/-- Runs a task. -/
def runTask : Task → EditorM τ Unit
  | .refresh => modify fun e => { e with coordinator := e.coordinator.refreshIfStale e.document }
  | .checkFence => tolerate (observed DraftM.checkFence)
  | .restore r => tolerate (unobserved (DraftM.perform (.select r)))

/-- Runs the tasks that wait, and gives their number. -/
def tick : EditorM τ Nat := do
  let e ← get
  let (tasks, draft) := e.draft.takeTasks
  set { e with draft }
  tasks.forM runTask
  pure tasks.length

/-! ## Keys -/

/-- What a key does, or nothing if the editor leaves it alone. -/
def ofKey? (e : Editor τ) (k : KeyPress) : Option (EditorM τ Unit) :=
  let shift := k.modifiers.shift
  if k.modifiers.isCommand && k.key != .backspace then none
  else
    match k.key with
    | .char c => some (discard (insertText [c]))
    | .enter => some insertBreak
    | .tab => if e.inCode then some (observed (DraftM.tab e.indent shift)) else none
    | .backspace =>
      some (discard (deleteBackward (if k.modifiers.isCommand then .word else .character)))
    | .left => some (moveCursor .left shift)
    | .right => some (moveCursor .right shift)
    | .up => some (moveCursor .up shift)
    | .down => some (moveCursor .down shift)
    | .home => some (moveCursor .lineStart shift)
    | .end => some (moveCursor .lineEnd shift)
    | .escape => none

/-- Takes in a key and tells whether it was for the editor.  A key may be refused. -/
def press (k : KeyPress) : EditorM τ Bool := do
  match ofKey? (← get) k with
  | none => pure false
  | some steps => do
    tolerate steps
    pure true

end EditorM

end BlockNotes
