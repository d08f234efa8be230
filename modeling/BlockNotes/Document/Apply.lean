import BlockNotes.Document.Edit

/-!
# Applying commands

`Document.apply` runs one command.  A selection command sets the selection, if
both of its ends are valid.  Any other command runs its edit; if that changed
anything, the tree is brought into normal form, the selection is turned back
into points and the version grows by one.

`Document.perform` is the same for a caller who goes on with the document, and
`Document.run` performs a list of commands and lets the refused ones pass.
-/

namespace BlockNotes

namespace EditM

/-- The edit of a command; selecting is none. -/
def ofCommand (saved : Option BlockRange) : Command → EditM Effect
  | .insertText text => insertText text
  | .deleteBackward unit => deleteBackward unit
  | .deleteRange r => do
    let (start, changed) ← deleteRange r
    pure (.goTo changed start)
  | .splitBlock => splitBlock
  | .setKind path kind => setKind path kind
  | .wrapBlock path kind => wrapBlock path kind
  | .unwrapBlock path => unwrapBlock path
  | .liftBlock path => liftBlock path
  | .insertBlock path block => insertBlock path block
  | .removeBlock path => removeBlock path saved
  | .select _ => pure .none

/-- The patch of the document as it is now. -/
def patch (origin : Origin) (changed : List BlockId) : EditM Patch := do
  let d ← get
  pure ⟨origin, changed, d.selection, d.version⟩

/-- Brings the tree into normal form, goes to the selection and counts the version up. -/
def commit (saved : Option BlockRange) (e : Effect) : EditM Patch := do
  modify Document.normalize
  modify fun d => { d with
    selection := (e.target.or saved).map d.resolveRange
    version := d.version + 1 }
  patch .content e.changed

/-- Sets the selection to a range with valid ends. -/
def select (r : Range) : EditM Patch := do
  let d ← get
  let _ ← ofExcept (d.blockPoint r.anchor)
  let _ ← ofExcept (d.blockPoint r.focus)
  set { d with selection := some r }
  patch .selection []

/-- Runs one command. -/
def apply (c : Command) : EditM Patch :=
  match c with
  | .select r => select r
  | c => do
    let d ← get
    let saved := d.selection.bind d.blockRange?
    let e ← ofCommand saved c
    if e.changed.isEmpty then patch .selection [] else commit saved e

end EditM

namespace Document

/-- Runs one command on a document: what came of it, and the document afterwards. -/
def apply (d : Document) (c : Command) : Except Halt Patch × Document :=
  match EditM.apply c d with
  | .ok p d => (.ok p, d)
  | .error e d => (.error e, d)

/-- The document after a command, whatever came of it. -/
def perform (d : Document) (c : Command) : Document :=
  (d.apply c).2

/-- The document after a list of commands. -/
def run (d : Document) (cs : List Command) : Document :=
  cs.foldl perform d

end Document

end BlockNotes
