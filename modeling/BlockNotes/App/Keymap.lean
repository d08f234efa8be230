import BlockNotes.Document.Kind
import BlockNotes.Editor.Key

/-!
# Key bindings

What a key means to the program.  Its own bindings come first: leaving, saving,
exporting and changing the kind of a block.  Whatever else the editor knows is
passed on to it, and all other keys mean nothing.
-/

namespace BlockNotes

/-- A key of a terminal. -/
inductive TerminalKey where
  /-- A character. -/
  | char (c : Char)
  /-- The escape key. -/
  | escape
  /-- The enter key. -/
  | enter
  /-- The tabulator key. -/
  | tab
  /-- The tabulator key with shift. -/
  | backTab
  /-- The backspace key. -/
  | backspace
  /-- The left arrow. -/
  | left
  /-- The right arrow. -/
  | right
  /-- The up arrow. -/
  | up
  /-- The down arrow. -/
  | down
  /-- The home key. -/
  | home
  /-- The end key. -/
  | «end»
  /-- A key without a meaning. -/
  | other
deriving DecidableEq, Repr

/-- What a key means to the program. -/
inductive Action where
  /-- Leave. -/
  | quit
  /-- Save the document. -/
  | save
  /-- Write the document as markdown. -/
  | exportMarkdown
  /-- Change the kind of the block with the cursor. -/
  | toggleBlock (kind : Kind)
  /-- Something for the editor. -/
  | edit (press : KeyPress)
  /-- Nothing. -/
  | ignore
deriving DecidableEq, Repr

namespace TerminalKey

/-- The key that the editor sees. -/
def editorKey? : TerminalKey → Option Key
  | char c => some (.char c)
  | enter => some .enter
  | tab | backTab => some .tab
  | backspace => some .backspace
  | left => some .left
  | right => some .right
  | up => some .up
  | down => some .down
  | home => some .home
  | «end» => some .end
  | escape | other => none

end TerminalKey

namespace Action

/-- The kind of block that a character stands for. -/
def kindOf? (c : Char) : Option Kind :=
  match c with
  | '0' | 'p' => some .paragraph
  | '1' => some (.headingOf 1)
  | '2' => some (.headingOf 2)
  | '3' => some (.headingOf 3)
  | 'q' => some .quote
  | 'b' => some .bulletList
  | 'n' => some .numberedList
  | 'c' => some (.codeOf "")
  | _ => none

/-- What a key means when the program has no binding for it. -/
def ofEditorKey (k : TerminalKey) (m : Modifiers) : Action :=
  match k.editorKey? with
  | some key => edit ⟨key, { m with shift := m.shift || k == .backTab }⟩
  | none => ignore

/-- What a key means. -/
def ofKey (k : TerminalKey) (m : Modifiers) : Action :=
  match k with
  | .escape => quit
  | .char c =>
    if m.ctrl ∧ c = 'q' then quit
    else if m.ctrl ∧ c = 's' then save
    else if m.ctrl ∧ c = 'e' then exportMarkdown
    else
      match kindOf? c with
      | some kind => if m.alt then toggleBlock kind else ofEditorKey k m
      | none => ofEditorKey k m
  | _ => ofEditorKey k m

end Action

example : Action.ofKey (.char '2') { alt := true } = .toggleBlock (.heading 2) := by decide
example : Action.ofKey (.char 'q') { ctrl := true, alt := true } = .quit := by decide

end BlockNotes
