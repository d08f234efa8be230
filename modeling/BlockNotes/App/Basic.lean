import BlockNotes.App.Keymap
import BlockNotes.Editor.Basic
import BlockNotes.Grammar.Languages
import BlockNotes.Screen.Cells
import BlockNotes.Screen.Lines
import BlockNotes.Storage.DocumentFile

/-!
# The program

The program edits one file.  It remembers the version of the document that was
saved last, and the document counts as modified when its version is another one.
A line of status tells how the last action went; a key that the editor takes in
clears it.

The screen shows the document in a box with the name of the file, and below it
the status and the most important keys.  It scrolls so far that the line with
the cursor is the last one in the box.
-/

namespace BlockNotes

/-- The state of the program. -/
structure App where
  /-- The name of the file. -/
  name : Text
  /-- The editor. -/
  editor : Editor Registry
  /-- The version that was saved last. -/
  savedVersion : Nat
  /-- The status. -/
  status : Text := []
  /-- The files. -/
  files : FileSystem

namespace App

/-- The document. -/
def document (a : App) : Document := a.editor.document

/-- Opens a file with grammars.  A file that does not exist is an empty document. -/
def open? (files : FileSystem) (grammars : Registry) (name : Text) (options : EditorOptions) :
    Except FileError App :=
  let start := fun (d : Document) =>
    { name, files, editor := .ofDocument d grammars options, savedVersion := d.version : App }
  match Document.load files name with
  | .ok d => .ok (start d)
  | .error (.notFound _) => .ok (start .empty)
  | .error (.unreadable e) => .error e

/-- Whether there are changes that are not saved. -/
def isModified (a : App) : Bool :=
  a.document.version != a.savedVersion

/-- The program where nothing can be written for a reason, or where there is none any more. -/
def setFault (a : App) (fault : Option FileError) : App :=
  { a with files := { a.files with fault } }

/-! ## Actions -/

/-- A text of the program with another one behind it. -/
def say (before : String) (after : Text) : Text :=
  before.toList ++ after

/-- Saves the document. -/
def save (a : App) : App :=
  match a.document.save a.files a.name with
  | .ok files =>
    { a with files, savedVersion := a.document.version, status := say "Saved " a.name }
  | .error e => { a with status := say "Save failed: IO error: " e.message.toList }

/-- Writes the document as markdown. -/
def exportMarkdown (a : App) : App :=
  match a.document.exportMarkdown a.files a.name with
  | .ok (target, files) => { a with files, status := say "Exported " target }
  | .error e => { a with status := say "Export failed: IO error: " e.message.toList }

/-- Runs steps of the editor and tells how to go on from what comes of them. -/
def withEditor {α : Type} (a : App) (steps : EditorM Registry α)
    (next : App → Except DocumentError α → App) : Option App :=
  match steps a.editor with
  | .ok x editor => some (next { a with editor } (.ok x))
  | .error (.refused e) editor => some (next { a with editor } (.error e))
  | .error .lost _ => none

/-- Does what a key means, and tells whether to go on; nothing if the editor is lost. -/
def handle (a : App) : Action → Option (Bool × App)
  | .quit => some (false, a)
  | .save => some (true, a.save)
  | .exportMarkdown => some (true, a.exportMarkdown)
  | .toggleBlock kind =>
    (a.withEditor (EditorM.toggleBlock kind) fun a result =>
      match result with
      | .ok _ => a
      | .error e => { a with status := say "Cannot change block: " e.message.toList }).map (true, ·)
  | .edit press =>
    (a.withEditor (EditorM.press press) fun a result =>
      match result with
      | .ok true => { a with status := [] }
      | _ => a).map (true, ·)
  | .ignore => some (true, a)

/-- Runs the tasks of the editor that wait. -/
def tick (a : App) : Option App :=
  a.withEditor EditorM.tick fun a _ => a

/-- Does what a key means and, unless that ends the program, what was put off. -/
def step (a : App) (action : Action) : Option (Bool × App) := do
  let (goesOn, a) ← a.handle action
  if goesOn then return (true, ← a.tick) else return (false, a)

/-- Does what keys mean, one after the other, until one ends the program. -/
def run (a : App) : List Action → Option (Bool × App)
  | [] => some (true, a)
  | action :: rest => do
    let (goesOn, a) ← a.step action
    if goesOn then run a rest else return (false, a)

/-! ## The screen -/

/-- The line with the most important keys. -/
def help : Text :=
  "Esc: Quit | Ctrl+S: Save | Ctrl+E: Export .md | Alt+1/2/3 q b n c p: Block type".toList

/-- The line above it. -/
def statusLine (a : App) : Text :=
  let warnings := a.editor.coordinator.highlights.warnings.length
  if a.status ≠ [] then a.status
  else if 0 < warnings then (toString warnings ++ " highlighting warning(s), see log").toList
  else []

/-- The title of the box. -/
def title (a : App) : Text :=
  a.name ++ if a.isModified then " [+]".toList else []

/-- The rows of a terminal that shows the program. -/
def draw (a : App) (width height : Nat) : List Row :=
  let boxHeight := height - 2
  let drawn := DrawnDocument.ofDocument a.document a.editor.coordinator.highlights.table
  let scroll := min (drawn.cursorLine - (Box.inner boxHeight - 1)) 0xffff
  let box := Box.draw a.title ((drawn.lines.drop scroll).map ScreenLine.texts) width boxHeight
  (box ++ [Row.ofTexts width [a.statusLine], Row.ofTexts width [help]]).take height

end App

end BlockNotes
