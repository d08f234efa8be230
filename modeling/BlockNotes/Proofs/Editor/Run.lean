import BlockNotes.Editor.Basic

/-!
# Runs of an editor

Everything that can be done to an editor from outside, as data, and what an
editor is after a list of it.  An operation may stop; the editor then goes on
from where it stopped.
-/

namespace BlockNotes

/-- An operation of an editor. -/
inductive EditorAction where
  | press (k : KeyPress)
  | insertText (text : Text)
  | deleteBackward (unit : DeleteUnit)
  | insertBreak
  | select (range : Range)
  | moveCursor (motion : Motion) (extend : Bool)
  | toggleBlock (kind : Kind)
  | insertImage (url : String)
  | setLanguages (languages : List String)
  | tick

namespace EditorAction

variable {τ : Type} [Tokenizer τ]

/-- The steps of an operation, without their answer. -/
def steps : EditorAction → EditorM τ Unit
  | press k => do let _ ← EditorM.press k
  | insertText text => do let _ ← EditorM.insertText text
  | deleteBackward unit => do let _ ← EditorM.deleteBackward unit
  | insertBreak => EditorM.insertBreak
  | select range => EditorM.select range
  | moveCursor motion extend => EditorM.moveCursor motion extend
  | toggleBlock kind => EditorM.toggleBlock kind
  | insertImage url => EditorM.insertImage url
  | setLanguages languages => EditorM.setLanguages languages
  | tick => do let _ ← EditorM.tick

end EditorAction

namespace Editor

variable {τ : Type} [Tokenizer τ]

/-- The editor after an operation, whatever came of it. -/
def act (e : Editor τ) (a : EditorAction) : Editor τ :=
  match a.steps e with
  | .ok _ e => e
  | .error _ e => e

/-- The editor after a list of operations. -/
def run (e : Editor τ) (as : List EditorAction) : Editor τ :=
  as.foldl act e

theorem run_append (e : Editor τ) (as bs : List EditorAction) :
    e.run (as ++ bs) = (e.run as).run bs :=
  List.foldl_append

end Editor

end BlockNotes
