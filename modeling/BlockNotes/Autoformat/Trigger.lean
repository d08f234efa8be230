import BlockNotes.Document.Kind
import BlockNotes.Text.Basic

/-!
# Triggers

A trigger is a text at the start of a block that gives the block another kind
when a space is typed behind it.  It has to be the whole text before the
cursor.  The triggers of lists also wrap the block in a list.
-/

namespace BlockNotes

/-- What a line can be begun with to change the kind of its block. -/
inductive Trigger where
  /-- `#` -/
  | heading1
  /-- `##` -/
  | heading2
  /-- `>` -/
  | quote
  /-- `-`, `*` or `+` -/
  | bullet
  /-- `1.` -/
  | numbered
deriving DecidableEq, Repr

namespace Trigger

/-- The trigger that the text before the cursor is. -/
def ofText? : (before : Text) → Option Trigger
  | ['#'] => some heading1
  | ['#', '#'] => some heading2
  | ['>'] => some quote
  | ['-'] | ['*'] | ['+'] => some bullet
  | ['1', '.'] => some numbered
  | _ => none

/-- The kind that the block gets. -/
def kind : Trigger → Kind
  | heading1 => .headingOf 1
  | heading2 => .headingOf 2
  | quote => .quote
  | bullet | numbered => .listItem

/-- The kind of the list around the block. -/
def list? : Trigger → Option Kind
  | bullet => some .bulletList
  | numbered => some .numberedList
  | _ => none

end Trigger

end BlockNotes
