/-!
# Keys

Key presses as the editor sees them.  The keys that matter to nobody else than
the screen are not among them.
-/

namespace BlockNotes

/-- A key. -/
inductive Key where
  /-- A character. -/
  | char (c : Char)
  /-- The enter key. -/
  | enter
  /-- The tabulator key. -/
  | tab
  /-- The backspace key. -/
  | backspace
  /-- The left arrow. -/
  | left
  /-- The right arrow. -/
  | right
  /-- The up arrow. -/
  | up
  /-- The down arrow. -/
  | down
  /-- The home key. -/
  | home
  /-- The end key. -/
  | «end»
  /-- The escape key. -/
  | escape
deriving DecidableEq, Repr

/-- The modifiers that are held down with a key. -/
structure Modifiers where
  /-- Shift. -/
  shift : Bool := false
  /-- Control. -/
  ctrl : Bool := false
  /-- Alt. -/
  alt : Bool := false
deriving DecidableEq, Repr

namespace Modifiers

/-- Whether control or alt is held down. -/
def isCommand (m : Modifiers) : Bool :=
  m.ctrl || m.alt

end Modifiers

/-- A key with its modifiers. -/
structure KeyPress where
  /-- The key. -/
  key : Key
  /-- The modifiers. -/
  modifiers : Modifiers := {}
deriving DecidableEq, Repr

namespace Key

/-- The key that types a character. -/
def ofChar (c : Char) : Key :=
  if c = '\n' then enter
  else if c = '\t' then tab
  else if c = '\x08' then backspace
  else char c

end Key

end BlockNotes
