import BlockNotes.Autoformat.Draft

/-!
# Indentation

The tabulator key in a code block.  With a cursor it puts in one unit of
indentation, or takes one away from the start of the line.  With a selection it
does so for each line that the selection touches, and selects these lines from
the start of the first one.

A line loses a whole unit if it starts with one, or else one tabulator
character.
-/

namespace BlockNotes

namespace Indent

/-- What a line loses when its indentation is taken back. -/
def outdentOf (unit line : Text) : Text :=
  if !unit.isEmpty && line.startsWith unit then unit
  else if line.startsWith ['\t'] then ['\t']
  else []

/-- A line without one step of indentation. -/
def outdentLine (unit line : Text) : Text :=
  line.drop (outdentOf unit line).length

/-- Lines with one step of indentation more or less. -/
def reindent (unit : Text) (outdent : Bool) (t : Text) : Text :=
  Text.ofLines (t.lines.map fun line => if outdent then outdentLine unit line else unit ++ line)

end Indent

namespace DraftM

/-- The point at an offset in the text of a block. -/
def pointIn (id : BlockId) (offset : Nat) : DraftM Point := do
  let d := (← get).document
  orRefuse (d.pointIn? id offset) (.invalidOffset ((d.findPath? id).getD []) offset)

/-- The text of a block, cut in two at an offset. -/
def textAround (id : BlockId) (offset : Nat) : DraftM (Text × Text) := do
  let d := (← get).document
  orLost ((((d.block? id).map Block.text).getD []).splitAt? offset)

/-- Takes one step of indentation away from the line with the cursor. -/
def outdentAt (unit : Text) (anchor : Point) : DraftM Unit := do
  let p ← ofExcept ((← get).document.blockPoint anchor)
  let (before, after) ← textAround p.block p.offset
  let start := p.offset - before.lastLine.bytes
  let removed := (Indent.outdentOf unit (before.lastLine ++ after)).bytes
  if removed = 0 then pure ()
  else
    let range : Range := ⟨← pointIn p.block start, ← pointIn p.block (start + removed)⟩
    perform (.deleteRange range)
    perform (.select (.collapsed (← pointIn p.block (max (p.offset - removed) start))))

/-- Changes the indentation of all lines that a selection within one block touches. -/
def reindent (unit : Text) (outdent : Bool) (selection : Range) : DraftM Unit := do
  let d := (← get).document
  let start ← ofExcept (d.blockPoint selection.start)
  let stop ← ofExcept (d.blockPoint selection.stop)
  if start.block ≠ stop.block then pure ()
  else
    let id := start.block
    let (before, _) ← textAround id start.offset
    let (upTo, _) ← textAround id stop.offset
    let first := start.offset - before.lastLine.bytes
    let (_, touched) ← orLost (upTo.splitAt? first)
    let lines := Indent.reindent unit outdent touched
    let range : Range := ⟨← pointIn id first, ← pointIn id stop.offset⟩
    perform (.deleteRange range)
    perform (.insertText lines)
    let front ← pointIn id first
    let back ← pointIn id (first + lines.bytes)
    perform (.select (if selection.isBackward then ⟨back, front⟩ else ⟨front, back⟩))

/-- The tabulator key in a code block, with shift to take indentation away. -/
def tab (unit : Text) (outdent : Bool) : DraftM Unit := do
  match (← get).document.selection with
  | none => pure ()
  | some selection =>
    if selection.isCollapsed then
      if outdent then outdentAt unit selection.anchor else perform (.insertText unit)
    else reindent unit outdent selection

end DraftM

end BlockNotes
