import BlockNotes.Document.Basic

/-!
# Motions

A motion takes the cursor to another place: by a character, by a line, or to an
end of its line.  Blocks whose text can be edited follow each other as if their
texts were one, so the motions by character and by line go over from one block
to the next.

All of them cut the text of the block in two at the cursor.  What they need is
then the last line of the first part, the first line of the second part, and
the lines next to those.
-/

namespace BlockNotes

/-- A way to move the cursor. -/
inductive Motion where
  /-- To the character before. -/
  | left
  /-- Behind the next character. -/
  | right
  /-- To the line above. -/
  | up
  /-- To the line below. -/
  | down
  /-- To the start of the line. -/
  | lineStart
  /-- To the end of the line. -/
  | lineEnd
deriving DecidableEq, Repr

namespace Motion

/-! ## Columns -/

/-- The offset of a column, counted in characters, in a line; the end if the line is shorter. -/
def columnOffset (line : Text) (column : Nat) : Nat :=
  Text.bytes (line.take column)

/-- The offset of a column in the last line of a text. -/
def inLastLine (t : Text) (column : Nat) : Nat :=
  t.bytes - t.lastLine.bytes + columnOffset t.lastLine column

/-! ## Landing -/

/-- The text of a block, cut in two at the cursor, and the blocks next to it. -/
structure Surroundings where
  /-- The block. -/
  block : BlockId
  /-- Its text before the cursor. -/
  before : Text
  /-- Its text behind the cursor. -/
  after : Text
  /-- The block before it and its text. -/
  previous : Option (BlockId × Text)
  /-- The block behind it and its text. -/
  next : Option (BlockId × Text)

/-- Where a motion ends. -/
def land (s : Surroundings) (m : Motion) : BlockPoint :=
  let here := s.before.bytes
  let column := s.before.lastLine.length
  match m with
  | left =>
    match s.before.getLast?, s.previous with
    | some c, _ => ⟨s.block, here - c.utf8Size⟩
    | none, some (id, text) => ⟨id, text.bytes⟩
    | none, none => ⟨s.block, 0⟩
  | right =>
    match s.after, s.next with
    | c :: _, _ => ⟨s.block, here + c.utf8Size⟩
    | [], some (id, _) => ⟨id, 0⟩
    | [], none => ⟨s.block, here⟩
  | lineStart => ⟨s.block, here - s.before.lastLine.bytes⟩
  | lineEnd => ⟨s.block, here + s.after.firstLine.bytes⟩
  | up =>
    match s.before.cutLast? '\n', s.previous with
    | some (above, _), _ => ⟨s.block, inLastLine above column⟩
    | none, some (id, text) => ⟨id, inLastLine text column⟩
    | none, none => ⟨s.block, 0⟩
  | down =>
    match s.after.cutFirst? '\n', s.next with
    | some (line, below), _ =>
      ⟨s.block, here + line.bytes + 1 + columnOffset below.firstLine column⟩
    | none, some (id, text) => ⟨id, columnOffset text.firstLine column⟩
    | none, none => ⟨s.block, here + s.after.bytes⟩

/-- What a place in a document is surrounded by. -/
inductive Site where
  /-- No cursor can stand in the block. -/
  | noText
  /-- The offset is not a boundary of the text. -/
  | lost
  /-- The surroundings. -/
  | found (s : Surroundings)

/-- The surroundings of a place. -/
def surroundings (d : Document) (p : BlockPoint) : Site :=
  let blocks := d.textBlocks.map fun (_, b) => (b.id, b.text)
  match blocks.findIdx? fun b => b.1 == p.block with
  | none => .noText
  | some index =>
    match blocks[index]? with
    | none => .noText
    | some (id, text) =>
      match text.splitAt? p.offset with
      | none => .lost
      | some (before, after) =>
        let previous := if index = 0 then none else blocks[index - 1]?
        .found { block := id, before, after, previous, next := blocks[index + 1]? }

end Motion

end BlockNotes
