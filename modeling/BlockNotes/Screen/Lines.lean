import BlockNotes.Highlight.Run
import BlockNotes.Highlight.Table
import BlockNotes.Screen.Style

/-!
# Lines on the screen

A document is drawn block after block.  Each block whose children are leaves
gives at least one line, except for lists, which give none.  Its text is cut
into *runs* of one style each, by the spans of a code block or by the leaves of
any other, and the cursor and the selection are laid over the runs.

`pieces` cuts a run further, around each line feed and at the edges of the
cursor and of the selection.  No piece is lost, and a line feed is a piece of
its own, so what is drawn of a block is its text, line by line.
-/

namespace BlockNotes

/-- A piece of text in one style. -/
structure StyledText where
  /-- The text. -/
  text : Text
  /-- Its style. -/
  style : Style
deriving DecidableEq, Repr, Inhabited

/-- A stretch of bytes in one style. -/
structure StyledRange where
  /-- Where it starts. -/
  start : Nat
  /-- Where it stops. -/
  stop : Nat
  /-- Its style. -/
  style : Style
deriving DecidableEq, Repr

/-- Where the cursor and the selection fall in a block, by byte offsets. -/
structure Overlay where
  /-- The cursor. -/
  cursor : Option Nat := none
  /-- Where the selection starts and stops. -/
  selected : Option (Nat × Nat) := none
deriving DecidableEq, Repr, Inhabited

namespace Overlay

/-- Whether the selection covers an offset. -/
def covers (o : Overlay) (offset : Nat) : Bool :=
  o.selected.any fun (start, stop) => decide (start ≤ offset ∧ offset < stop)

/-- Whether something starts or stops behind a character that stands at an offset. -/
def parts (o : Overlay) (offset next : Nat) : Bool :=
  o.cursor = some offset || o.cursor = some next ||
    o.selected.any fun (start, stop) => start = next || stop = next

/-- A style with what the overlay puts over a piece that starts at an offset. -/
def apply (o : Overlay) (offset : Nat) (s : Style) : Style :=
  let s := if o.covers offset then { s with background := some .darkGray } else s
  if o.cursor = some offset then { s with reversed := true } else s

end Overlay

/-! ## Lines of a text -/

namespace StyledText

/-- The pieces of a text that starts at an offset, each with where it starts. -/
def pieces (o : Overlay) (offset : Nat) : Text → List (Nat × Text)
  | [] => []
  | c :: rest =>
    let next := offset + c.utf8Size
    match pieces o next rest with
    | [] => [(offset, [c])]
    | (start, piece) :: more =>
      if o.parts offset next || c = '\n' || piece.head? = some '\n' then
        (offset, [c]) :: (start, piece) :: more
      else (offset, c :: piece) :: more

/-- The cursor where there is no character. -/
def caret : StyledText := ⟨[' '], .caret⟩

/-- A piece as it is drawn; an end of line is nothing, with the cursor before it if it is there. -/
def ofPiece (o : Overlay) (style : Style) : Nat × Text → List (Option StyledText)
  | (offset, piece) =>
    if piece = ['\n'] then
      (if o.cursor = some offset then [some caret] else []) ++ [none]
    else [some ⟨piece, o.apply offset style⟩]

/-- Lines, made up of pieces with nothing at each end of a line.  There is always one. -/
def breakLines : List (Option StyledText) → List (List StyledText)
  | [] => [[]]
  | none :: rest => [] :: breakLines rest
  | some s :: rest =>
    match breakLines rest with
    | [] => [[s]]
    | line :: more => (s :: line) :: more

/-- The lines of a text in runs of styles, with an overlay. -/
def lines (t : Text) (runs : List StyledRange) (o : Overlay) : List (List StyledText) :=
  let drawn := runs.flatMap fun r =>
    (pieces o r.start ((t.slice? r.start r.stop).getD [])).flatMap (ofPiece o r.style)
  breakLines (drawn ++ if o.cursor = some t.bytes then [some caret] else [])

end StyledText

/-! ## Runs of a block -/

namespace Style

/-- A style with what a mark adds to it. -/
def mark (s : Style) : Mark → Style
  | .bold => { s with bold := true }
  | .italic => { s with italic := true }
  | .code => { s with foreground := some .yellow }
  | .link _ => { s with foreground := some .blue, underlined := true }

end Style

namespace StyledRange

/-- Leaves as runs, the first one from an offset on. -/
def ofLeaves (start : Nat) : List Leaf → List StyledRange
  | [] => []
  | l :: rest =>
    ⟨start, start + l.size, l.marks.toList.foldl Style.mark {}⟩ :: ofLeaves (start + l.size) rest

/-- The runs of a block, with the spans that were found for it. -/
def ofBlock (b : Block) (spans : List Span) : List StyledRange :=
  if b.kind.isCode then (Run.ofSpans b.text spans).map fun r => ⟨r.start, r.stop, .ofTags r.tags⟩
  else ofLeaves 0 b.leaves

end StyledRange

/-! ## Overlays of a document -/

/-- A selection by the blocks of its ends, with the order of all blocks. -/
structure SelectedBlocks where
  /-- All blocks in order. -/
  order : List BlockId
  /-- The focus. -/
  focus : Option BlockPoint
  /-- The start and the end, if the selection is expanded. -/
  ends : Option (BlockPoint × BlockPoint)

namespace SelectedBlocks

/-- The selection of a document. -/
def ofDocument (d : Document) : SelectedBlocks :=
  let point := fun p => (d.blockPoint p).toOption
  { order := d.walk.map fun (_, b) => b.id
    focus := d.selection.bind fun s => point s.focus
    ends := do
      let s ← d.selection
      if s.isCollapsed then none
      else
        let start ← point s.start
        let stop ← point s.stop
        some (start, stop) }

/-- What of the selection falls in a block with a number of bytes. -/
def overlay (s : SelectedBlocks) (id : BlockId) (size : Nat) : Overlay :=
  let position := fun (id : BlockId) => s.order.findIdx? (· == id)
  { cursor := s.focus.bind fun p => if p.block = id then some (min p.offset size) else none
    selected := do
      let (start, stop) ← s.ends
      let here ← position id
      let first ← position start.block
      let last ← position stop.block
      if first ≤ here ∧ here ≤ last then
        some (if here = first then start.offset else 0,
          min (if here = last then stop.offset else size) size)
      else none }

end SelectedBlocks

/-! ## Lines of a document -/

/-- A line on the screen. -/
structure ScreenLine where
  /-- The style of the whole line. -/
  style : Style := {}
  /-- What stands in it. -/
  parts : List StyledText
deriving DecidableEq, Repr

namespace ScreenLine

/-- The texts of a line, one for each piece of a style. -/
def texts (l : ScreenLine) : List Text :=
  l.parts.map StyledText.text

end ScreenLine

/-- The lines of a document and which of them has the cursor. -/
structure DrawnDocument where
  /-- The lines. -/
  lines : List ScreenLine
  /-- The index of the line with the cursor. -/
  cursorLine : Nat
deriving DecidableEq, Repr

namespace DrawnDocument

/-- What the blocks around the one at a path put in front of its lines. -/
def lead (d : Document) (path : Path) : Text :=
  (List.range (path.length - 1)).flatMap fun above =>
    match (d.blockAt? (path.take (above + 1))).map Block.kind with
    | some .quote => ['│', ' ']
    | some .bulletList | some .numberedList => if above = 0 then [] else [' ', ' ']
    | _ => []

/-- The mark of a block in front of its first line. -/
def marker (d : Document) (path : Path) (kind : Kind) : Text :=
  match kind with
  | .heading level => List.replicate level '#' ++ [' ']
  | .quote => ['│', ' ']
  | .listItem =>
    match path.split? with
    | none => ['•', ' ']
    | some (parent, index) =>
      match (d.blockAt? parent).map Block.kind with
      | some .numberedList => (toString (index + 1)).toList ++ ['.', ' ']
      | _ => ['•', ' ']
  | .code _ => [' ', ' ']
  | _ => []

/-- What stands in front of the lines of a block after the first one. -/
def continuation (lead marker : Text) (kind : Kind) : Text :=
  match kind with
  | .quote | .code _ => lead ++ marker
  | _ => lead ++ List.replicate marker.length ' '

/-- The lines of a block with text, with what stands in front of them. -/
def textLines (lead marker : Text) (b : Block) (spans : List Span) (o : Overlay) :
    List ScreenLine :=
  let heading := match b.kind with
    | .heading _ => true
    | _ => false
  let markerStyle : Style := if heading then { bold := true } else .dim
  let style : Style := if heading then { bold := true } else {}
  match StyledText.lines b.text (StyledRange.ofBlock b spans) o with
  | [] => []
  | first :: rest =>
    ⟨style, ⟨lead, {}⟩ :: ⟨marker, markerStyle⟩ :: first⟩ ::
      rest.map fun line => ⟨style, ⟨continuation lead marker b.kind, markerStyle⟩ :: line⟩

/-- A line that stands for a block or above it. -/
def caption (lead : Text) (t : Text) (colour : Colour) : ScreenLine :=
  ⟨{}, [⟨lead, {}⟩, ⟨t, { foreground := some colour }⟩]⟩

/-- Adds the lines of a block. -/
def addBlock (d : Document) (table : SpanTable) (selection : SelectedBlocks)
    (drawn : DrawnDocument) : Path × Block → DrawnDocument
  | (path, b) =>
    if b.kind.isList || !b.isTextBlock then drawn
    else
      let lead := lead d path
      match b.kind with
      | .image url =>
        { drawn with lines := drawn.lines ++ [caption lead ("[image] " ++ url).toList .cyan] }
      | kind =>
        let above := match kind.language? with
          | some language => [caption lead ("``` " ++ language).toList .darkGray]
          | none => []
        let lines := drawn.lines ++ above
        let o := selection.overlay b.id b.text.bytes
        let cursorLine := match o.cursor with
          | some cursor => lines.length + ((b.text.take? cursor).getD []).count '\n'
          | none => drawn.cursorLine
        { lines := lines ++ textLines lead (marker d path kind) b (table.get b.id) o
          cursorLine }

/-- Draws a document with the spans of its code blocks. -/
def ofDocument (d : Document) (table : SpanTable) : DrawnDocument :=
  d.walk.foldl (addBlock d table (.ofDocument d)) ⟨[], 0⟩

end DrawnDocument

example : StyledText.lines "a\nb".toList [⟨0, 3, {}⟩] { cursor := some 1 } =
    [[⟨['a'], {}⟩, .caret], [⟨['b'], {}⟩]] := by decide

end BlockNotes
