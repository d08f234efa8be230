import BlockNotes.Proofs.Document.Seam
import BlockNotes.Proofs.Screen.Pieces

/-!
# The cursor on the screen

A block is drawn below what is there, as it would be by itself, so the screen has the lines of
the blocks one after the other (`DrawnDocument.lines_ofDocument`).  Where identities are
distinct the cursor is in the lines of one block only, and the line that is said to have it
is the one that does (`DrawnDocument.cursorOn_ofDocument`).

What stands behind the marks of the lines of a block is its text
(`DrawnDocument.ShowsText`), except for a blank where the cursor is at a line feed or at the
end.
-/

namespace BlockNotes

/-! ## Styles -/

theorem Style.reversed_mark (s : Style) (m : Mark) : (s.mark m).reversed = s.reversed := by
  cases m <;> rfl

theorem StyledRange.reversed_ofLeaves (start : Nat) (ls : List Leaf) :
    ∀ r ∈ ofLeaves start ls, r.style.reversed = false := by
  induction ls generalizing start with
  | nil => exact List.forall_mem_nil _
  | cons l ls ih =>
    have hmarks : ∀ (ms : List Mark) (s : Style), s.reversed = false →
        (ms.foldl Style.mark s).reversed = false := by
      intro ms
      induction ms with
      | nil => exact fun s hs => hs
      | cons m ms ih => exact fun s hs => ih _ ((s.reversed_mark m).trans hs)
    exact List.forall_mem_cons.mpr ⟨hmarks _ {} rfl, ih _⟩

/-- No run of a block is reversed. -/
theorem StyledRange.reversed_ofBlock (b : Block) (spans : List Span) :
    ∀ r ∈ ofBlock b spans, r.style.reversed = false := by
  unfold ofBlock
  split
  next => exact List.forall_mem_map.mpr fun _ _ => rfl
  next => exact reversed_ofLeaves 0 b.leaves

/-! ## Lines of a block -/

/-- A block is left to the blocks below it, or it is an image, or its text is drawn. -/
theorem Block.drawn_cases (b : Block) : b.drawsBlocks = true ∨
    (b.drawsBlocks = false ∧ ∃ url, b.kind = .image url) ∨
    (b.drawsBlocks = false ∧ b.kind.isVoid = false ∧ b.isTextBlock = true) := by
  cases hskip : b.drawsBlocks with
  | true => exact .inl rfl
  | false =>
    have htext : b.isTextBlock = true := by
      rw [drawsBlocks, Bool.or_eq_false_iff] at hskip
      simpa using hskip.2
    cases hkind : b.kind with
    | image url => exact .inr (.inl ⟨rfl, url, rfl⟩)
    | _ => exact .inr (.inr ⟨rfl, rfl, htext⟩)

namespace DrawnDocument

open StyledText (Plain CursorOn ink)

/-- The lines of a block that is drawn by itself. -/
def linesOf (d : Document) (table : SpanTable) (x : Path × Block) : List ScreenLine :=
  (addBlock d table (.ofDocument d) ⟨[], 0⟩ x).lines

/-- The line above a code block, with its language. -/
def header (d : Document) (path : Path) (b : Block) : List ScreenLine :=
  match b.kind.language? with
  | some language => [caption (lead d path) ("``` " ++ language).toList .darkGray]
  | none => []

variable {d : Document} {table : SpanTable} {path : Path} {b : Block}

/-- The lines of a block with text, whatever is drawn above them. -/
theorem addBlock_of_text (hskip : b.drawsBlocks = false) (hvoid : b.kind.isVoid = false)
    (selection : SelectedBlocks) (drawn : DrawnDocument) :
    addBlock d table selection drawn (path, b) =
      let lines := drawn.lines ++ header d path b
      let o := selection.overlay b.id b.text.bytes
      { lines := lines ++
          textLines (lead d path) (marker d path b.kind) b (table.get b.id) o
        cursorLine := match o.cursor with
          | some cursor => lines.length + ((b.text.take? cursor).getD []).count '\n'
          | none => drawn.cursorLine } := by
  rw [Block.drawsBlocks] at hskip
  rw [addBlock, if_neg (by rw [hskip]; exact Bool.false_ne_true)]
  dsimp only
  split
  next url hkind => rw [hkind] at hvoid; cases hvoid
  next => rfl

theorem addBlock_of_drawsBlocks (hskip : b.drawsBlocks = true) (selection : SelectedBlocks)
    (drawn : DrawnDocument) : addBlock d table selection drawn (path, b) = drawn :=
  if_pos hskip

theorem addBlock_of_image {url : String} (hskip : b.drawsBlocks = false)
    (hkind : b.kind = .image url) (selection : SelectedBlocks) (drawn : DrawnDocument) :
    addBlock d table selection drawn (path, b) =
      { drawn with
        lines := drawn.lines ++ [caption (lead d path) ("[image] " ++ url).toList .cyan] } := by
  rw [Block.drawsBlocks] at hskip
  rw [addBlock, if_neg (by rw [hskip]; exact Bool.false_ne_true)]
  dsimp only
  rw [hkind]

/-- A block is drawn below what is there, as it is by itself. -/
theorem lines_addBlock (drawn : DrawnDocument) (x : Path × Block) :
    (addBlock d table (.ofDocument d) drawn x).lines = drawn.lines ++ linesOf d table x := by
  obtain ⟨path, b⟩ := x
  rcases b.drawn_cases with hskip | ⟨hskip, url, hkind⟩ | ⟨hskip, hvoid, -⟩
  · rw [linesOf, addBlock_of_drawsBlocks hskip, addBlock_of_drawsBlocks hskip, List.append_nil]
  · rw [linesOf, addBlock_of_image hskip hkind, addBlock_of_image hskip hkind]
    rfl
  · rw [linesOf, addBlock_of_text hskip hvoid, addBlock_of_text hskip hvoid]
    dsimp only
    rw [List.nil_append, List.append_assoc]

theorem lines_foldl (drawn : DrawnDocument) (xs : List (Path × Block)) :
    (xs.foldl (addBlock d table (.ofDocument d)) drawn).lines =
      drawn.lines ++ xs.flatMap (linesOf d table) := by
  induction xs generalizing drawn with
  | nil => exact (List.append_nil _).symm
  | cons x xs ih => rw [List.foldl_cons, ih, lines_addBlock, List.append_assoc, List.flatMap_cons]

/-- The screen has the lines of the blocks, in the order of the walk. -/
theorem lines_ofDocument (d : Document) (table : SpanTable) :
    (ofDocument d table).lines = d.walk.flatMap (linesOf d table) :=
  lines_foldl ⟨[], 0⟩ d.walk

/-- The lines of a block are those of its text, with what stands in front of them. -/
theorem exists_textLines (lead marker : Text) (b : Block) (spans : List Span) (o : Overlay) :
    ∃ style front front' first rest,
      StyledText.lines b.text (StyledRange.ofBlock b spans) o = first :: rest ∧
      textLines lead marker b spans o = ⟨style, front ++ first⟩ ::
        rest.map (fun line => ⟨style, front' ++ line⟩) ∧
      front.map StyledText.text = [lead, marker] ∧
      front'.map StyledText.text = [continuation lead marker b.kind] ∧
      Plain front ∧ Plain front' := by
  obtain ⟨first, rest, hlines⟩ := List.exists_cons_of_ne_nil
    (StyledText.breakLines_ne_nil (StyledText.drawn b.text (StyledRange.ofBlock b spans) o))
  rw [← StyledText.lines_eq] at hlines
  unfold textLines
  rw [hlines]
  refine ⟨_, [⟨lead, {}⟩, ⟨marker, _⟩], [⟨_, _⟩], first, rest, rfl, rfl, rfl, rfl, ?_, ?_⟩
  · refine List.forall_mem_cons.mpr ⟨rfl, List.forall_mem_singleton.mpr ?_⟩
    dsimp only
    split <;> rfl
  · refine List.forall_mem_singleton.mpr ?_
    dsimp only
    split <;> rfl

/-- Lines show the text of a block behind what stands in front of them, the blank of the cursor
aside.  In front of the first line there are two parts, and one in front of the others. -/
def ShowsText (d : Document) (path : Path) (b : Block) (blank : Bool) (lines : List ScreenLine) :
    Prop :=
  ∃ first rest, lines = first :: rest ∧
    first.texts.take 2 = [lead d path, marker d path b.kind] ∧
    (∀ l ∈ rest, l.texts.take 1 = [continuation (lead d path) (marker d path b.kind) b.kind]) ∧
    Text.ofLines ((first.parts.drop 2).flatMap (ink blank) ::
      rest.map fun l => (l.parts.drop 1).flatMap (ink blank)) = b.text

/-- What is drawn of a block with text shows the text. -/
theorem showsText_textLines (d : Document) (path : Path) (hb : b.isTextBlock = true)
    (spans : List Span) {o : Overlay}
    (hcursor : ∀ n, o.cursor = some n → b.text.isBoundary n = true) :
    ShowsText d path b (o.hasBlank b.text)
      (textLines (lead d path) (marker d path b.kind) b spans o) := by
  have htext := StyledText.ofLines_lines (StyledRange.tiles_ofBlock hb spans)
    (StyledRange.reversed_ofBlock b spans) hcursor
  obtain ⟨style, front, front', first, rest, hlines, hdrawn, hfront, hfront', -⟩ :=
    exists_textLines (lead d path) (marker d path b.kind) b spans o
  have hlength : front.length = 2 := by simpa using congrArg List.length hfront
  have hlength' : front'.length = 1 := by simpa using congrArg List.length hfront'
  rw [hlines, List.map_cons] at htext
  rw [hdrawn]
  refine ⟨_, _, rfl, ?_, ?_, ?_⟩
  · rw [ScreenLine.texts, List.map_append, hfront]
    rfl
  · refine List.forall_mem_map.mpr fun line _ => ?_
    rw [ScreenLine.texts, List.map_append, hfront']
    rfl
  · rw [List.map_map, ← hlength, List.drop_left]
    simp only [Function.comp_def, ← hlength', List.drop_left]
    exact htext

/-- The cursor is on one of the lines of its block, with as many above it as there are line feeds
before it. -/
theorem cursorOn_textLines (lead marker : Text) (hb : b.isTextBlock = true) (spans : List Span)
    {o : Overlay} {n : Nat} (hn : b.text.isBoundary n = true) (hcursor : o.cursor = some n) :
    CursorOn ((textLines lead marker b spans o).map ScreenLine.parts)
      (((b.text.take? n).getD []).count '\n') (b.text.cell n) := by
  have hon := StyledText.cursorOn_lines (StyledRange.tiles_ofBlock hb spans)
    (StyledRange.reversed_ofBlock b spans) hn hcursor
  obtain ⟨style, front, front', first, rest, hlines, hdrawn, -, -, hplain, hplain'⟩ :=
    exists_textLines lead marker b spans o
  rw [hlines] at hon
  rw [hdrawn, List.map_cons, List.map_map]
  exact hon.framed hplain hplain'

/-- Without a cursor nothing in the lines of a text is reversed. -/
theorem plain_textLines (lead marker : Text) (hb : b.isTextBlock = true) (spans : List Span)
    {o : Overlay} (hcursor : o.cursor = none) :
    ∀ l ∈ textLines lead marker b spans o, Plain l.parts := by
  have hlines := StyledText.plain_breakLines (StyledText.drawn_of_none
    (StyledRange.tiles_ofBlock hb spans) (StyledRange.reversed_ofBlock b spans) hcursor).2
  obtain ⟨style, front, front', first, rest, heq, hdrawn, -, -, hplain, hplain'⟩ :=
    exists_textLines lead marker b spans o
  rw [← StyledText.lines_eq, heq, List.forall_mem_cons] at hlines
  rw [hdrawn]
  refine List.forall_mem_cons.mpr ⟨List.forall_mem_append.mpr ⟨hplain, hlines.1⟩, ?_⟩
  exact List.forall_mem_map.mpr fun line hline =>
    List.forall_mem_append.mpr ⟨hplain', hlines.2 line hline⟩

theorem plain_caption (lead t : Text) (colour : Colour) :
    ∀ l ∈ [caption lead t colour], Plain l.parts :=
  List.forall_mem_singleton.mpr (List.forall_mem_cons.mpr ⟨rfl, List.forall_mem_singleton.mpr rfl⟩)

theorem plain_header (d : Document) (path : Path) (b : Block) :
    ∀ l ∈ header d path b, Plain l.parts := by
  unfold header
  split
  next => exact plain_caption _ _ _
  next => exact List.forall_mem_nil _

/-- Nothing of a block is reversed if the cursor is not in it. -/
theorem plain_linesOf
    (hcursor : ((SelectedBlocks.ofDocument d).overlay b.id b.text.bytes).cursor = none) :
    ∀ l ∈ linesOf d table (path, b), Plain l.parts := by
  rcases b.drawn_cases with hskip | ⟨hskip, url, hkind⟩ | ⟨hskip, hvoid, hb⟩
  · rw [linesOf, addBlock_of_drawsBlocks hskip]
    exact List.forall_mem_nil _
  · rw [linesOf, addBlock_of_image hskip hkind]
    exact plain_caption _ _ _
  · rw [linesOf, addBlock_of_text hskip hvoid]
    exact List.forall_mem_append.mpr ⟨plain_header d path b, plain_textLines _ _ hb _ hcursor⟩

/-! ## The cursor of a document -/

/-- The cursor is drawn in the block of the focus and nowhere else. -/
theorem cursor_overlay {s : Range} (hs : d.selection = some s) {p : BlockPoint}
    (hp : d.blockPoint s.focus = .ok p) (id : BlockId) (size : Nat) :
    ((SelectedBlocks.ofDocument d).overlay id size).cursor =
      if p.block = id then some (min p.offset size) else none := by
  simp only [SelectedBlocks.overlay, SelectedBlocks.ofDocument, hs, Option.bind_some, hp]
  rfl

/-- Blocks without the cursor do not move it. -/
theorem cursorLine_foldl {xs : List (Path × Block)}
    (hcursor : ∀ x ∈ xs,
      ((SelectedBlocks.ofDocument d).overlay x.2.id x.2.text.bytes).cursor = none)
    (drawn : DrawnDocument) :
    (xs.foldl (addBlock d table (.ofDocument d)) drawn).cursorLine = drawn.cursorLine := by
  induction xs generalizing drawn with
  | nil => rfl
  | cons x xs ih =>
    obtain ⟨hx, hxs⟩ := List.forall_mem_cons.mp hcursor
    obtain ⟨path, b⟩ := x
    rw [List.foldl_cons, ih hxs]
    rcases b.drawn_cases with hskip | ⟨hskip, url, hkind⟩ | ⟨hskip, hvoid, -⟩
    · rw [addBlock_of_drawsBlocks hskip]
    · rw [addBlock_of_image hskip hkind]
    · rw [addBlock_of_text hskip hvoid]
      dsimp only at hx ⊢
      rw [hx]

/-- The cursor is on its line of the screen. -/
theorem cursorOn_ofDocument (hids : d.ids.Nodup) {s : Range} (hs : d.selection = some s) {n : Nat}
    (hfocus : d.Site s.focus path b n) (hlist : b.kind.isList = false)
    (hvoid : b.kind.isVoid = false) (table : SpanTable) :
    CursorOn ((ofDocument d table).lines.map ScreenLine.parts) (ofDocument d table).cursorLine
      (b.text.cell n) := by
  have hn : b.text.isBoundary n = true := by
    rw [Block.text_eq_ownText hfocus.isTextBlock]
    exact hfocus.isBoundary
  have hskip : b.drawsBlocks = false := by
    rw [Block.drawsBlocks, hlist, hfocus.isTextBlock]
    rfl
  have hcursor := cursor_overlay hs hfocus.blockPoint_eq
  obtain ⟨xs, ys, hwalk⟩ := List.append_of_mem (Document.mem_walk.mpr hfocus.blockAt?)
  -- The block of the focus occurs once, so there is no cursor in the others.
  have hothers : ∀ x ∈ xs ++ ys,
      ((SelectedBlocks.ofDocument d).overlay x.2.id x.2.text.bytes).cursor = none := by
    rw [← Document.map_id_walk, hwalk, List.map_append, List.map_cons, List.nodup_middle,
      List.nodup_cons, ← List.map_append] at hids
    intro x hx
    rw [hcursor, if_neg]
    intro (heq : b.id = x.2.id)
    exact hids.1 (List.mem_map.mpr ⟨x, hx, heq.symm⟩)
  have hplain : ∀ zs : List (Path × Block), zs ⊆ xs ++ ys →
      ∀ l ∈ (zs.flatMap (linesOf d table)).map ScreenLine.parts, Plain l := by
    intro zs hzs
    refine List.forall_mem_map.mpr fun l hl => ?_
    obtain ⟨x, hx, hl⟩ := List.mem_flatMap.mp hl
    exact plain_linesOf (hothers x (hzs hx)) l hl
  have hhere : ((SelectedBlocks.ofDocument d).overlay b.id b.text.bytes).cursor = some n := by
    rw [hcursor, if_pos rfl, Nat.min_eq_left (Text.le_bytes_of_isBoundary hn)]
  have hon := cursorOn_textLines (lead d path) (marker d path b.kind) hfocus.isTextBlock
    (table.get b.id) hn hhere
  have hline : (ofDocument d table).cursorLine =
      ((xs.flatMap (linesOf d table) ++ header d path b).map ScreenLine.parts).length +
        ((b.text.take? n).getD []).count '\n' := by
    rw [ofDocument, hwalk, List.foldl_append, List.foldl_cons,
      cursorLine_foldl fun x hx => hothers x (List.mem_append_right xs hx),
      addBlock_of_text hskip hvoid]
    dsimp only
    rw [hhere, lines_foldl, List.nil_append, List.length_map]
  have hlines : (ofDocument d table).lines =
      (xs.flatMap (linesOf d table) ++ header d path b) ++
        textLines (lead d path) (marker d path b.kind) b (table.get b.id)
          ((SelectedBlocks.ofDocument d).overlay b.id b.text.bytes) ++
        ys.flatMap (linesOf d table) := by
    rw [lines_ofDocument, hwalk, List.flatMap_append, List.flatMap_cons, linesOf,
      addBlock_of_text hskip hvoid]
    simp only [List.nil_append, List.append_assoc]
  rw [hline, hlines, List.map_append, List.map_append]
  refine hon.around ?_ (hplain ys (List.subset_append_right xs ys))
  rw [List.map_append]
  exact List.forall_mem_append.mpr ⟨hplain xs (List.subset_append_left xs ys),
    List.forall_mem_map.mpr (plain_header d path b)⟩

/-- What is on the screen of a document with a cursor in a block that is no list and no image, with
any spans.

* One part of what is drawn is reversed.  It is on the line of the cursor, and it is the character
  at the cursor, or a blank if the cursor is at a line feed or at the end of the text.
* The lines are those of the blocks, one after the other.  A block that is left to the blocks below
  it has none, and an image has one that does not show its text.  The lines of any other block
  give its text, put together with line feeds, without what stands in front of them and without
  the blank of the cursor. -/
theorem shows_text_and_cursor (hids : d.ids.Nodup) (huniform : Node.Uniform d.children) {s : Range}
    (hs : d.selection = some s) {n : Nat} (hb : d.blockAt? path = some b)
    (hfocus : d.blockPoint s.focus = .ok ⟨b.id, n⟩) (hlist : b.kind.isList = false)
    (hvoid : b.kind.isVoid = false) (table : SpanTable) :
    CursorOn ((ofDocument d table).lines.map ScreenLine.parts) (ofDocument d table).cursorLine
      (b.text.cell n) ∧
    (ofDocument d table).lines = d.walk.flatMap (linesOf d table) ∧
    ∀ path' c, d.blockAt? path' = some c →
      (c.drawsBlocks = true ∧ linesOf d table (path', c) = []) ∨
      (∃ url, c.kind = .image url ∧ linesOf d table (path', c) =
        [caption (lead d path') ("[image] " ++ url).toList .cyan]) ∨
      ∃ lines, linesOf d table (path', c) = header d path' c ++ lines ∧
        ShowsText d path' c (decide (c.id = b.id) && c.text.endsLine n) lines := by
  have hsite := Document.site_of_blockPoint hids hb
    (Document.isTextBlock_of_blockPoint hids huniform hb hfocus) hfocus
  have hn : b.text.isBoundary n = true := by
    rw [Block.text_eq_ownText hsite.isTextBlock]
    exact hsite.isBoundary
  refine ⟨cursorOn_ofDocument hids hs hsite hlist hvoid table, lines_ofDocument d table, ?_⟩
  intro path' c hc
  rcases c.drawn_cases with hskip | ⟨hskip, url, hkind⟩ | ⟨hskip, hvoid', htext⟩
  · exact .inl ⟨hskip, by rw [linesOf, addBlock_of_drawsBlocks hskip]⟩
  · exact .inr (.inl ⟨url, hkind, by rw [linesOf, addBlock_of_image hskip hkind]; rfl⟩)
  · refine .inr (.inr ⟨_, by rw [linesOf, addBlock_of_text hskip hvoid']; rfl, ?_⟩)
    have hcursor := cursor_overlay hs hfocus c.id c.text.bytes
    by_cases hid : c.id = b.id
    · obtain ⟨rfl, rfl⟩ := Document.eq_of_id_eq hids hc hb hid
      rw [if_pos rfl, Nat.min_eq_left (Text.le_bytes_of_isBoundary hn)] at hcursor
      have hshows := showsText_textLines d path' htext (table.get c.id)
        (o := (SelectedBlocks.ofDocument d).overlay c.id c.text.bytes)
        fun m hm => Option.some_inj.mp (hcursor.symm.trans hm) ▸ hn
      rw [Overlay.hasBlank, hcursor, Option.any_some] at hshows
      rwa [decide_eq_true rfl, Bool.true_and]
    · rw [if_neg (Ne.symm hid)] at hcursor
      have hshows := showsText_textLines d path' htext (table.get c.id)
        (o := (SelectedBlocks.ofDocument d).overlay c.id c.text.bytes)
        fun m hm => by cases hcursor.symm.trans hm
      rw [Overlay.hasBlank, hcursor, Option.any_none] at hshows
      rwa [decide_eq_false hid, Bool.false_and]

/-- A heading and two lines of code in a quotation.  The selection ends behind the first line. -/
def quoted : Document :=
  { children := [.block ⟨1, .quote, [.block ⟨2, .heading 1, [.leaf (.ofText ['é', 'b'])]⟩,
      .block ⟨3, .code "text", [.leaf (.ofText ['a', '\n', 'b'])]⟩]⟩]
    selection := some ⟨⟨[0, 0, 0], 2⟩, ⟨[0, 1, 0], 1⟩⟩, version := 4, nextId := 5 }

/-- The blank stands behind the first line of code, under the heading and the line with the language.
The spans are those of another text. -/
theorem shows_text_and_cursor_quoted :
    let table : SpanTable := ⟨[(3, [⟨3, 0, 9, .ofList ["x"]⟩, ⟨3, 2, 1, .ofList ["y"]⟩])]⟩
    quoted.ids.Nodup ∧ Node.Uniform quoted.children ∧
      (ofDocument quoted table).cursorLine = 2 ∧
      CursorOn ((ofDocument quoted table).lines.map ScreenLine.parts) 2 [' '] := by
  intro table
  have hids : quoted.ids.Nodup := by decide
  have huniform : Node.Uniform quoted.children := by
    simp [Node.uniform_block, quoted, Node.Homogeneous, Node.AreLeaves, Node.AreBlocks,
      Node.isLeaf, Node.uniform_nil, Node.Everywhere, Block.Everywhere]
  have hline : (ofDocument quoted table).cursorLine = 2 := by decide +kernel
  have hb : quoted.blockAt? [0, 1] = some ⟨3, .code "text", [.leaf (.ofText ['a', '\n', 'b'])]⟩ := rfl
  have hshown := shows_text_and_cursor hids huniform rfl (n := 1) hb rfl rfl rfl table
  rw [hline] at hshown
  exact ⟨hids, huniform, hline, hshown.1⟩

/-- An image behind a paragraph with the cursor.  The image has a text. -/
def pictured : Document :=
  { children := [.block ⟨1, .paragraph, [.leaf (.ofText ['a'])]⟩,
      .block ⟨2, .image "a.png", [.leaf (.ofText ['b'])]⟩]
    selection := some (.collapsed ⟨[0, 0], 0⟩), version := 1, nextId := 3 }

/-- The text of an image is not what its line shows, whichever parts of the line are taken for marks
in front of the text. -/
theorem image_not_showsText :
    pictured.ids.Nodup ∧ Node.Uniform pictured.children ∧
      pictured.blockPoint ⟨[0, 0], 0⟩ = .ok ⟨1, 0⟩ ∧
      ∃ b, pictured.blockAt? [1] = some b ∧ b.drawsBlocks = false ∧
        ∀ table n, Text.ofLines ((linesOf pictured table ([1], b)).map fun l =>
          (l.parts.drop n).flatMap (ink false)) ≠ b.text := by
  refine ⟨by decide, ?_, rfl, ⟨2, .image "a.png", [.leaf (.ofText ['b'])]⟩, rfl, rfl, ?_⟩
  · simp [Node.uniform_block, pictured, Node.Homogeneous, Node.AreLeaves, Node.AreBlocks,
      Node.isLeaf, Node.uniform_nil, Node.Everywhere]
  · intro table n
    have hlines : linesOf pictured table ([1], ⟨2, .image "a.png", [.leaf (.ofText ['b'])]⟩) =
        [caption [] "[image] a.png".toList .cyan] := rfl
    rw [hlines]
    match n with
    | 0 => decide
    | 1 => decide
    | n + 2 =>
      rw [List.map_singleton, caption, List.drop_succ_cons, List.drop_succ_cons, List.drop_nil]
      decide

end DrawnDocument

end BlockNotes
