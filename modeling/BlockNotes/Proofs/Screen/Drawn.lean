import BlockNotes.Proofs.Document.Prose
import BlockNotes.Proofs.Document.Selection
import BlockNotes.Proofs.Document.Stored
import BlockNotes.Proofs.Highlight.Sweep
import BlockNotes.Screen.Lines

/-!
# What is drawn

The text of a block is cut three times before it is drawn: into runs, into pieces
around line feeds and the edges of the overlay, and into lines.  Runs tile the
text, whether they come from leaves or from any spans, pieces make up their run,
and lines hold all pieces but the line feeds.  So the text of a block appears in
its lines (`DrawnDocument.appearsIn_textLines`).

Not every block is drawn.  A list is not, and neither is a block with a block among
its children; of both only the blocks below are.  Leaves that stand there are not
on the screen (`DrawnDocument.exists_not_drawn`), and these are the only ones
(`DrawnDocument.draws_loaded`).
-/

namespace BlockNotes

open Text (AppearsIn)

/-! ## The text on the screen -/

/-- What stands in the parts of a line. -/
def StyledText.textOf (parts : List StyledText) : Text := parts.flatMap StyledText.text

/-- What stands on the screen, line after line. -/
def DrawnDocument.text (drawn : DrawnDocument) : Text :=
  drawn.lines.flatMap fun l => StyledText.textOf l.parts

/-- Whether of a block only the blocks below it are drawn. -/
def Block.drawsBlocks (b : Block) : Bool :=
  b.kind.isList || !b.isTextBlock

/-! ## Lines of a text -/

namespace StyledText

@[simp] theorem textOf_nil : textOf [] = [] := rfl

@[simp] theorem textOf_cons (s : StyledText) (parts : List StyledText) :
    textOf (s :: parts) = s.text ++ textOf parts := List.flatMap_cons

/-- No character is lost where a text is cut into pieces. -/
theorem flatMap_pieces (o : Overlay) (offset : Nat) (t : Text) :
    (pieces o offset t).flatMap Prod.snd = t := by
  induction t generalizing offset with
  | nil => rfl
  | cons c t ih =>
    have hrest := ih (offset + c.utf8Size)
    dsimp only [pieces]
    split
    next hnil =>
      rw [hnil] at hrest
      rw [← hrest]
      rfl
    next start piece more hpieces =>
      rw [hpieces, List.flatMap_cons] at hrest
      split <;> simp only [List.flatMap_cons, ← hrest, List.cons_append, List.nil_append]

/-- What is drawn of something that may be an end of line. -/
def drawnText (s : Option StyledText) : Text := (s.map StyledText.text).getD []

/-- Of a piece only a line feed is not drawn. -/
theorem appearsIn_ofPiece (o : Overlay) (style : Style) (p : Nat × Text) :
    AppearsIn p.2 ((ofPiece o style p).flatMap drawnText) := by
  obtain ⟨offset, piece⟩ := p
  dsimp only [ofPiece]
  split
  next hfeed =>
    rw [hfeed]
    exact List.nil_sublist _
  next =>
    rw [List.flatMap_singleton]
    exact .refl piece

/-- Lines hold all that is not an end of line. -/
theorem flatMap_breakLines (xs : List (Option StyledText)) :
    (breakLines xs).flatMap textOf = xs.flatMap drawnText := by
  induction xs with
  | nil => rfl
  | cons x xs ih =>
    cases x with
    | none => rw [breakLines, List.flatMap_cons, List.flatMap_cons, ih]; rfl
    | some s =>
      rw [breakLines, List.flatMap_cons, ← ih]
      split
      next hnil => rw [hnil]; simp [drawnText]
      next line more hlines => rw [hlines]; simp [drawnText]

/-- A text appears in its lines, if the runs tile it. -/
theorem appearsIn_lines {t : Text} {runs : List StyledRange}
    (hruns : t.Tiles 0 (runs.map fun r => (r.start, r.stop))) (o : Overlay) :
    AppearsIn t ((lines t runs o).flatMap textOf) := by
  have hslices : runs.flatMap (fun r => (t.slice? r.start r.stop).getD []) = t := by
    have hstart : t.Tiles (Text.bytes []) (runs.map fun r => (r.start, r.stop)) := hruns
    have h := hstart.flatMap_slice? (List.nil_append t).symm
    rwa [List.flatMap_map] at h
  have hrun : ∀ r ∈ runs, AppearsIn ((t.slice? r.start r.stop).getD [])
      (((pieces o r.start ((t.slice? r.start r.stop).getD [])).flatMap
        (ofPiece o r.style)).flatMap drawnText) := by
    intro r _
    rw [List.flatMap_assoc]
    have h := AppearsIn.flatMap fun p (_ : p ∈ pieces o r.start ((t.slice? r.start r.stop).getD [])) =>
      appearsIn_ofPiece o r.style p
    rwa [flatMap_pieces] at h
  unfold lines
  rw [flatMap_breakLines, List.flatMap_append, List.flatMap_assoc]
  have hdrawn := AppearsIn.flatMap hrun
  rw [hslices] at hdrawn
  exact hdrawn.trans_sublist (List.sublist_append_left _ _)

end StyledText

/-! ## Runs of a block -/

namespace StyledRange

theorem tiles_ofLeaves (before : Text) (ls : List Leaf) :
    (before ++ ls.flatMap Leaf.text).Tiles before.bytes
      ((ofLeaves before.bytes ls).map fun r => (r.start, r.stop)) := by
  induction ls generalizing before with
  | nil => simp [ofLeaves, Text.Tiles]
  | cons l ls ih =>
    have hrest := ih (before ++ l.text)
    rw [Text.bytes_append, List.append_assoc, ← List.flatMap_cons] at hrest
    refine ⟨rfl, Nat.le_add_right _ _, ?_, hrest⟩
    rw [Text.isBoundary_append_right, List.flatMap_cons]
    exact Text.isBoundary_iff.mpr ⟨l.text, ls.flatMap Leaf.text, rfl, rfl⟩

theorem textOf_eq_flatMap {ns : List Node} (h : Node.AreLeaves ns) :
    Node.textOf ns = (ns.filterMap Node.leaf?).flatMap Leaf.text := by
  induction ns with
  | nil => rfl
  | cons n ns ih =>
    obtain ⟨hn, hns⟩ := List.forall_mem_cons.mp h
    cases n with
    | leaf l =>
      rw [Node.textOf, ih hns]
      rfl
    | block b => cases hn

/-- The runs of a text block tile its text, whatever spans were found for it. -/
theorem tiles_ofBlock {b : Block} (hb : b.isTextBlock = true) (spans : List Span) :
    b.text.Tiles 0 ((ofBlock b spans).map fun r => (r.start, r.stop)) := by
  unfold ofBlock
  split
  next =>
    rw [List.map_map]
    exact Run.tiles_ofSpans b.text spans
  next =>
    have htext : b.text = b.leaves.flatMap Leaf.text := by
      cases b
      exact textOf_eq_flatMap (Node.areLeaves_iff.mpr hb)
    rw [htext]
    exact tiles_ofLeaves [] b.leaves

end StyledRange

/-! ## Lines of a document -/

namespace DrawnDocument

open StyledText (textOf)

/-- The text of a block appears in its lines. -/
theorem appearsIn_textLines (lead marker : Text) {b : Block} (hb : b.isTextBlock = true)
    (spans : List Span) (o : Overlay) :
    AppearsIn b.text ((textLines lead marker b spans o).flatMap fun l => textOf l.parts) := by
  have hlines := StyledText.appearsIn_lines (StyledRange.tiles_ofBlock hb spans) o
  -- what stands in front of a line only adds to it
  have hrest : ∀ (style : Style) (front : StyledText) (lines : List (List StyledText)),
      (lines.flatMap textOf).Sublist
        ((lines.map fun line => (⟨style, front :: line⟩ : ScreenLine)).flatMap fun l =>
          textOf l.parts) := by
    intro style front lines
    induction lines with
    | nil => exact List.Sublist.refl []
    | cons line lines ih =>
      rw [List.map_cons, List.flatMap_cons, List.flatMap_cons, StyledText.textOf_cons]
      exact (List.sublist_append_right front.text (textOf line)).append ih
  unfold textLines
  dsimp only
  split
  next hnil =>
    rw [hnil] at hlines
    exact hlines
  next first rest hcons =>
    rw [hcons, List.flatMap_cons] at hlines
    refine hlines.trans_sublist ?_
    rw [List.flatMap_cons, StyledText.textOf_cons, StyledText.textOf_cons]
    refine List.Sublist.append ?_ (hrest _ _ rest)
    exact (List.sublist_append_right marker (textOf first)).trans (List.sublist_append_right lead _)

/-- What is drawn of a block: its text, unless it is a list, an image, or no text block. -/
def shown (b : Block) : Text :=
  if b.drawsBlocks || b.kind.isVoid then [] else b.text

/-- A block adds lines in which its text appears. -/
theorem exists_lines_addBlock (d : Document) (table : SpanTable) (selection : SelectedBlocks)
    (drawn : DrawnDocument) (path : Path) (b : Block) :
    ∃ added, (addBlock d table selection drawn (path, b)).lines = drawn.lines ++ added ∧
      AppearsIn (shown b) (added.flatMap fun l => textOf l.parts) := by
  by_cases hskip : (b.kind.isList || !b.isTextBlock) = true
  · refine ⟨[], ?_, ?_⟩
    · rw [addBlock, if_pos hskip, List.append_nil]
    · rw [shown, Block.drawsBlocks, hskip]
      exact .nil _
  · rw [addBlock, if_neg hskip]
    dsimp only
    split
    next url hkind =>
      refine ⟨_, rfl, ?_⟩
      rw [shown, hkind, Kind.isVoid, Bool.or_true]
      exact .nil _
    next hkind =>
      refine ⟨_, List.append_assoc _ _ _, ?_⟩
      have htext : b.isTextBlock = true := by
        simp only [Bool.or_eq_true, not_or] at hskip
        simpa using hskip.2
      have hvoid : b.kind.isVoid = false := by
        cases hk : b.kind with
        | image url => exact absurd hk (hkind url)
        | _ => rfl
      rw [shown, Block.drawsBlocks, hvoid, Bool.or_false, if_neg hskip, List.flatMap_append]
      exact (appearsIn_textLines _ _ htext _ _).trans_sublist (List.sublist_append_right _ _)

/-- What blocks show appears on the screen when they are drawn one after the other. -/
theorem appearsIn_foldl (d : Document) (table : SpanTable) (selection : SelectedBlocks)
    (xs : List (Path × Block)) {s : Text} {drawn : DrawnDocument} (h : AppearsIn s drawn.text) :
    AppearsIn (s ++ xs.flatMap fun x => shown x.2)
      (xs.foldl (addBlock d table selection) drawn).text := by
  induction xs generalizing s drawn with
  | nil => rwa [List.flatMap_nil, List.append_nil]
  | cons x xs ih =>
    obtain ⟨path, b⟩ := x
    obtain ⟨added, hlines, hadded⟩ := exists_lines_addBlock d table selection drawn path b
    have hstep : AppearsIn (s ++ shown b) (addBlock d table selection drawn (path, b)).text := by
      rw [text, hlines, List.flatMap_append]
      exact h.append hadded
    rw [List.foldl_cons, List.flatMap_cons, ← List.append_assoc]
    exact ih hstep

/-! ## Blocks -/

mutual

/-- The walk meets all blocks that show prose. -/
theorem sublist_walk (path : Path) : (b : Block) →
    (b.proseBut Block.drawsBlocks).Sublist ((b.walk path).flatMap fun x => shown x.2)
  | ⟨id, kind, children⟩ => by
    have hbelow := sublist_walkFrom path 0 children
    rw [Block.proseBut, Block.walk, List.flatMap_cons]
    split
    next => exact List.nil_sublist _
    next hvoid =>
      split
      next => exact hbelow.trans (List.sublist_append_right _ _)
      next hskips =>
        have hshown : shown ⟨id, kind, children⟩ = Node.textOf children := by
          rw [shown, if_neg (by simp [hskips, hvoid]), Block.text]
        rw [hshown]
        exact (Node.proseOf_sublist_textOf children).trans (List.sublist_append_left _ _)

theorem sublist_walkFrom (parent : Path) (index : Nat) : (ns : List Node) →
    (Node.proseButOf Block.drawsBlocks ns).Sublist
      ((Node.walkFrom parent index ns).flatMap fun x => shown x.2)
  | [] => List.Sublist.refl []
  | .leaf _ :: rest => sublist_walkFrom parent (index + 1) rest
  | .block b :: rest => by
    rw [Node.proseButOf, Node.walkFrom, List.flatMap_append]
    exact (sublist_walk _ b).append (sublist_walkFrom parent (index + 1) rest)

end

theorem proseBut_appearsIn_ofDocument (d : Document) (table : SpanTable) :
    (d.proseBut Block.drawsBlocks).AppearsIn (ofDocument d table).text := by
  have hwalk := appearsIn_foldl d table (.ofDocument d) d.walk
    (AppearsIn.nil (DrawnDocument.text ⟨[], 0⟩))
  exact (List.Sublist.filter _ (sublist_walkFrom [] 0 d.children)).trans hwalk

/-- The screen of a document that was loaded, with any spans.  The prose appears on it, line feeds
aside and without the leaves that stand directly in a list or beside blocks.  Where there are no
such leaves, the whole prose appears. -/
theorem draws_loaded {t : Text} {d : Document} (h : Document.ofJson? t = some d)
    (table : SpanTable) :
    (d.proseBut Block.drawsBlocks).AppearsIn (ofDocument d table).text ∧
      (d.NoneSkipped Block.drawsBlocks → d.prose.AppearsIn (ofDocument d table).text) := by
  have hdrawn := proseBut_appearsIn_ofDocument d table
  refine ⟨hdrawn, fun hnone => ?_⟩
  obtain ⟨bs, rfl, -⟩ := Document.exists_of_ofJson? h
  have hroot : Node.AreBlocks (Document.ofBlocks bs).children :=
    (Document.usable_ofBlocks bs).settled.areBlocks
  rwa [Document.proseBut_eq_prose hroot hnone] at hdrawn

/-- A list in a quotation, stored and loaded. -/
theorem draws_loaded_quote :
    let t : Text := "[\x7b\"type\":\"block-quote\",\"children\":[".toList ++
      "\x7b\"type\":\"bulleted-list\",\"children\":[".toList ++
      "\x7b\"type\":\"list-item\",\"children\":[\x7b\"text\":\"a\"\x7d]\x7d]\x7d]\x7d]".toList
    ∃ d, Document.ofJson? t = some d ∧ d.prose = ['a'] ∧
      d.prose.AppearsIn (ofDocument d {}).text := by
  intro t
  have ht : t = JsonValue.write (.array [.object [⟨"type".toList, .string "block-quote".toList⟩,
      ⟨"children".toList, .array [.object [⟨"type".toList, .string "bulleted-list".toList⟩,
        ⟨"children".toList, .array [.object [⟨"type".toList, .string "list-item".toList⟩,
          ⟨"children".toList, .array [.object [⟨"text".toList, .string ['a']⟩]]⟩]]⟩]]⟩]]) := by rfl
  have hload : Document.ofJson? t = some (.ofBlocks [.ofKind .quote [.block (.ofKind .bulletList
      [.block (.ofText .listItem ['a'])])]]) := by
    rw [ht, Document.ofJson?, JsonValue.ofText?_write (by decide) (by decide)]
    rfl
  have hchildren : (Document.ofBlocks [.ofKind .quote [.block (.ofKind .bulletList
      [.block (.ofText .listItem ['a'])])]]).children = [.block ⟨1, .quote,
        [.block ⟨2, .bulletList, [.block ⟨3, .listItem, [.leaf (.ofText ['a'])]⟩]⟩]⟩] := by rfl
  refine ⟨_, hload, by rfl, (draws_loaded hload {}).2 ?_⟩
  rw [Document.NoneSkipped, hchildren]
  simp [Block.drawsBlocks, Kind.isList, Block.isTextBlock, Node.isLeaf, Node.AreBlocks]

/-- A list with letters directly in it is loaded.  The cursor stands there, and nothing is drawn. -/
theorem exists_not_drawn :
    let t : Text := "[\x7b\"type\":\"bulleted-list\",\"children\":[".toList ++
      "\x7b\"text\":\"abc\"\x7d]\x7d]".toList
    ∃ d, Document.ofJson? t = some d ∧ d.textBlocks.map Prod.fst = [[0]] ∧
      d.prose = ['a', 'b', 'c'] ∧ (ofDocument d {}).lines = [] ∧
      ¬ d.prose.AppearsIn (ofDocument d {}).text := by
  intro t
  have ht : t = JsonValue.write (.array [.object [⟨"type".toList, .string "bulleted-list".toList⟩,
      ⟨"children".toList, .array [.object [⟨"text".toList, .string ['a', 'b', 'c']⟩]]⟩]]) := by rfl
  refine ⟨.ofBlocks [.ofText .bulletList ['a', 'b', 'c']], ?_, by rfl, by rfl, by rfl, by decide⟩
  rw [ht, Document.ofJson?, JsonValue.ofText?_write (by decide) (by decide)]
  rfl

end DrawnDocument

end BlockNotes
