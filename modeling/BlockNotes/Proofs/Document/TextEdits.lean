import BlockNotes.Proofs.Document.Deletion

/-!
# Text edits

The edits that act at the selection.  Each of them first finds the block point
of the selection and a block whose text can be edited, and may be refused there.
If the selection is not collapsed, it is deleted next, and from then on nothing
may fail any more: the block at the start of the deletion is looked up again and
has to be editable still, and the position in it has to be a boundary.  Both are
what a deletion promises (`EditM.Deleted.survives`).
-/

namespace BlockNotes.EditM

variable {G : Prop} {d : Document}

/-! ## Joining to the block before -/

/-- Joining the leaves of a block to the text block before it. -/
theorem certain_join (hd : d.ids.Nodup) {p q : Path} {b c : Block} (hb : d.blockAt? p = some b)
    (hc : d.blockAt? q = some c) (hbtext : b.isTextBlock = true) (hctext : c.isTextBlock = true)
    (hpq : Path.Before p q) {e : Effect} (he : e.changed ≠ []) :
    Certain
      (do
        putChildren q []
        editChildren b.id fun b => some (b.children ++ c.children)
        removeNode q
        pure e)
      d (Outcome G d) := by
  refine .putChildren ?_
  have hcut : Document.Edited G d { d with children := Node.setChildren d.children q [] } :=
    .put_leaves hc (Node.areLeaves_iff.mpr rfl)
  have hframe : Node.blockAt? (Node.setChildren d.children q []) p = Node.blockAt? d.children p :=
    Node.blockAt?_setChildren_of_before (Node.childrenAt?_of_blockAt? hc) (hpq.append_right [0]) rfl
  have hleaves : Node.AreLeaves (b.children ++ c.children) := by
    rw [Node.areLeaves_append]
    exact ⟨Node.areLeaves_iff.mpr hbtext, Node.areLeaves_iff.mpr hctext⟩
  have hjoin := editChildren_eq (hcut.toNumbered.nodup rfl hd) (hframe.trans hb)
    (f := fun b => some (b.children ++ c.children)) rfl
  have hput : Document.Edited G { d with children := Node.setChildren d.children q [] } _ :=
    .put_leaves (hframe.trans hb) hleaves
  refine Certain.step hjoin ?_
  refine (certain_removeNode (G := G) q).bind ?_
  intro _ d' hd'
  exact .pure (.of_ne ((hcut.trans hput).trans hd'.edited) he)

theorem checked_mergeIntoPrevious (hd : d.ids.Nodup) (id : BlockId) :
    Checked (mergeIntoPrevious id) d (Outcome G d) := by
  unfold mergeIntoPrevious
  refine .get ?_
  dsimp only
  split
  next => exact .refuse _
  next => exact .pure ⟨.refl d, fun _ => rfl⟩
  next position hposition =>
    split
    next p b q c hb hc =>
      split
      next =>
        have hremove : Certain (removeNode p) d fun _ => Removed G [p] d := certain_removeNode p
        refine Certain.checked (hremove.bind ?_)
        intro _ d' hd'
        exact .pure (.of_ne hd'.edited (List.cons_ne_nil _ _))
      next =>
        have hbefore : Path.Before p q :=
          Document.before_of_getElem? hd (Nat.lt_succ_self position) hb hc
        obtain ⟨hb, hbtext⟩ := Document.mem_matching.mp (List.mem_of_getElem? hb)
        obtain ⟨hc, hctext⟩ := Document.mem_matching.mp (List.mem_of_getElem? hc)
        rw [hc]
        exact (certain_join hd hb hc hbtext hctext hbefore (List.cons_ne_nil _ _)).checked
    next hnone =>
      obtain ⟨hlt, -⟩ := List.findIdx?_eq_some_iff_getElem.mp hposition
      exact (hnone _ _ _ _ (List.getElem?_eq_getElem (Nat.lt_of_succ_lt hlt))
        (List.getElem?_eq_getElem hlt)).elim

/-! ## Clearing the selection -/

/-- The place where a text edit goes on: a position in a text block that can be edited. -/
structure Ready (p : BlockPoint) (d : Document) : Prop where
  nodup : d.ids.Nodup
  place : ∃ path b, p.In d path b ∧ b.isTextBlock = true ∧ b.kind.isVoid = false

/-- What clearing a selection leaves behind. -/
structure Cleared (G : Prop) (d : Document) (x : BlockPoint × List BlockId) (d' : Document) :
    Prop where
  edited : Document.Edited G d d'
  /-- If no block is named, nothing changed. -/
  idle : x.2 = [] → d' = d
  /-- Text can be put in or the block can be split. -/
  ready : Ready x.1 d'

/-- An expanded selection whose start can be edited is deleted; then the rest has to be certain. -/
theorem checked_deleteSelection {β : Type} {Q : β → Document → Prop} (hd : d.ids.Nodup) (s : Range)
    {f : BlockPoint × List BlockId → EditM β}
    (hf : ∀ x d', Cleared G d x d' → Certain (f x) d' Q) :
    Checked
      (do
        let start ← ofExcept ((← get).blockPoint s.start)
        let _ ← editable start.block
        let x ← deleteRange s
        f x)
      d Q := by
  refine .get (.ofExcept ?_)
  intro start hstart
  refine (checked_editable start.block).guard ?_
  rintro c ⟨hid, htext, hvoid, q, hc⟩
  refine (checked_deleteRange (G := G) hd s).bind ?_
  intro x d' hx
  refine hf x d' ⟨hx.edited, fun hnil => absurd hnil hx.changed, hx.edited.toNumbered.nodup hx.nextId hd, ?_⟩
  obtain ⟨path, b, b', hin, hin', hkind, htext'⟩ := hx.survives
  cases hstart.symm.trans hx.start
  obtain ⟨-, rfl⟩ := Document.eq_of_id_eq hd hc hin.blockAt? (hid.trans hin.id_eq.symm)
  exact ⟨path, b', hin', htext' htext, by rw [hkind, hvoid]⟩

/-- A position in a block that can be edited is ready. -/
theorem ready_of_blockPoint (hd : d.ids.Nodup) {p : Point} {q : BlockPoint}
    (hq : d.blockPoint p = .ok q) {path : Path} {b : Block} (hb : d.blockAt? path = some b)
    (hid : b.id = q.block) (htext : b.isTextBlock = true) (hvoid : b.kind.isVoid = false) :
    Ready q d :=
  ⟨hd, path, b, Document.in_of_blockPoint hd hq hb hid, htext, hvoid⟩

/-! ## Inserting text -/

/-- Putting text in at a position that is ready for it. -/
theorem certain_insertAt {p : BlockPoint} (h : Ready p d) (text : Text) (changed : List BlockId) :
    Certain
      (do
        let _ ← editable p.block
        if text.isEmpty then pure (Effect.goTo changed p)
        else
          editChildren p.block fun b => Node.insertText? b.children p.offset text
          pure (Effect.goTo (changed ++ [p.block]) ⟨p.block, p.offset + text.bytes⟩))
      d fun e d' => Document.Edited G d d' ∧ (e.changed = [] → changed = [] ∧ d' = d) := by
  obtain ⟨hd, path, b, hin, htext, hvoid⟩ := h
  rw [← hin.id_eq]
  refine (certain_editable hd hin.blockAt? htext hvoid).bind ?_
  rintro c d' ⟨rfl, rfl⟩
  split
  next => exact .pure ⟨.refl _, fun hnil => ⟨hnil, rfl⟩⟩
  next =>
    obtain ⟨ns, hns, hblocks⟩ := Node.exists_insertText? text hin.isBoundary
    have hleaves : Node.AreLeaves ns := by
      rw [Node.areLeaves_iff]
      rcases hblocks with hblocks | ⟨-, hblocks⟩
      · exact (Node.all_isLeaf_eq_of_map_block? hblocks).trans htext
      · have hleaf : ns.map Node.block? = [Node.leaf {}].map Node.block? := hblocks
        exact Node.all_isLeaf_eq_of_map_block? hleaf
    refine Certain.step (editChildren_eq hd hin.blockAt? hns) (.pure ⟨?_, ?_⟩)
    · exact .put_leaves hin.blockAt? hleaves
    · intro hnil
      exact absurd hnil (List.append_ne_nil_of_right_ne_nil changed (List.cons_ne_nil _ _))

theorem checked_insertText (hd : d.ids.Nodup) (text : Text) :
    Checked (insertText text) d (Outcome G d) := by
  unfold insertText
  refine checked_selectionPoint.guard ?_
  rintro ⟨s, anchor⟩ hanchor
  dsimp only
  split
  next =>
    -- Whether the block of the anchor can be edited is asked while nothing has changed.
    have hedit : Checked (editable anchor.block) d fun _ d' => d' = d ∧ Ready anchor d := by
      refine (checked_editable anchor.block).mono ?_
      rintro b d' ⟨rfl, hid, htext, hvoid, path, hb⟩
      exact ⟨rfl, ready_of_blockPoint hd hanchor hb hid htext hvoid⟩
    refine .bind_pure ?_
    rcases hedit with ⟨e, herr⟩ | ⟨b, d', hok, rfl, hready⟩
    · exact .inl ⟨e, bind_of_error herr⟩
    · refine ((certain_insertAt (G := G) hready text []).mono ?_).checked
      rintro e d'' ⟨hedited, hidle⟩
      exact ⟨hedited, fun hnil => (hidle hnil).2⟩
  next =>
    refine checked_deleteSelection (G := G) hd s ?_
    intro x d' hx
    refine (certain_insertAt (G := G) hx.ready text x.2).mono ?_
    rintro e d'' ⟨hedited, hidle⟩
    refine ⟨hx.edited.trans hedited, ?_⟩
    intro hnil
    obtain ⟨hx', rfl⟩ := hidle hnil
    exact hx.idle hx'

/-! ## Deleting backward -/

theorem isPrefix_wordBefore (reversed : Text) : wordBefore reversed <+: reversed := by
  have hcut := List.prefix_iff_eq_append.mp (List.takeWhile_prefix Unicode.isBlank (l := reversed))
  unfold wordBefore
  dsimp only
  split
  next hempty =>
    rw [Bool.and_eq_true, List.isEmpty_iff, List.isEmpty_iff] at hempty
    rw [hempty.2]
    exact List.take_prefix 1 reversed
  next =>
    have hword := (List.prefix_append_right_inj (reversed.takeWhile Unicode.isBlank)).mpr
      (List.takeWhile_prefix (fun c => Unicode.isAlphanumeric c || c == '_')
        (l := reversed.drop (reversed.takeWhile Unicode.isBlank).length))
    rwa [hcut] at hword

theorem isPrefix_lineBefore (reversed : Text) : lineBefore reversed <+: reversed := by
  unfold lineBefore
  split
  next rest => exact ⟨rest, rfl⟩
  next => exact List.takeWhile_prefix _

/-- Behind a boundary a deletion starts at a boundary. -/
theorem exists_previousBoundary? {text : Text} {offset : Nat} (unit : DeleteUnit)
    (h : text.isBoundary offset = true) :
    ∃ start, previousBoundary? text offset unit = some start ∧ text.isBoundary start = true := by
  obtain ⟨a, b, rfl, rfl⟩ := Text.isBoundary_iff.mp h
  have htake : (a ++ b).take? (Text.bytes a) = some a := by
    rw [Text.take?, Text.splitAt?_append, Option.map_some]
  rw [previousBoundary?, htake, Option.map_some]
  refine ⟨_, rfl, ?_⟩
  cases unit with
  | character => exact Text.isBoundary_sub_of_prefix (List.take_prefix 1 _)
  | word => exact Text.isBoundary_sub_of_prefix (isPrefix_wordBefore _)
  | line => exact Text.isBoundary_sub_of_prefix (isPrefix_lineBefore _)

theorem checked_deleteBackward (hd : d.ids.Nodup) (unit : DeleteUnit) :
    Checked (deleteBackward unit) d (Outcome G d) := by
  unfold deleteBackward
  refine checked_selectionPoint.guard ?_
  rintro ⟨s, p⟩ hp
  dsimp only
  split
  next =>
    refine (checked_deleteRange (G := G) hd s).bind ?_
    intro x d' hx
    exact .pure (.of_ne hx.edited hx.changed)
  next =>
    refine (checked_editable p.block).guard ?_
    rintro b ⟨hid, htext, -, path, hb⟩
    split
    next =>
      have hin : p.In d path b := Document.in_of_blockPoint hd hp hb hid
      have hboundary : b.text.isBoundary p.offset = true := by
        rw [Block.text_eq_ownText htext]
        exact hin.isBoundary
      obtain ⟨start, hstart, hboundary'⟩ := exists_previousBoundary? unit hboundary
      rw [Block.text_eq_ownText htext] at hboundary'
      obtain ⟨ns, herase⟩ := Node.exists_eraseText? hboundary' hin.isBoundary
      refine Certain.checked (.orLost hstart ?_)
      rw [← hid]
      refine Certain.step (editChildren_eq hd hb herase) (.pure ?_)
      exact .of_ne (.put_blocks hb (Node.map_block?_eraseText? herase)) (List.cons_ne_nil _ _)
    next => exact checked_mergeIntoPrevious hd p.block

/-! ## Splitting -/

/-- What a split does: both parts of a block stand in its place, the second one with a fresh
identity, and the cursor goes to the start of this. -/
def SplitAt (d : Document) (p : BlockPoint) (changed : List BlockId) (e : Effect) (d' : Document) :
    Prop :=
  ∃ path b cut rest, p.In d path b ∧ b.isTextBlock = true ∧
    Node.splitLeaves? b.children p.offset = some (cut, rest) ∧
    e = .goTo (changed ++ [p.block, d.nextId]) ⟨d.nextId, 0⟩ ∧
    d.Exchanged path b
      [.block { b with children := cut }, .block ⟨d.nextId, b.kind.canonical, rest⟩]
      (d.nextId + 1) d'

/-- Splitting the text block at a position. -/
theorem certain_splitAt (hd : d.ids.Nodup) {p : BlockPoint} {path : Path} {b : Block}
    (hin : p.In d path b) (htext : b.isTextBlock = true) (changed : List BlockId) :
    Certain
      (do
        let d ← get
        let path ← orRefuse (d.findPath? p.block) (.invalidPath [])
        let b ← orRefuse (d.blockAt? path) (.invalidPath path)
        let (front, back) ← orLost (Node.splitLeaves? b.children p.offset)
        putChildren path front
        let id ← issueId
        let fresh : Block := { Block.ofKind b.kind back with id }
        let (parent, index) ← splitPath path
        match Node.childrenAt? (← get).children parent with
        | none => pure ()
        | some siblings =>
          let siblings ← orLost (Node.splice? siblings (index + 1) (index + 1) [.block fresh])
          putChildren parent siblings
        pure (Effect.goTo (changed ++ [p.block, id]) ⟨id, 0⟩))
      d (SplitAt d p changed) := by
  refine .get (.orRefuse (hin.id_eq ▸ Document.findPath?_of_blockAt? hd hin.blockAt?) ?_)
  refine .orRefuse hin.blockAt? ?_
  obtain ⟨cut, rest, hsplit⟩ := Node.exists_splitLeaves? hin.isBoundary
  obtain ⟨parent, front, back, rfl, hcs⟩ := Node.exists_siblings_of_blockAt? hin.blockAt?
  have hcs' := Node.childrenAt?_setChildren hcs (front ++ .block { b with children := cut } :: back)
  rw [← Node.setChildren_concat hcs] at hcs'
  have hsplice := Node.splice?_behind front back
    [.block { Block.ofKind b.kind rest with id := d.nextId }] (.block { b with children := cut })
  refine .orLost hsplit (.putChildren (.issueId (.splitPath (.get ?_))))
  simp only [hcs']
  refine .orLost hsplice (.putChildren (.pure ⟨_, b, cut, rest, hin, htext, hsplit, rfl, parent,
    front, back, rfl, hcs, ?_⟩))
  rw [Node.setChildren_concat hcs, Node.setChildren_setChildren hcs]
  rfl

theorem SplitAt.edited {p : BlockPoint} {changed : List BlockId} {e : Effect} {d' : Document}
    (h : SplitAt d p changed e d') : Document.Edited G d d' := by
  obtain ⟨path, b, cut, rest, -, htext, hsplit, -, hexchanged⟩ := h
  obtain ⟨hcut, hrest⟩ := Node.all_isLeaf_splitLeaves? hsplit htext
  refine hexchanged.edited (Nat.le_succ _) ?_ ?_
  · intro i
    simp only [Node.idsOf_block, Node.idsOf_nil, Block.ids_eq, Node.idsOf_eq_nil hcut,
      Node.idsOf_eq_nil hrest, List.count_cons, List.count_append, List.count_nil, issued_succ]
    omega
  · intro _ hb
    have hfront : Block.Everywhere Block.Sound ⟨b.id, b.kind, cut⟩ :=
      Block.everywhere_sound_of_areLeaves (Block.everywhere_iff.mp hb).1.canonical
        (Node.areLeaves_iff.mpr hcut)
    have hback : Block.Everywhere Block.Sound ⟨d.nextId, b.kind.canonical, rest⟩ :=
      Block.everywhere_sound_of_areLeaves (Kind.isCanonical_canonical _)
        (Node.areLeaves_iff.mpr hrest)
    exact ⟨Node.areBlocks_map_block [⟨b.id, b.kind, cut⟩, ⟨d.nextId, b.kind.canonical, rest⟩],
      hfront, hback, trivial⟩

theorem SplitAt.changed {p : BlockPoint} {changed : List BlockId} {e : Effect} {d' : Document}
    (h : SplitAt d p changed e d') : e.changed ≠ [] := by
  obtain ⟨_, _, _, _, -, -, -, rfl, -⟩ := h
  exact List.append_ne_nil_of_right_ne_nil changed (List.cons_ne_nil _ _)

theorem checked_splitBlock (hd : d.ids.Nodup) : Checked splitBlock d (Outcome G d) := by
  unfold splitBlock
  refine checked_selectionPoint.guard ?_
  rintro ⟨s, anchor⟩ hanchor
  refine (checked_editable anchor.block).guard ?_
  rintro b ⟨hid, htext, hvoid, path, hb⟩
  dsimp only
  split
  next =>
    have hin := Document.in_of_blockPoint hd hanchor hb hid
    refine .bind_pure ((certain_splitAt hd hin htext []).mono ?_).checked
    intro e d' h
    exact .of_ne h.edited h.changed
  next =>
    refine checked_deleteSelection (G := G) hd s ?_
    intro x d' hx
    obtain ⟨hids, path', b', hin, htext', -⟩ := hx.ready
    refine (certain_splitAt hids hin htext' x.2).mono ?_
    intro e d'' h
    exact .of_ne (hx.edited.trans h.edited) h.changed

end BlockNotes.EditM
