import BlockNotes.Proofs.Document.Structural
import BlockNotes.Proofs.Document.Surgery

/-!
# Deletion

Deleting a range changes the document at several places, and each later change
has to find its place again.  What makes that certain is the order of the
changes.  The block at the end of the range is cut first, then the block at the
start takes what is left of it, then the blocks in between go away, the last one
first.  Every one of these places lies to the right of the block at the start
(`Document.pairwise_matching_isTextBlock`), and a path to the left does not
notice a change.  So the start of the range stays where it is from beginning to
end (`EditM.checked_deleteRange`): after the deletion there is still a block of
the same identity and kind, and the position in it is a boundary, so that the
commands that go on from there can insert or split.
-/

namespace BlockNotes

/-! ## Block points -/

/-- A block point belongs to a block at a path: the offset is a boundary of its text. -/
structure BlockPoint.In (p : BlockPoint) (d : Document) (path : Path) (b : Block) : Prop where
  blockAt? : d.blockAt? path = some b
  id_eq : b.id = p.block
  /-- The offset does not fall inside a character. -/
  isBoundary : (Node.ownText b.children).isBoundary p.offset = true

/-- A point with a block point belongs to the block that its path leads into. -/
theorem Document.exists_in_of_blockPoint {d : Document} {p : Point} {q : BlockPoint}
    (h : d.blockPoint p = .ok q) :
    ∃ path index b, p.path = path ++ [index] ∧ q.In d path b := by
  unfold blockPoint at h
  split at h
  next => cases h
  next parent index hsplit =>
    split at h
    next => cases h
    next b hb =>
      split at h
      next l hl =>
        split at h
        next hboundary =>
          cases h
          exact ⟨parent, index, b, Path.eq_concat_of_split? hsplit, hb, rfl,
            Node.isBoundary_offsetOf hl hboundary⟩
        next => cases h
      next => cases h

/-- Where identities are distinct, a block point belongs to the block of its identity. -/
theorem Document.in_of_blockPoint {d : Document} (hd : d.ids.Nodup) {p : Point} {q : BlockPoint}
    (hq : d.blockPoint p = .ok q) {path : Path} {b : Block} (hb : d.blockAt? path = some b)
    (hid : b.id = q.block) : q.In d path b := by
  obtain ⟨path', _, b', -, hin⟩ := exists_in_of_blockPoint hq
  obtain ⟨rfl, rfl⟩ := eq_of_id_eq hd hb hin.blockAt? (hid.trans hin.id_eq.symm)
  exact hin

namespace EditM

variable {G : Prop} {d : Document}

/-! ## Changing the block of an identity -/

/-- Where identities are distinct, the block that is changed is the one at the path. -/
theorem editChildren_eq (hd : d.ids.Nodup) {path : Path} {b : Block} (hb : d.blockAt? path = some b)
    {f : Block → Option (List Node)} {ns : List Node} (hf : f b = some ns) :
    editChildren b.id f d =
      .ok ⟨⟩ { d with children := Node.setChildren d.children path ns } := by
  have hfind : d.findPath? b.id = some path := Document.findPath?_of_blockAt? hd hb
  rw [editChildren, get_bind]
  simp only [hfind, hb, hf]
  rfl

/-- The path to a text block that can be edited. -/
theorem checked_editable (id : BlockId) :
    Checked (editable id) d fun b d' => d' = d ∧ b.id = id ∧ b.isTextBlock = true ∧
      b.kind.isVoid = false ∧ ∃ path, d.blockAt? path = some b := by
  unfold editable
  refine .get (.orRefuse ?_)
  intro path hpath
  obtain ⟨b, hb, hid⟩ := Document.exists_of_findPath? hpath
  simp only [hb]
  split
  next htext =>
    rw [Bool.and_eq_true, Bool.not_eq_true'] at htext
    exact .pure ⟨rfl, hid, htext.1, htext.2, path, hb⟩
  next => exact .refuse _

theorem certain_editable (hd : d.ids.Nodup) {path : Path} {b : Block}
    (hb : d.blockAt? path = some b) (htext : b.isTextBlock = true) (hvoid : b.kind.isVoid = false) :
    Certain (editable b.id) d fun c d' => d' = d ∧ c = b := by
  unfold editable
  refine .get (.orRefuse (Document.findPath?_of_blockAt? hd hb) ?_)
  simp only [hb, htext, hvoid]
  exact .pure ⟨rfl, rfl⟩

theorem checked_selectionPoint :
    Checked selectionPoint d fun x d' => d' = d ∧ d.blockPoint x.1.anchor = .ok x.2 := by
  unfold selectionPoint
  refine .get (.orRefuse ?_)
  intro s _
  refine .ofExcept ?_
  intro p hp
  exact .pure ⟨rfl, hp⟩

/-! ## What a deletion leaves behind -/

/-- The start of a deletion is where it was before. -/
structure Deleted (G : Prop) (r : Range) (d : Document) (x : BlockPoint × List BlockId)
    (d' : Document) : Prop where
  edited : Document.Edited G d d'
  nextId : d'.nextId = d.nextId
  /-- The position goes to the start of the range. -/
  start : d.blockPoint r.start = .ok x.1
  changed : x.2 ≠ []
  /-- The position still belongs to the same block, which has kept its kind and still holds text. -/
  survives : ∃ path b b', x.1.In d path b ∧ x.1.In d' path b' ∧ b'.kind = b.kind ∧
    (b.isTextBlock = true → b'.isTextBlock = true)

theorem certain_deleteWithin (hd : d.ids.Nodup) {r : Range} {start stop : BlockPoint}
    (hstart : d.blockPoint r.start = .ok start) (hstop : d.blockPoint r.stop = .ok stop)
    (hsame : start.block = stop.block) :
    Certain
      (do
        editChildren start.block fun b => Node.eraseText? start.offset stop.offset b.children
        pure (start, [start.block]))
      d (Deleted G r d) := by
  obtain ⟨path, _, b, -, hin⟩ := Document.exists_in_of_blockPoint hstart
  obtain ⟨path', _, b', -, hin'⟩ := Document.exists_in_of_blockPoint hstop
  obtain ⟨-, rfl⟩ := Document.eq_of_id_eq hd hin.blockAt? hin'.blockAt?
    (hin.id_eq.trans (hsame.trans hin'.id_eq.symm))
  obtain ⟨ns, herase⟩ := Node.exists_eraseText? hin.isBoundary hin'.isBoundary
  have hblocks := Node.map_block?_eraseText? herase
  have hb' := Node.blockAt?_setChildren_self hin.blockAt? ns
  rw [← hin.id_eq]
  refine Certain.step (editChildren_eq hd hin.blockAt? herase) (.pure ?_)
  refine ⟨.put_blocks hin.blockAt? hblocks, rfl, hstart, List.cons_ne_nil _ _, path, b, _, hin,
    ⟨hb', hin.id_eq, Node.isBoundary_of_eraseText? herase hin.isBoundary⟩, rfl, ?_⟩
  intro htext
  exact (Node.all_isLeaf_eq_of_map_block? hblocks).trans htext

/-- The end of a deletion between two blocks: the block at its end has been cut, and now the block
at its start takes what is left of it and the blocks in between go away. -/
theorem certain_joinAndRemove (hd : d.ids.Nodup) {path : Path} {b : Block}
    (hb : d.blockAt? path = some b) (htext : b.isTextBlock = true) {start : Nat}
    (hboundary : (Node.ownText b.children).isBoundary start = true) {tail : List Node}
    (htail : Node.AreLeaves tail) {xs : List (Path × Block)}
    (hright : ∀ x ∈ xs, Path.Before path x.1)
    (a : BlockPoint × List BlockId) :
    Certain
      (do
        editChildren b.id fun b =>
          (Node.eraseText? start (Node.size b.children) b.children).map fun ns =>
            if b.kind.isVoid then ns else ns ++ tail
        xs.forM fun (path, _) => removeNode path
        pure a)
      d fun c d' => c = a ∧ Document.Edited G d d' ∧ d'.nextId = d.nextId ∧
        ∃ b', d'.blockAt? path = some b' ∧ b'.id = b.id ∧ b'.kind = b.kind ∧
          b'.isTextBlock = true ∧ (Node.ownText b'.children).isBoundary start = true := by
  have hend : (Node.ownText b.children).isBoundary (Node.size b.children) = true := by
    rw [← Node.bytes_ownText]
    exact Text.isBoundary_bytes _
  obtain ⟨ms, herase⟩ := Node.exists_eraseText? hboundary hend
  have hms : ms.all Node.isLeaf = true :=
    (Node.all_isLeaf_eq_of_map_block? (Node.map_block?_eraseText? herase)).trans htext
  have hms' : (Node.ownText ms).isBoundary start = true :=
    Node.isBoundary_of_eraseText? herase hboundary
  -- What the block at the start holds afterwards.
  obtain ⟨ns, hns, hleaves, hstart⟩ : ∃ ns, ns = (if b.kind.isVoid then ms else ms ++ tail) ∧
      Node.AreLeaves ns ∧ (Node.ownText ns).isBoundary start = true := by
    refine ⟨_, rfl, ?_⟩
    split
    next => exact ⟨Node.areLeaves_iff.mpr hms, hms'⟩
    next =>
      rw [Node.areLeaves_append, Node.ownText_append,
        Text.isBoundary_append_left (Text.le_bytes_of_isBoundary hms')]
      exact ⟨⟨Node.areLeaves_iff.mpr hms, htail⟩, hms'⟩
  have hput : ((Node.eraseText? start (Node.size b.children) b.children).map fun ns =>
      if b.kind.isVoid then ns else ns ++ tail) = some ns := by
    rw [herase, Option.map_some, hns]
  refine Certain.step (editChildren_eq hd hb hput) ?_
  refine (certain_removeNodes (G := G) xs).bind ?_
  intro _ d' hd'
  have hafter : d'.blockAt? path = some { b with children := ns } := by
    rw [hd'.left path (by simpa using hright)]
    exact Node.blockAt?_setChildren_self hb ns
  exact .pure ⟨rfl, (Document.Edited.put_leaves hb hleaves).trans hd'.edited, hd'.nextId, _, hafter,
    rfl, rfl, Node.areLeaves_iff.mp hleaves, hstart⟩

theorem not_stop_lt_start (r : Range) : ¬ r.stop < r.start := by
  unfold Range.stop Range.start
  split
  next hle => exact hle
  next hgt =>
    rintro (hpath | ⟨hpath, hoffset⟩) <;> rcases Decidable.not_not.mp hgt with hpath' | ⟨hpath', hoffset'⟩
    · exact List.lt_asymm hpath hpath'
    · rw [hpath'] at hpath
      exact List.lt_irrefl _ hpath
    · rw [hpath] at hpath'
      exact List.lt_irrefl _ hpath'
    · exact Nat.lt_asymm hoffset hoffset'

/-- Points are ordered as their blocks are, so the block at the end of a range is not to the left of
the one at its start. -/
theorem not_before_of_range {r : Range} {p q : Path} {i j : Nat} (hp : r.start.path = p ++ [i])
    (hq : r.stop.path = q ++ [j]) : ¬ Path.Before q p := by
  intro hqp
  have hpath : r.stop.path < r.start.path := by
    rw [hp, hq]
    exact ((hqp.append_left [j]).append_right [i]).lt
  exact not_stop_lt_start r (.inl hpath)

theorem before_of_mem_drop (hd : d.ids.Nodup) {k : Nat}
    (hk : k < (d.matching Block.isTextBlock).length) {x : Path × Block}
    (hx : x ∈ (d.matching Block.isTextBlock).drop (k + 1)) :
    Path.Before (d.matching Block.isTextBlock)[k].1 x.1 := by
  obtain ⟨i, hi, rfl⟩ := List.mem_iff_getElem.mp hx
  rw [List.length_drop] at hi
  rw [List.getElem_drop]
  exact List.pairwise_iff_getElem.mp (Document.pairwise_matching_isTextBlock hd) k (k + 1 + i) hk
    (by omega) (by omega)

/-- A deletion is refused before it has changed anything, or it leaves its start where it was. -/
theorem checked_deleteRange (hd : d.ids.Nodup) (r : Range) :
    Checked (deleteRange r) d (Deleted G r d) := by
  unfold deleteRange
  refine .get (.ofExcept ?_)
  intro start hstart
  refine .ofExcept ?_
  intro stop hstop
  split
  next hsame => exact (certain_deleteWithin hd hstart hstop hsame).checked
  next hne =>
    obtain ⟨p, i, b, hstartPath, hin⟩ := Document.exists_in_of_blockPoint hstart
    obtain ⟨q, j, c, hstopPath, hin'⟩ := Document.exists_in_of_blockPoint hstop
    dsimp only
    split
    next first last hfirst hlast =>
      obtain ⟨hfirst, hfirstid, -⟩ := List.findIdx?_eq_some_iff_getElem.mp hfirst
      obtain ⟨hlast, hlastid, -⟩ := List.findIdx?_eq_some_iff_getElem.mp hlast
      obtain ⟨hp, hbtext⟩ := Document.getElem_matching_of_id_eq hd hin.blockAt? hfirst
        ((eq_of_beq hfirstid).trans hin.id_eq.symm)
      obtain ⟨hq, hctext⟩ := Document.getElem_matching_of_id_eq hd hin'.blockAt? hlast
        ((eq_of_beq hlastid).trans hin'.id_eq.symm)
      have hbefore := List.pairwise_iff_getElem.mp (Document.pairwise_matching_isTextBlock hd)
      split
      next hgt =>
        have hqp : Path.Before q p := by
          have := hbefore last first hlast hfirst hgt
          rwa [hp, hq] at this
        exact absurd hqp (not_before_of_range hstartPath hstopPath)
      next hle =>
        have hlt : first < last := by
          refine Nat.lt_of_le_of_ne (Nat.le_of_not_lt hle) ?_
          rintro rfl
          refine hne ?_
          rw [← hin.id_eq, ← hin'.id_eq, (Prod.mk.inj (hp.symm.trans hq)).2]
        have hpq : Path.Before p q := by
          have := hbefore first last hfirst hlast hlt
          rwa [hp, hq] at this
        -- Everything that goes away lies behind the block at the start.
        have hright : ∀ x ∈ (((d.matching Block.isTextBlock).drop (first + 1)).take
            (last - first)).reverse, Path.Before p x.1 := by
          intro x hx
          have := before_of_mem_drop hd hfirst (List.mem_of_mem_take (List.mem_reverse.mp hx))
          rwa [hp] at this
        have hfind : d.findPath? stop.block = some q := by
          rw [← hin'.id_eq]
          exact Document.findPath?_of_blockAt? hd hin'.blockAt?
        obtain ⟨front, back, hsplit⟩ := Node.exists_splitLeaves? hin'.isBoundary
        obtain ⟨hfront, hback⟩ := Node.all_isLeaf_splitLeaves? hsplit hctext
        simp only [hfind, hin'.blockAt?]
        refine Certain.checked (.orLost hsplit (.putChildren ?_))
        have hcut : Document.Edited G d { d with
            children := Node.setChildren d.children q front } :=
          .put_leaves hin'.blockAt? (Node.areLeaves_iff.mpr hfront)
        have hframe : Node.blockAt? (Node.setChildren d.children q front) p =
            Node.blockAt? d.children p :=
          Node.blockAt?_setChildren_of_before (Node.childrenAt?_of_blockAt? hin'.blockAt?)
            (hpq.append_right [0]) rfl
        have hjoin := certain_joinAndRemove (G := G) (hcut.toNumbered.nodup rfl hd)
          (hframe.trans hin.blockAt?) hbtext hin.isBoundary
          (Node.areLeaves_iff.mpr hback) hright
        rw [hin.id_eq] at hjoin
        refine (hjoin _).mono ?_
        rintro _ d' ⟨rfl, hedited, hnext, b', hb', hid', hkind, htext, hboundary⟩
        exact ⟨hcut.trans hedited, hnext, hstart, List.cons_ne_nil _ _, p, b, b', hin,
          ⟨hb', hid', hboundary⟩, hkind, fun _ => htext⟩
    next => exact .refuse _

end EditM

end BlockNotes
