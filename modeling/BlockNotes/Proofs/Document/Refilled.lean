import BlockNotes.Proofs.Document.Excision
import BlockNotes.Proofs.Document.Swapped
import BlockNotes.Proofs.Document.Weight

/-!
# Other leaves in a block

A text command within a block puts other leaves into it and nothing else: the block is
at its path, with its identity and its kind, and the cursor is in it
(`Document.Refilled`).

Nothing is asked of the rest of the tree but what holds after any commands, that it is
settled (`Document.Orderly`).  So there may be leaves and blocks side by side elsewhere:
bringing the tree into normal form changes the block and leaves the rest as it is
(`Document.Orderly.normalize_setChildren`).
-/

namespace BlockNotes.Document

variable {d d' d₁ : Document} {path : Path} {b c : Block} {m n : Nat}

/-! ## Orderly documents -/

/-- Identities are distinct, there are only blocks at the root, and every block is settled. -/
structure Orderly (d : Document) : Prop where
  nodup : d.ids.Nodup
  areBlocks : Node.AreBlocks d.children
  settled : Node.Everywhere Block.Settled d.children

theorem Settled.orderly (h : d.Settled) (hd : d.ids.Nodup) : d.Orderly :=
  ⟨hd, h.areBlocks, h.blocks⟩

theorem Regular.orderly (hd : d.Regular) : d.Orderly :=
  ⟨hd.nodup, hd.uniform.areBlocks, hd.settled⟩

/-- What commands make of blocks is orderly, whatever the blocks are. -/
theorem orderly_run (bs : List Block) (cs : List Command) : ((ofBlocks bs).run cs).Orderly :=
  ((usable_ofBlocks bs).run (wellNumbered_ofBlocks bs) cs).settled.orderly
    (wellNumbered_run (wellNumbered_ofBlocks bs) cs).nodup

namespace Orderly

theorem of_children (h : d.Orderly) (s : Option Range) (v : Nat) :
    Orderly { d with selection := s, version := v } :=
  ⟨h.nodup, h.areBlocks, h.settled⟩

theorem children_ne_nil (hd : d.Orderly) (hb : d.blockAt? path = some b) : b.children ≠ [] :=
  (Node.everywhere_iff.mp hd.settled path b hb).nonempty

theorem any_isLeaf (hd : d.Orderly) (hb : d.blockAt? path = some b) (htext : b.isTextBlock = true) :
    b.children.any Node.isLeaf = true :=
  (Node.areLeaves_iff.mpr htext).any_isLeaf (hd.children_ne_nil hb)

/-- A boundary in the text of a block that holds leaves is found. -/
theorem exists_pointIn? (hd : d.Orderly) (hb : d.blockAt? path = some b)
    (htext : b.isTextBlock = true) (hn : b.text.isBoundary n = true) :
    ∃ q, d.pointIn? b.id n = some q ∧ d.Site q path b n := by
  rw [Block.text_eq_ownText htext] at hn
  obtain ⟨q, hq, hpoint⟩ := exists_resolve? hd.nodup (p := ⟨b.id, n⟩) ⟨hb, rfl, hn⟩ htext
    (hd.any_isLeaf hb htext)
  exact ⟨q, hq, site_of_blockPoint hd.nodup hb htext hpoint⟩

/-- Where other leaves are put into a block of a settled tree, only this block is brought into normal
form. -/
theorem normalize_setChildren (hd : d.Orderly) (hb : d.blockAt? path = some b) {ns : List Node}
    (hns : Node.AreLeaves ns) (hne : ns ≠ []) :
    ({ d with children := Node.setChildren d.children path ns } : Document).normalize =
      { d with
        children := Node.setChildren d.children path
          ({ b with children := ns } : Block).normalize.children } := by
  obtain ⟨parent, front, back, rfl, hcs⟩ := Node.exists_siblings_of_blockAt? hb
  have hfocus := Node.focus_setChildren hcs
  have hsiblings := hfocus.everywhere_children hd.settled
  rw [Node.everywhere_append, Node.everywhere_block] at hsiblings
  obtain ⟨-, hne'⟩ := Block.areLeaves_normalize (b := { b with children := ns })
    (Node.areLeaves_iff.mp hns) hne
  have hstays : (Node.block ({ b with children := ns } : Block).normalize).isEmptyList = false := by
    rw [Node.isEmptyList, List.isEmpty_eq_false_iff.mpr hne', Bool.and_false]
  have htree := hfocus.filter_normalizeAll_put hd.settled
    (Node.filter_normalizeAll_insert hsiblings.1 hsiblings.2.2 hstays)
    (Node.not_areLeaves_insert front back _)
  rw [Block.normalize_eq (b := { b with children := ns }) rfl, ← Node.setChildren_concat hcs,
    ← Node.setChildren_concat hcs] at htree
  refine normalize_eq_of_kept htree (areBlocks_putChildren hb hd.areBlocks _) ?_
  intro hnil
  have hc := (Swapped.setChildren hb ({ b with children := ns } : Block).normalize.children
    ).blockAt?_single
  rw [blockAt?, hnil, Node.blockAt?_append] at hc
  cases parent <;> cases hc

end Orderly

/-! ## Where the cursor is -/

/-- The selection is a cursor at a position in a block. -/
def CursorAt (d : Document) (p : BlockPoint) : Prop :=
  ∃ q, d.selection = some (.collapsed q) ∧ d.blockPoint q = .ok p

/-- A position leads to a point that has this position. -/
def Finds (d : Document) (p : BlockPoint) : Prop :=
  ∃ q, d.resolve? p = some q ∧ d.blockPoint q = .ok p

/-- A cursor goes to a position that is found in the normal form. -/
theorem cursorAt_committed {p : BlockPoint} (h : d.normalize.Finds p) :
    (d.committed (some (.collapsed p))).CursorAt p := by
  obtain ⟨q, hq, hpoint⟩ := h
  refine ⟨q, ?_, hpoint⟩
  simp only [committed, Option.map_some, resolveRange, BlockRange.collapsed, hq, Option.some_or]
  rfl

/-! ## Text commands -/

/-- Other leaves have come into the block at a path, and the cursor is in it.  Nothing else is
different. -/
structure Refilled (d : Document) (path : Path) (b c : Block) (n : Nat) (d' : Document) : Prop where
  swapped : d.Swapped path b [.block c] d'
  id_eq : c.id = b.id
  kind_eq : c.kind = b.kind
  nextId : d'.nextId = d.nextId
  areLeaves : Node.AreLeaves c.children
  orderly : d'.Orderly
  cursor : d'.CursorAt ⟨c.id, n⟩

namespace Refilled

theorem refl (hd : d.Orderly) (hb : d.blockAt? path = some b) (hleaves : Node.AreLeaves b.children)
    (hcursor : d.CursorAt ⟨b.id, n⟩) : d.Refilled path b b n d :=
  ⟨.refl hb, rfl, rfl, rfl, hleaves, hd, hcursor⟩

theorem trans {b' : Block} (h : d.Refilled path b c m d₁) (h' : d₁.Refilled path c b' n d') :
    d.Refilled path b b' n d' :=
  ⟨h.swapped.trans_single h'.swapped, h'.id_eq.trans h.id_eq, h'.kind_eq.trans h.kind_eq,
    h'.nextId.trans h.nextId, h'.areLeaves, h'.orderly, h'.cursor⟩

theorem blockAt? (h : d.Refilled path b c n d') : d'.blockAt? path = some c :=
  h.swapped.blockAt?_single

theorem isTextBlock (h : d.Refilled path b c n d') : c.isTextBlock = true :=
  Node.areLeaves_iff.mp h.areLeaves

theorem isBoundary (h : d.Refilled path b c n d') :
    (Node.ownText c.children).isBoundary n = true := by
  obtain ⟨q, -, hpoint⟩ := h.cursor
  exact (in_of_blockPoint h.orderly.nodup hpoint h.blockAt? rfl).isBoundary

end Refilled

/-- Other leaves are put into a block, and the cursor goes to an offset in it. -/
theorem Orderly.refilled_setChildren (hd : d.Orderly) (hb : d.blockAt? path = some b)
    {ns : List Node} (hns : Node.AreLeaves ns) (hne : ns ≠ [])
    (hn : (Node.ownText ns).isBoundary n = true) :
    d.Refilled path b ({ b with children := ns } : Block).normalize n
      ({ d with children := Node.setChildren d.children path ns }.committed
        (some (.collapsed ⟨b.id, n⟩))) := by
  obtain ⟨hleaves, -⟩ := Block.areLeaves_normalize (b := { b with children := ns })
    (Node.areLeaves_iff.mp hns) hne
  have hids := (Edited.put_leaves (G := True) hb hns).toNumbered.nodup rfl hd.nodup
  have hnormal := hd.normalize_setChildren hb hns hne
  have horderly := (settled_normalize { d with children := Node.setChildren d.children path ns }).orderly
    (nodup_ids_normalize (areBlocks_putChildren hb hd.areBlocks ns) hids)
  have hswapped : d.Swapped path b [.block ({ b with children := ns } : Block).normalize]
      ({ d with children := Node.setChildren d.children path ns } : Document).normalize := by
    rw [hnormal, Block.normalize_eq (b := { b with children := ns }) rfl]
    exact .setChildren hb _
  have hc := hswapped.blockAt?_single
  have htext := Node.areLeaves_iff.mp hleaves
  have hin : BlockPoint.In ⟨b.id, n⟩
      ({ d with children := Node.setChildren d.children path ns } : Document).normalize path
      ({ b with children := ns } : Block).normalize := by
    refine ⟨hc, Block.id_normalize _, ?_⟩
    rw [Node.ownText_congr hleaves hns (Block.marked_normalize { b with children := ns })]
    exact hn
  refine ⟨hswapped, hin.id_eq, Block.kind_normalize _, ?_, hleaves, horderly.of_children _ _, ?_⟩
  · show Document.nextId (Document.normalize _) = d.nextId
    rw [hnormal]
  · rw [hin.id_eq]
    exact cursorAt_committed (exists_resolve? horderly.nodup hin htext (horderly.any_isLeaf hc htext))

/-- Text within one block is deleted. -/
theorem Orderly.exists_deleteRange (hd : d.Orderly) {r : Range} (hs : d.Site r.start path b m)
    (he : d.Site r.stop path b n) :
    ∃ p d' c, d.apply (.deleteRange r) = (.ok p, d') ∧ d.Refilled path b c m d' ∧
      Node.marked c.children =
        (Node.marked b.children).take ((Node.ownText b.children).charsBefore m) ++
          (Node.marked b.children).drop ((Node.ownText b.children).charsBefore n) := by
  have hle := hs.offset_le he (le_stop r)
  obtain ⟨ns, hns⟩ := Node.exists_eraseText? hs.isBoundary he.isBoundary
  have hleaves : Node.AreLeaves ns := Node.areLeaves_iff.mpr
    ((Node.all_isLeaf_eq_of_map_block? (Node.map_block?_eraseText? hns)).trans hs.isTextBlock)
  have hedit : EditM.Certain (d.edit (.deleteRange r)) d fun e d' => e = .goTo [b.id] ⟨b.id, m⟩ ∧
      d' = { d with children := Node.setChildren d.children path ns } := by
    show EditM.Certain (EditM.deleteRange r >>= fun x => pure (Effect.goTo x.2 x.1)) d _
    refine EditM.Certain.bind (P := fun x d' => x = (⟨b.id, m⟩, [b.id]) ∧
      d' = { d with children := Node.setChildren d.children path ns }) ?_ ?_
    · unfold EditM.deleteRange
      refine .get (.ofExcept hs.blockPoint_eq (.ofExcept he.blockPoint_eq ?_))
      dsimp only
      rw [if_pos rfl]
      exact .step (EditM.editChildren_eq hd.nodup hs.blockAt? hns) (.pure ⟨rfl, rfl⟩)
    · rintro _ _ ⟨rfl, rfl⟩
      exact .pure ⟨rfl, rfl⟩
  obtain ⟨e, d', p, ⟨rfl, rfl⟩, happly⟩ := apply_of_certain rfl hedit
  rw [finished_goTo] at happly
  refine ⟨p, _, _, happly, hd.refilled_setChildren hs.blockAt? hleaves
    (Node.ne_nil_of_eraseText? hns hs.ne_nil) (Node.isBoundary_of_eraseText? hns hs.isBoundary), ?_⟩
  rw [Block.marked_normalize]
  exact Node.marked_eraseText? hs.areLeaves hle hs.isBoundary he.isBoundary hns

namespace Refilled

/-- Inserting text at a cursor in a block that can be edited comes to changing the block, unless the
text is empty. -/
theorem certain_insertText (h : d.Refilled path b c n d₁) (hvoid : c.kind.isVoid = false) {t : Text}
    {Q : Effect → Document → Prop}
    (hQ : EditM.Certain (if t.isEmpty then pure (Effect.goTo [] ⟨c.id, n⟩) else do
      EditM.editChildren c.id fun b => Node.insertText? b.children n t
      pure (Effect.goTo [c.id] ⟨c.id, n + t.bytes⟩)) d₁ Q) :
    EditM.Certain (EditM.insertText t) d₁ Q := by
  obtain ⟨q, hq, hpoint⟩ := h.cursor
  have hcollapsed : (Range.collapsed q).isCollapsed = true := decide_eq_true rfl
  unfold EditM.insertText
  refine .step (EditM.selectionPoint_eq hq hpoint) ?_
  dsimp only
  rw [hcollapsed, if_pos rfl]
  refine .step (a := (⟨c.id, n⟩, [])) rfl ?_
  refine (EditM.certain_editable h.orderly.nodup h.blockAt? h.isTextBlock hvoid).bind ?_
  rintro _ _ ⟨rfl, rfl⟩
  exact hQ

/-- Where text can be edited, text is put in at the cursor. -/
theorem exists_insertText (h : d.Refilled path b c n d₁) (hvoid : c.kind.isVoid = false) (t : Text) :
    ∃ p d' c', d₁.apply (.insertText t) = (.ok p, d') ∧
      d₁.Refilled path c c' (n + t.bytes) d' ∧ ∃ marks, Node.marked c'.children =
        (Node.marked c.children).take ((Node.ownText c.children).charsBefore n) ++ t.map (·, marks) ++
          (Node.marked c.children).drop ((Node.ownText c.children).charsBefore n) := by
  by_cases hempty : t.isEmpty = true
  · have hedit : EditM.Certain (d₁.edit (.insertText t)) d₁ fun e d' => e = .goTo [] ⟨c.id, n⟩ ∧
        d' = d₁ := by
      refine h.certain_insertText hvoid ?_
      rw [if_pos hempty]
      exact .pure ⟨rfl, rfl⟩
    obtain ⟨e, d', p, ⟨rfl, rfl⟩, happly⟩ := apply_of_certain rfl hedit
    rw [List.isEmpty_iff.mp hempty] at happly ⊢
    exact ⟨p, _, c, happly, .refl h.orderly h.blockAt? h.areLeaves h.cursor, {}, by simp⟩
  · obtain ⟨ns, hns, -⟩ := Node.exists_insertText? t h.isBoundary
    obtain ⟨hleaves, hne, marks, hmarked⟩ := Node.marked_insertText? h.areLeaves
      (h.orderly.children_ne_nil h.blockAt?) h.isBoundary hns
    have hedit : EditM.Certain (d₁.edit (.insertText t)) d₁ fun e d' =>
        e = .goTo [c.id] ⟨c.id, n + t.bytes⟩ ∧
          d' = { d₁ with children := Node.setChildren d₁.children path ns } := by
      refine h.certain_insertText hvoid ?_
      rw [if_neg hempty]
      exact .step (EditM.editChildren_eq h.orderly.nodup h.blockAt? hns) (.pure ⟨rfl, rfl⟩)
    obtain ⟨e, d', p, ⟨rfl, rfl⟩, happly⟩ := apply_of_certain rfl hedit
    rw [finished_goTo] at happly
    refine ⟨p, _, _, happly, h.orderly.refilled_setChildren h.blockAt? hleaves hne ?_, marks, ?_⟩
    · rw [Seam.ownText_of_marked hleaves hmarked]
      refine Text.isBoundary_iff.mpr ⟨_, _, rfl, ?_⟩
      rw [List.map_append, Text.bytes_append, Node.bytes_take_marked h.areLeaves h.isBoundary]
      simp [Function.comp_def]
    · rw [Block.marked_normalize]
      exact hmarked

end Refilled

end BlockNotes.Document
