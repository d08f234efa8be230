import BlockNotes.Proofs.Document.Cursor

/-!
# Commands that take each other back

A block that was wrapped is unwrapped, or lifted out of its wrapper.  A block that was
inserted is removed.  Each time the tree is the one from before, with the identities, kinds
and leaves of all blocks, and both ends of the selection are where they were in their blocks
(`Document.opposites_restore`).

Wrapping, unwrapping and lifting put nodes in the place of one block.  So what is left of
two of them is one swap at one path (`Document.Swapped.trans_single`), of a block for itself.

An inserted block gets fresh identities and is brought into normal form, so it is not known
what stands at the path afterwards, only that a block does, between the same siblings
(`Document.Inserted`).  Removing it leaves the siblings.  The selection is in another block,
as identities are distinct.

Between the two commands the tree is brought into normal form.  It was settled before, so
nothing but what came in can change (`Node.Focus.filter_normalizeAll_put`).
-/

namespace BlockNotes

namespace Document

variable {d d' d₁ : Document} {path : Path} {b c : Block} {r : BlockRange}

/-! ## Selections that are kept -/

/-- There is a selection, from one position in a block to another. -/
def Selects (d : Document) (r : BlockRange) : Prop :=
  ∃ s, d.selection = some s ∧ d.blockPoint s.anchor = .ok r.anchor ∧
    d.blockPoint s.focus = .ok r.focus

theorem Selects.saved_eq (h : d.Selects r) : d.selection.bind d.blockRange? = some r := by
  obtain ⟨s, hs, hanchor, hfocus⟩ := h
  simp only [hs, Option.bind_some, blockRange?, hanchor, hfocus]

theorem selects_committed (hanchor : d.normalize.Finds r.anchor)
    (hfocus : d.normalize.Finds r.focus) : (d.committed (some r)).Selects r := by
  obtain ⟨p, hp, hpoint⟩ := hanchor
  obtain ⟨q, hq, hpoint'⟩ := hfocus
  refine ⟨⟨p, q⟩, ?_, hpoint, hpoint'⟩
  simp only [committed, Option.map_some, resolveRange, hp, hq, Option.some_or]

/-- A command that moves blocks leaves the selection where it is. -/
theorem selects_of_moves (hd : d.Regular) (hlt : ∀ i ∈ d.ids, i < d.nextId) {command : Command}
    (hmoves : command.Moves) {p : Patch} (h : d.apply command = (.ok p, d')) (hr : d.Selects r) :
    d'.Selects r := by
  obtain ⟨e, d₁, hmoved, rfl⟩ :=
    exists_of_apply_ok hmoves.editsContent h (answers_edit_of_moves hd hlt hmoves)
  rw [finished, if_neg hmoved.changed, hmoved.target, Option.none_or, hr.saved_eq]
  obtain ⟨s, -, hanchor, hfocus⟩ := hr
  exact selects_committed (hmoved.rearranged.finds hd hanchor) (hmoved.rearranged.finds hd hfocus)

/-- A position in a block that holds text is found where this block is among others. -/
theorem Regular.finds (hd : d.Regular) {q : Point} {p : BlockPoint} (hpoint : d.blockPoint q = .ok p)
    (hids : d'.ids.Nodup) (hkept : Node.holders d.children ⊆ Node.holders d'.children) :
    d'.Finds p := by
  obtain ⟨path, b, n, hsite⟩ := hd.exists_site (addresses_iff.mpr ⟨p, hpoint⟩)
  cases hpoint.symm.trans hsite.blockPoint_eq
  have hleaf := (hd.isTextBlock_eq hsite.blockAt?).symm.trans hsite.isTextBlock
  have hmem : b ∈ Node.holders d.children :=
    List.mem_filter.mpr ⟨mem_blocksOf.mpr ⟨path, hsite.blockAt?⟩, hleaf⟩
  obtain ⟨path', hb⟩ := mem_blocksOf.mp (List.mem_filter.mp (hkept hmem)).1
  exact exists_resolve? hids ⟨hb, rfl, hsite.isBoundary⟩ hsite.isTextBlock hleaf

/-- Where all blocks that hold text are still among others, the selection stays where it is. -/
theorem Selects.committed (hr : d.Selects r) (hd : d.Regular) (hids : d'.normalize.ids.Nodup)
    (hkept : Node.holders d.children ⊆ Node.holders d'.normalize.children) :
    (d'.committed (some r)).Selects r := by
  obtain ⟨s, -, hanchor, hfocus⟩ := hr
  exact selects_committed (hd.finds hanchor hids hkept) (hd.finds hfocus hids hkept)

/-- A regular document with a selection is settled. -/
theorem Selects.settled (hr : d.Selects r) (hd : d.Regular) : d.Settled := by
  obtain ⟨s, -, hanchor, -⟩ := hr
  obtain ⟨path, b, n, hsite⟩ := hd.exists_site (addresses_iff.mpr ⟨_, hanchor⟩)
  exact ⟨(hd.filled hsite.blockAt?).nonempty, hd.uniform.areBlocks, hd.settled⟩

/-- The tree is the same, and the selection is where it was. -/
structure Regained (d : Document) (r : BlockRange) (d' : Document) : Prop where
  children : d'.children = d.children
  selects : d'.Selects r

/-- Two commands after each other are not refused and leave the tree and the selection as they
were. -/
def Reverses (d : Document) (r : BlockRange) (command command' : Command) : Prop :=
  ∃ p d₁ q d₂, d.apply command = (.ok p, d₁) ∧ d₁.apply command' = (.ok q, d₂) ∧ d.Regained r d₂

/-! ## Wrapping -/

/-- A command that puts a wrapped block in the place of its wrapper takes the wrapping back. -/
theorem Regular.reverses_wrapBlock (hd : d.Regular) (hlt : ∀ i ∈ d.ids, i < d.nextId)
    (hr : d.Selects r) (hb : d.blockAt? path = some b) (kind : Kind) {command : Command}
    (hmoves : command.Moves)
    (hedit : ∀ d₁ w, d₁.blockAt? path = some w → w.children = [.block b] →
      EditM.Certain (d₁.edit command) d₁ fun _ => d₁.Exchanged path w [.block b] d₁.nextId) :
    d.Reverses r (.wrapBlock path kind) command := by
  obtain ⟨p, d₁, hwrap, hwrapped⟩ := hd.exists_wrapped hlt hb kind
  have hlt₁ := lt_nextId_of_apply hd.nodup hlt hwrap
  have hr₁ := selects_of_moves hd hlt (show Command.Moves (.wrapBlock path kind) from trivial) hwrap hr
  have hwrapper := hwrapped.swapped.blockAt?_single
  obtain ⟨e, d₂, hok, hexchanged⟩ := hedit d₁ _ hwrapper rfl
  have hmoved := answers_edit_of_moves hwrapped.regular hlt₁ hmoves e d₂ hok
  obtain ⟨q, d₃, happly, hrebuilt, -⟩ := hwrapped.regular.exists_rebuilt command
    hmoves.editsContent hwrapper
    (fun huniform hfilled => Node.carries_children huniform hfilled Node.areBlocks_block)
    ⟨e, d₂, hok, hmoved, hexchanged⟩
  have hsettled : Node.Everywhere Block.Settled [.block b] := by
    have hbelow := (Node.focus_setChildren (Node.childrenAt?_of_blockAt? hb)).everywhere_children
      hd.settled
    exact ⟨Block.everywhere_iff.mpr ⟨hd.settled_of_blockAt? hb, hbelow⟩, trivial⟩
  have hswapped := hwrapped.swapped.trans_single hrebuilt.swapped
  rw [(Node.normalizeAll_of_settled _ hsettled).1] at hswapped
  exact ⟨p, d₁, q, d₃, hwrap, happly, hswapped.children_eq,
    selects_of_moves hwrapped.regular hlt₁ hmoves happly hr₁⟩

theorem Regular.reverses_wrapBlock_unwrapBlock (hd : d.Regular) (hlt : ∀ i ∈ d.ids, i < d.nextId)
    (hr : d.Selects r) (hb : d.blockAt? path = some b) (kind : Kind) :
    d.Reverses r (.wrapBlock path kind) (.unwrapBlock path) := by
  refine hd.reverses_wrapBlock hlt hr hb kind trivial ?_
  intro d₁ w hw hchildren
  have hunwrap := EditM.certain_unwrapBlock hw (by rw [hchildren]; exact Node.areBlocks_block)
  rw [hchildren] at hunwrap
  exact hunwrap.mono fun _ _ h => h.2

theorem Regular.reverses_wrapBlock_liftBlock (hd : d.Regular) (hlt : ∀ i ∈ d.ids, i < d.nextId)
    (hr : d.Selects r) (hb : d.blockAt? path = some b) (kind : Kind) :
    d.Reverses r (.wrapBlock path kind) (.liftBlock (path ++ [0])) := by
  refine hd.reverses_wrapBlock hlt hr hb kind trivial ?_
  intro d₁ w hw hchildren
  have hinner : d₁.blockAt? (path ++ [0]) = some b := by
    rw [Document.blockAt?, Node.blockAt?_append, Node.childrenAt?_of_blockAt? hw, hchildren]
    rfl
  have hlen : ¬ (path ++ [0]).length < 2 := by
    obtain ⟨parent, front, back, rfl, -⟩ := Node.exists_siblings_of_blockAt? hw
    simp
  refine (EditM.certain_liftBlock hinner hlen).mono ?_
  rintro e d₂ ⟨-, hlifted⟩
  obtain ⟨front, back, new, next, hsplit, hparted, hexchanged⟩ := hlifted.exists_parted hw
  -- The block is the only one in its wrapper.
  have hlength := congrArg List.length (hchildren.symm.trans hsplit)
  simp only [List.length_append, List.length_cons, List.length_nil] at hlength
  cases hparted with
  | only hfront hback => exact hexchanged
  | first hfront hback => exact absurd (List.length_eq_zero_iff.mp (by omega)) hback
  | last hfront hback => exact absurd (List.length_eq_zero_iff.mp (by omega)) hfront
  | middle hfront hback => exact absurd (List.length_eq_zero_iff.mp (by omega)) hfront

end Document

/-! ## What is inserted -/

theorem Block.isEmptyList_normalize (b : Block) : (Node.block b.normalize).isEmptyList =
    (b.kind.isList && ((Node.normalizeAll b.children).filter fun n => !n.isEmptyList).isEmpty) := by
  obtain ⟨id, kind, children⟩ := b
  rw [Block.normalize]
  split
  next hcond =>
    rw [Bool.and_eq_true, Bool.not_eq_true'] at hcond
    simp only [Node.isEmptyList, hcond.1, Bool.false_and]
  next => rfl

mutual

/-- Fresh identities do not make a block an empty list. -/
theorem Block.isEmptyList_normalize_adopt : (b : Block) → (next : Nat) →
    (Node.block (b.adopt next).1.normalize).isEmptyList = (Node.block b.normalize).isEmptyList
  | ⟨id, kind, children⟩, next => by
    have hbelow := Node.map_isLeaf_filter_normalizeAll_adoptAll children (next + 1)
    rw [Block.isEmptyList_normalize, Block.isEmptyList_normalize, Block.adopt, ← List.isEmpty_map,
      hbelow, List.isEmpty_map]

theorem Node.map_isLeaf_filter_normalizeAll_adoptAll : (ns : List Node) → (next : Nat) →
    ((Node.normalizeAll (Node.adoptAll ns next).1).filter fun n => !n.isEmptyList).map Node.isLeaf =
      ((Node.normalizeAll ns).filter fun n => !n.isEmptyList).map Node.isLeaf
  | [], _ => rfl
  | .leaf _ :: rest, next =>
    congrArg (true :: ·) (Node.map_isLeaf_filter_normalizeAll_adoptAll rest next)
  | .block b :: rest, next => by
    have hrest := Node.map_isLeaf_filter_normalizeAll_adoptAll rest (b.adopt next).2
    have hblock := Block.isEmptyList_normalize_adopt b next
    rw [Node.adoptAll, Node.normalizeAll, Node.normalizeAll, List.filter_cons, List.filter_cons,
      hblock]
    split
    next => exact congrArg (false :: ·) hrest
    next => exact hrest

end

namespace EditM

variable {d : Document}

/-- A block is removed from between its siblings.  The selection stays in its block, if this is none
of those that go away. -/
theorem certain_removeBlock {parent : Path} {front back : List Node} {c : Block}
    (hcs : Node.childrenAt? d.children parent = some (front ++ .block c :: back))
    {saved : Option BlockRange}
    (hsaved : ∀ r p, saved = some r → d.findPath? r.anchor.block = some p →
      ¬ parent ++ [front.length] <+: p) :
    Certain (removeBlock (parent ++ [front.length]) saved) d fun e d' => e = .stay [c.id] ∧
      d' = { d with children := Node.setChildren d.children parent (front ++ back) } := by
  have hc : d.blockAt? (parent ++ [front.length]) = some c := Node.blockAt?_of_childrenAt? hcs
  have houtside : (saved.any fun r => (d.findPath? r.anchor.block).any fun p =>
      (parent ++ [front.length]).isPrefixOf p) = false := by
    rw [← Bool.not_eq_true, Option.any_eq_true]
    rintro ⟨r, hr, hinside⟩
    obtain ⟨p, hp, hprefix⟩ := (Option.any_eq_true _ _).mp hinside
    exact hsaved r p hr hp (List.isPrefixOf_iff_prefix.mp hprefix)
  unfold removeBlock
  refine .get (.orRefuse hc ?_)
  dsimp only
  refine .step (removeNode_eq hcs) ?_
  rw [houtside]
  exact .pure ⟨rfl, rfl⟩

end EditM

namespace Document

variable {d d' d₁ : Document} {path : Path} {b c : Block} {r : BlockRange}

/-- Inserting is refused exactly where a block cannot be inserted. -/
theorem insertable_iff (path : Path) (block : Block) :
    d.Insertable path ↔ ∃ p d', d.apply (.insertBlock path block) = (.ok p, d') := by
  constructor
  · intro h
    have hedit : EditM.Certain (d.edit (.insertBlock path block)) d _ :=
      EditM.certain_insertBlock h block
    obtain ⟨e, d', p, -, happly⟩ := apply_of_certain rfl hedit
    exact ⟨p, _, happly⟩
  · rintro ⟨p, d', happly⟩
    obtain ⟨e, d₁, ⟨-, parent, front, back, hpath, hcs, hblocks, -⟩, -⟩ :=
      exists_of_apply_ok rfl happly (EditM.checked_insertBlock_putIn path block).answers
    exact ⟨parent, front, back, hpath, hcs, hblocks⟩

/-- A block stands at a path, between the siblings that were there, and nothing else is different. -/
def Inserted (d : Document) (path : Path) (c : Block) (d' : Document) : Prop :=
  ∃ parent front back, path = parent ++ [front.length] ∧
    Node.childrenAt? d.children parent = some (front ++ back) ∧ Node.AreBlocks (front ++ back) ∧
    d'.children = Node.setChildren d.children parent (front ++ .block c :: back)

theorem PutIn.inserted (hd : d.Regular) {block : Block} (h : d.PutIn path block d') :
    d.Inserted path (block.adopt d.nextId).1 d' := by
  obtain ⟨parent, front, back, hpath, hcs, hroot, rfl⟩ := h
  refine ⟨parent, front, back, hpath, hcs, ?_, rfl⟩
  rcases hroot with rfl | hblocks
  · have hchildren : d.children = front ++ back := Option.some.inj hcs
    exact hchildren ▸ hd.uniform.areBlocks
  · exact hblocks

namespace Inserted

/-- There are blocks at the root afterwards. -/
theorem areBlocks (hd : d.Regular) (h : d.Inserted path c d') :
    d'.children ≠ [] ∧ Node.AreBlocks d'.children := by
  obtain ⟨parent, front, back, -, hcs, hblocks, hd'⟩ := h
  have hfocus := Node.focus_setChildren hcs
  have hall : Node.AreBlocks (front ++ .block c :: back) := Node.areBlocks_insert.mpr hblocks
  rw [hd']
  refine ⟨?_, hfocus.areBlocks_put (.inr hd.uniform.areBlocks) hall⟩
  intro hnil
  refine hfocus.not_areLeaves_put (Node.not_areLeaves_insert front back c) ?_
  rw [hnil]
  exact Node.areLeaves_iff.mpr rfl

/-- Of a settled tree only the block that came in is brought into normal form. -/
theorem normalize (hd : d.Regular) (h : d.Inserted path c d')
    (hkept : (Node.block c.normalize).isEmptyList = false) :
    d.Inserted path c.normalize d'.normalize := by
  obtain ⟨parent, front, back, hpath, hcs, hblocks, hd'⟩ := h
  have hfocus := Node.focus_setChildren hcs
  have hsiblings := hfocus.everywhere_children hd.settled
  rw [Node.everywhere_append] at hsiblings
  have hput : (Node.normalizeAll d'.children).filter (fun n => !n.isEmptyList) =
      Node.setChildren d.children parent (front ++ .block c.normalize :: back) := by
    rw [hd']
    exact hfocus.filter_normalizeAll_put hd.settled
      (Node.filter_normalizeAll_insert hsiblings.1 hsiblings.2 hkept)
      (Node.not_areLeaves_insert front back _)
  have hnormal : d.Inserted path c.normalize { d' with
      children := Node.setChildren d.children parent (front ++ .block c.normalize :: back) } :=
    ⟨parent, front, back, hpath, hcs, hblocks, rfl⟩
  obtain ⟨hne, hroot⟩ := hnormal.areBlocks hd
  rw [normalize_eq_of_kept hput hroot hne]
  exact hnormal

/-- The blocks that hold text are still there. -/
theorem holders_subset (hd : d.Regular) (h : d.Inserted path c d') :
    Node.holders d.children ⊆ Node.holders d'.children := by
  obtain ⟨parent, front, back, -, hcs, hblocks, hd'⟩ := h
  obtain ⟨xs, ys, hholders, -, hput⟩ :=
    (Node.focus_setChildren hcs).exists_holders_put hd.uniform hblocks
  rw [hd', hput _ (Node.areBlocks_insert.mpr hblocks), hholders, List.append_cons]
  simp only [Node.holders_append]
  intro x hx
  simp only [List.mem_append] at hx ⊢
  tauto

/-- Where identities are distinct, none is in the block that was there before. -/
theorem not_mem_ids (h : d.Inserted path c d') (hids : d'.ids.Nodup) {i : BlockId} (hi : i ∈ d.ids) :
    i ∉ c.ids := by
  obtain ⟨parent, front, back, -, hcs, -, hd'⟩ := h
  intro hc
  have hcount := Node.count_idsOf_setChildren hcs (front ++ .block c :: back) i
  have hone := List.nodup_iff_count_le_one.mp hids i
  have hi' := List.count_pos_iff.mpr hi
  have hc' := List.count_pos_iff.mpr hc
  rw [ids, hd'] at hone
  rw [ids] at hi'
  rw [Block.ids_eq] at hc'
  simp only [Node.idsOf_append, Node.idsOf_block, List.count_append, List.count_cons] at hcount hc'
  omega

end Inserted

/-- What is at a path or below it is in the block at the path. -/
theorem mem_ids_of_blockAt?_append (hc : d.blockAt? path = some c) {q : Path}
    (hb : d.blockAt? (path ++ q) = some b) : b.id ∈ c.ids := by
  rw [Block.ids_eq]
  cases q with
  | nil =>
    rw [List.append_nil] at hb
    cases hc.symm.trans hb
    exact List.mem_cons_self
  | cons i q =>
    rw [Document.blockAt?, Node.blockAt?_append, Node.childrenAt?_of_blockAt? hc] at hb
    exact List.mem_cons_of_mem _ (mem_ids_of_blockAt? (d := { d with children := c.children }) hb)

/-- An inserted block is in normal form afterwards, and the selection is where it was. -/
theorem Insertable.exists_insertBlock (h : d.Insertable path) (hd : d.Regular)
    (hlt : ∀ i ∈ d.ids, i < d.nextId) (hr : d.Selects r) {block : Block}
    (hkept : (Node.block block.normalize).isEmptyList = false) :
    ∃ p d' c, d.apply (.insertBlock path block) = (.ok p, d') ∧ d.Inserted path c d' ∧
      d'.ids.Nodup ∧ d'.Selects r := by
  have hedit : EditM.Certain (d.edit (.insertBlock path block)) d fun e d' =>
      (e = .stay [(block.adopt d.nextId).1.id] ∧ d.PutIn path block d') ∧ d'.ids.Nodup := by
    obtain ⟨e, d₁, hok, hput⟩ := EditM.certain_insertBlock h block
    have hedited := ((EditM.checked_insertBlock path block).answers e d₁ hok).edited
    exact ⟨e, d₁, hok, hput, hedited.toNumbered.nodup_of_lt hd.nodup hlt⟩
  obtain ⟨e, d₁, p, ⟨⟨rfl, hput⟩, hids⟩, happly⟩ := apply_of_certain rfl hedit
  rw [finished_stay, hr.saved_eq] at happly
  have hinserted := hput.inserted hd
  have hnormal := hinserted.normalize hd ((Block.isEmptyList_normalize_adopt block _).trans hkept)
  have hids' := nodup_ids_normalize (hinserted.areBlocks hd).2 hids
  exact ⟨p, _, _, happly, hnormal, hids', hr.committed hd hids' (hnormal.holders_subset hd)⟩

/-- When the block is removed, its siblings are left and the selection stays. -/
theorem Inserted.exists_removeBlock (h : d.Inserted path c d') (hd : d.Regular) (hids : d'.ids.Nodup)
    (hr : d.Selects r) (hr' : d'.Selects r) :
    ∃ p d'', d'.apply (.removeBlock path) = (.ok p, d'') ∧ d.Regained r d'' := by
  obtain ⟨parent, front, back, rfl, hcs, -, hd'⟩ := id h
  have hcs' : Node.childrenAt? d'.children parent = some (front ++ .block c :: back) := by
    rw [hd']
    exact Node.childrenAt?_setChildren hcs _
  have hc : d'.blockAt? (parent ++ [front.length]) = some c := Node.blockAt?_of_childrenAt? hcs'
  have houtside : ∀ t p, d'.selection.bind d'.blockRange? = some t →
      d'.findPath? t.anchor.block = some p → ¬ parent ++ [front.length] <+: p := by
    rintro t _ ht hfind ⟨q, rfl⟩
    cases hr'.saved_eq.symm.trans ht
    obtain ⟨b, hb, hid⟩ := exists_of_findPath? hfind
    obtain ⟨s, -, hanchor, -⟩ := hr
    obtain ⟨path, index, b', l, -, hb', -, -, hpoint⟩ := exists_leaf_of_blockPoint hanchor
    have hsame : b'.id = b.id := by rw [hid, hpoint]
    refine h.not_mem_ids hids (mem_ids_of_blockAt? hb') ?_
    rw [hsame]
    exact mem_ids_of_blockAt?_append hc hb
  have hedit : EditM.Certain (d'.edit (.removeBlock (parent ++ [front.length]))) d' _ :=
    EditM.certain_removeBlock hcs' houtside
  obtain ⟨e, d₁, p, ⟨rfl, rfl⟩, happly⟩ := apply_of_certain rfl hedit
  rw [finished_stay, hr'.saved_eq, hd', Node.setChildren_setChildren hcs,
    (Node.focus_setChildren hcs).put_self] at happly
  have hsettled := hr.settled hd
  have hnormal : ({ d' with children := d.children } : Document).normalize =
      { d' with children := d.children } :=
    Settled.normalize_eq ⟨hsettled.nonempty, hsettled.areBlocks, hsettled.blocks⟩
  refine ⟨p, _, happly, ?_, hr.committed hd ?_ ?_⟩
  · rw [committed, hnormal]
  · rw [hnormal]
    exact hd.nodup
  · rw [hnormal]
    exact List.Subset.refl _

/-! ## All of them -/

/-- In a document whose tree is in order, with a selection, structural commands take each other back:
unwrapping a block that was wrapped, or lifting it out of its wrapper, and removing a block that was
inserted, if it is one that stays in a tree in normal form.  The tree is the one from before, and
both ends of the selection are where they were in their blocks. -/
theorem opposites_restore (hd : d.Regular) (hlt : ∀ i ∈ d.ids, i < d.nextId) (hr : d.Selects r) :
    (∀ path b, d.blockAt? path = some b → ∀ kind,
      d.Reverses r (.wrapBlock path kind) (.unwrapBlock path) ∧
        d.Reverses r (.wrapBlock path kind) (.liftBlock (path ++ [0]))) ∧
      ∀ path, d.Insertable path → ∀ block : Block, (Node.block block.normalize).isEmptyList = false →
        d.Reverses r (.insertBlock path block) (.removeBlock path) := by
  refine ⟨?_, ?_⟩
  · intro path b hb kind
    exact ⟨hd.reverses_wrapBlock_unwrapBlock hlt hr hb kind,
      hd.reverses_wrapBlock_liftBlock hlt hr hb kind⟩
  · intro path hinsertable block hkept
    obtain ⟨p, d₁, c, hinsert, hinserted, hids, hr₁⟩ :=
      hinsertable.exists_insertBlock hd hlt hr hkept
    obtain ⟨q, d₂, hremove, hregained⟩ := hinserted.exists_removeBlock hd hids hr hr₁
    exact ⟨p, d₁, q, d₂, hinsert, hremove, hregained⟩

/-- An item is wrapped in a list of its own, and a quote with an empty list is put in front of it.
The selection goes back to it from a paragraph. -/
theorem opposites_restore_item :
    let item := fun (t : Text) => Node.block (.ofText .listItem t)
    let d := (ofBlocks [.ofKind .bulletList [item ['a'], item ['é', 'b']],
      .ofText .paragraph ['c', 'd']]).run [.select ⟨⟨[1, 0], 1⟩, ⟨[0, 1, 0], 2⟩⟩]
    let quote := Block.ofKind .quote [.block (.ofKind .bulletList []), item ['x']]
    let r : BlockRange := ⟨⟨4, 1⟩, ⟨3, 2⟩⟩
    d.Reverses r (.wrapBlock [0, 1] .bulletList) (.unwrapBlock [0, 1]) ∧
      d.Reverses r (.wrapBlock [0, 1] .bulletList) (.liftBlock [0, 1, 0]) ∧
      d.Reverses r (.insertBlock [0, 1] quote) (.removeBlock [0, 1]) := by
  intro item d quote r
  have hsound : ∀ b ∈ [Block.ofKind .bulletList [item ['a'], item ['é', 'b']],
      .ofText .paragraph ['c', 'd']], b.Everywhere Block.Sound := by
    rw [List.forall_mem_cons, List.forall_mem_singleton]
    exact ⟨Block.everywhere_sound_ofKind _ (.inr (Node.areBlocks_map_block [_, _]))
      ⟨Block.everywhere_sound_ofText _ _, Block.everywhere_sound_ofText _ _, trivial⟩,
      Block.everywhere_sound_ofText _ _⟩
  have hd : d.Regular := regular_run hsound (List.forall_mem_singleton.mpr trivial)
  have hr : d.Selects r := ⟨⟨⟨[1, 0], 1⟩, ⟨[0, 1, 0], 2⟩⟩, by rfl, by rfl, by rfl⟩
  have hplace : d.Insertable [0, 1] := by
    refine ⟨[0], _, _, rfl, show _ = some ([.block ⟨2, .listItem, [.leaf ⟨['a'], {}⟩]⟩] ++
      [.block ⟨3, .listItem, [.leaf ⟨['é', 'b'], {}⟩]⟩]) by rfl, .inr ?_⟩
    exact Node.areBlocks_map_block [_, _]
  obtain ⟨hwrap, hinsert⟩ := opposites_restore hd (by decide) hr
  obtain ⟨hunwrap, hlift⟩ :=
    hwrap [0, 1] ⟨3, .listItem, [.leaf ⟨['é', 'b'], {}⟩]⟩ (by rfl) .bulletList
  exact ⟨hunwrap, hlift, hinsert [0, 1] hplace quote (by rfl)⟩

end Document

end BlockNotes
