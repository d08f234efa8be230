import BlockNotes.Proofs.Document.Lifted
import BlockNotes.Proofs.Document.Refilled

/-!
# Commands at a cursor

An input is often dealt with by several commands, and the later ones go by what was
found before the first one: a path, an identity, an offset.  Here is what makes that
sound.

*Text.*  A command that works within one block puts other leaves into it and nothing
else: the block is at its path, with its identity, and the cursor is in it
(`Document.Reworked`).  So the next command finds what it is told.

*Structure.*  A command that moves blocks puts others in the place of one, and the
cursor is where it was in its block (`Document.Rebuilt`).

Each of these results says that a command is not refused and what it leaves behind.
They are about regular documents, where the tree is filled after the edit and every
block stays where it is when the tree is brought into normal form.
-/

namespace BlockNotes.Document

variable {d d' d₁ : Document} {path : Path} {b c : Block} {kind : Kind} {n : Nat}

/-- Regularity is about the tree. -/
theorem Regular.of_children (h : d.Regular) (s : Option Range) (v : Nat) :
    Regular { d with selection := s, version := v } :=
  ⟨h.nodup, h.uniform, h.settled⟩

/-- What is known of the blocks below a block is known of it as well. -/
theorem Regular.uniform_filled (hd : d.Regular) (hb : d.blockAt? path = some b) :
    Node.Uniform [.block b] ∧ Node.Filled [.block b] := by
  obtain ⟨parent, front, back, -, hcs⟩ := Node.exists_siblings_of_blockAt? hb
  have hfocus := Node.focus_setChildren hcs
  have huniform := hfocus.uniform_children hd.uniform
  have hfilled : Node.Filled (front ++ .block b :: back) :=
    hfocus.everywhere_children (hd.settled.mono fun _ hc => hc.nonempty)
  rw [List.append_cons, Node.uniform_append, Node.uniform_append] at huniform
  rw [List.append_cons, Node.filled_append, Node.filled_append] at hfilled
  exact ⟨huniform.1.2, hfilled.1.2⟩

/-- A regular document whose identities have all been given out, with a selection that addresses
places if there is one. -/
structure Ready (d : Document) : Prop where
  regular : d.Regular
  lt : ∀ i ∈ d.ids, i < d.nextId
  selection : ∀ s, d.selection = some s → d.AddressesBoth s

/-- The identities of a document are below the next one whatever is done. -/
theorem lt_nextId_of_apply (hd : d.ids.Nodup) (hlt : ∀ i ∈ d.ids, i < d.nextId) {command : Command}
    {result : Except Halt Patch} (h : d.apply command = (result, d')) :
    ∀ i ∈ d'.ids, i < d'.nextId := by
  have hnumbered := (applied_apply hd command).numbered
  rw [h] at hnumbered
  intro i hi
  rcases hnumbered.mem_or_issued hi with hi | ⟨-, hi⟩
  · exact Nat.lt_of_lt_of_le (hlt i hi) hnumbered.nextId_le
  · exact hi

/-! ## Points in a block -/

theorem currentBlock?_eq {s : Range} (hs : d.selection = some s) (hsite : d.Site s.anchor path b n) :
    d.currentBlock? = some (path, b) := by
  obtain ⟨index, l, hpath, -⟩ := hsite.leaf
  exact currentBlock?_concat hs hpath hsite.blockAt?

/-- What is looked at by an input is the place of the anchor. -/
theorem Ready.exists_site (hd : d.Ready) (h : d.currentBlock? = some (path, b)) :
    ∃ s n, d.selection = some s ∧ d.Site s.anchor path b n := by
  obtain ⟨s, hs, -⟩ := Option.bind_eq_some_iff.mp h
  obtain ⟨path', b', n, hsite⟩ := hd.regular.exists_site (hd.selection s hs).1
  cases h.symm.trans (currentBlock?_eq hs hsite)
  exact ⟨s, n, hs, hsite⟩

/-- The ends of a range in a block are in the block in either order. -/
theorem exists_site_start_stop {p q : Point} {m : Nat} (hp : d.Site p path b m)
    (hq : d.Site q path b n) : ∃ m' n', d.Site (Range.start ⟨p, q⟩) path b m' ∧
      d.Site (Range.stop ⟨p, q⟩) path b n' := by
  unfold Range.start Range.stop
  split
  next => exact ⟨m, n, hp, hq⟩
  next => exact ⟨n, m, hq, hp⟩

/-- A point that is found by an identity is in the block of this identity. -/
theorem Regular.exists_site_of_pointIn? (hd : d.Regular) (hb : d.blockAt? path = some b) {k : Nat}
    {q : Point} (h : d.pointIn? b.id k = some q) : ∃ m, d.Site q path b m := by
  obtain ⟨path', b', hb', hid, -, hpoint⟩ := exists_of_resolve? h
  obtain ⟨rfl, rfl⟩ := eq_of_id_eq hd.nodup hb hb' hid.symm
  obtain ⟨m, hm⟩ := hpoint (hd.settled_of_blockAt? hb).nonempty
  obtain ⟨path'', b'', m', hsite⟩ := hd.exists_site (addresses_iff.mpr ⟨_, hm⟩)
  have hsame : b''.id = b.id := congrArg BlockPoint.block
    (Except.ok.inj (hsite.blockPoint_eq.symm.trans hm))
  obtain ⟨rfl, rfl⟩ := eq_of_id_eq hd.nodup hsite.blockAt? hb hsame
  exact ⟨m', hsite⟩

/-! ## Where the cursor is -/

/-- The cursor is at an offset in the block at a path, which holds leaves. -/
structure CursorIn (d : Document) (path : Path) (b : Block) (n : Nat) : Prop where
  regular : d.Regular
  blockAt? : d.blockAt? path = some b
  isTextBlock : b.isTextBlock = true
  cursor : d.CursorAt ⟨b.id, n⟩

theorem CursorIn.areLeaves (h : d.CursorIn path b n) : Node.AreLeaves b.children :=
  Node.areLeaves_iff.mpr h.isTextBlock

theorem CursorIn.refilled (h : d.CursorIn path b n) : d.Refilled path b b n d :=
  .refl h.regular.orderly h.blockAt? h.areLeaves h.cursor

theorem CursorIn.isBoundary (h : d.CursorIn path b n) :
    (Node.ownText b.children).isBoundary n = true :=
  h.refilled.isBoundary

/-- What is found at an offset is in the block of the cursor. -/
theorem CursorIn.exists_pointIn? (h : d.CursorIn path b n) (k : Nat) :
    ∃ q m, d.pointIn? b.id k = some q ∧ d.blockPoint q = .ok ⟨b.id, m⟩ := by
  have hfind := findPath?_of_blockAt? h.regular.nodup h.blockAt?
  have hleaf := (h.regular.isTextBlock_eq h.blockAt?).symm.trans h.isTextBlock
  refine ⟨_, _, ?_, blockPoint_locate h.blockAt? hleaf
    (n := b.text.floorBoundary (min k b.text.bytes)) ?_⟩
  · simp only [pointIn?, resolve?, hfind, h.blockAt?, h.isTextBlock, if_true, Option.bind_eq_bind,
      Option.bind_some]
  · rw [← Block.text_eq_ownText h.isTextBlock]
    exact Text.isBoundary_floorBoundary _ _

/-! ## Commands that work within a block -/

/-- Other leaves have come into the block at a path, and the cursor is in it.  Nothing else is
different. -/
structure Reworked (d : Document) (path : Path) (b c : Block) (n : Nat) (d' : Document) : Prop where
  swapped : d.Swapped path b [.block c] d'
  id_eq : c.id = b.id
  nextId : d'.nextId = d.nextId
  cursor : d'.CursorIn path c n

theorem Reworked.trans {b' : Block} {m : Nat} (h : d.Reworked path b c m d₁)
    (h' : d₁.Reworked path c b' n d') : d.Reworked path b b' n d' :=
  ⟨h.swapped.trans_single h'.swapped, h'.id_eq.trans h.id_eq, h'.nextId.trans h.nextId, h'.cursor⟩

/-- In a regular document it stays so that blocks hold only leaves or only blocks. -/
theorem Refilled.reworked (h : d.Refilled path b c n d') (hd : d.Regular) :
    d.Reworked path b c n d' :=
  ⟨h.swapped, h.id_eq, h.nextId,
    ⟨h.orderly.nodup, h.swapped.uniform hd.uniform (Node.uniform_of_areLeaves h.areLeaves),
      h.orderly.settled⟩, h.blockAt?, h.isTextBlock, h.cursor⟩

/-- Other leaves are put into a block, and the cursor goes to an offset in it. -/
theorem Regular.reworked_setChildren (hd : d.Regular) (hb : d.blockAt? path = some b)
    {ns : List Node} (hns : Node.AreLeaves ns) (hne : ns ≠ [])
    (hn : (Node.ownText ns).isBoundary n = true) :
    d.Reworked path b ({ b with children := ns } : Block).normalize n
      ({ d with children := Node.setChildren d.children path ns }.committed
        (some (.collapsed ⟨b.id, n⟩))) :=
  (hd.orderly.refilled_setChildren hb hns hne hn).reworked hd

/-- Text within one block is deleted. -/
theorem Regular.exists_deleteRange (hd : d.Regular) {r : Range} {m : Nat}
    (hs : d.Site r.start path b m) (he : d.Site r.stop path b n) :
    ∃ p d' c, d.apply (.deleteRange r) = (.ok p, d') ∧ d.Reworked path b c m d' ∧ c.kind = b.kind ∧
      Node.marked c.children =
        (Node.marked b.children).take ((Node.ownText b.children).charsBefore m) ++
          (Node.marked b.children).drop ((Node.ownText b.children).charsBefore n) := by
  obtain ⟨p, d', c, happly, h, hmarked⟩ := hd.orderly.exists_deleteRange hs he
  exact ⟨p, d', c, happly, h.reworked hd, h.kind_eq, hmarked⟩

namespace CursorIn

/-- Where text can be edited, text is put in at the cursor. -/
theorem exists_insertText (h : d.CursorIn path b n) (hvoid : b.kind.isVoid = false) (t : Text) :
    ∃ p d' c, d.apply (.insertText t) = (.ok p, d') ∧ d.Reworked path b c (n + t.bytes) d' ∧
      c.kind = b.kind ∧ ∃ marks, Node.marked c.children =
        (Node.marked b.children).take ((Node.ownText b.children).charsBefore n) ++ t.map (·, marks) ++
          (Node.marked b.children).drop ((Node.ownText b.children).charsBefore n) := by
  obtain ⟨p, d', c, happly, h', hmarked⟩ := h.refilled.exists_insertText hvoid t
  exact ⟨p, d', c, happly, h'.reworked h.regular, h'.kind_eq, hmarked⟩

end CursorIn

/-! ## Commands that move blocks -/

/-- Nodes have come in the place of the block at a path, and nothing else is different.  A cursor is
where it was in its block. -/
structure Rebuilt (d : Document) (path : Path) (b : Block) (new : List Node) (d' : Document) :
    Prop where
  regular : d'.Regular
  swapped : d.Swapped path b new d'
  cursor : ∀ p, d.CursorAt p → d'.CursorAt p

/-- Where blocks were moved, each position is found in its block. -/
theorem Rearranged.finds (hd : d.Regular) (h : d.Rearranged d') {q : Point} {p : BlockPoint}
    (hpoint : d.blockPoint q = .ok p) : d'.normalize.Finds p := by
  obtain ⟨p', q', hpoint', hfound⟩ := h.exists_resolve? hd (addresses_iff.mpr ⟨p, hpoint⟩)
  cases hpoint.symm.trans hpoint'
  exact ⟨q', hfound⟩

/-- A cursor goes with its block. -/
theorem Rearranged.cursorAt (hd : d.Regular) (h : d.Rearranged d') {p : BlockPoint}
    (hp : d.CursorAt p) : (d'.committed (d.selection.bind d.blockRange?)).CursorAt p := by
  obtain ⟨q, hq, hpoint⟩ := hp
  have hsaved : d.selection.bind d.blockRange? = some (.collapsed p) := by
    simp only [hq, Option.bind_some, blockRange?, Range.collapsed, hpoint, BlockRange.collapsed]
  rw [hsaved]
  exact cursorAt_committed (h.finds hd hpoint)

/-- A command whose edit puts nodes in the place of a block that carry what is written in it. -/
theorem Regular.exists_rebuilt (hd : d.Regular) (command : Command)
    (hc : command.editsContent = true) {new : List Node} {next : BlockId}
    (hb : d.blockAt? path = some b)
    (hnew : Node.Uniform [.block b] → Node.Filled [.block b] → Node.Carries new b)
    (hedit : EditM.Certain (d.edit command) d fun e d' => d.Moved e d' ∧
      d.Exchanged path b new next d') :
    ∃ p d', d.apply command = (.ok p, d') ∧ d.Rebuilt path b (Node.normalizeAll new) d' ∧
      d'.nextId = next := by
  obtain ⟨huniform, hfilled⟩ := hd.uniform_filled hb
  have hcarries := hnew huniform hfilled
  obtain ⟨e, d₁, p, ⟨hmoved, hexchanged⟩, happly⟩ := apply_of_certain hc hedit
  rw [finished, if_neg hmoved.changed, hmoved.target, Option.none_or] at happly
  have hrearranged := hmoved.rearranged
  refine ⟨p, _, happly,
    ⟨hrearranged.regular.of_children _ _, ?_, fun _ => hrearranged.cursorAt hd⟩, ?_⟩
  · exact hexchanged.swapped.normalize hd hcarries.uniform.areBlocks hcarries.filled
      hcarries.nonempty
  · show d₁.normalize.nextId = next
    rw [hrearranged.filled.normalize_eq]
    obtain ⟨_, _, _, _, _, rfl⟩ := hexchanged
    rfl

/-- A block of another kind, with the identity and the characters of a block. -/
structure Recast (b : Block) (kind : Kind) (c : Block) : Prop where
  id_eq : c.id = b.id
  kind_eq : c.kind = kind
  marked_eq : Node.marked c.children = Node.marked b.children
  isTextBlock_eq : c.isTextBlock = b.isTextBlock

theorem Recast.areLeaves (h : Recast b kind c) (hleaves : Node.AreLeaves b.children) :
    Node.AreLeaves c.children :=
  Node.areLeaves_iff.mpr (h.isTextBlock_eq.trans (Node.areLeaves_iff.mp hleaves))

/-- A block keeps its path when its kind changes. -/
theorem Regular.exists_setKind (hd : d.Regular) (hb : d.blockAt? path = some b) (kind : Kind) :
    ∃ p d' c, d.apply (.setKind path kind) = (.ok p, d') ∧ d.Rebuilt path b [.block c] d' ∧
      Recast b kind.canonical c ∧ d'.nextId = d.nextId := by
  have hcarries : Node.Uniform [.block b] → Node.Filled [.block b] →
      Node.Carries [.block { b with kind := kind.canonical }] b :=
    fun huniform hfilled => Node.carries_kind huniform hfilled _
  obtain ⟨e, d₁, hok, rfl, h⟩ := EditM.certain_setKind hb kind
  have hedited := ((EditM.checked_setKind (G := True) path kind).answers _ d₁ hok).edited
  have hnext : d₁.nextId = d.nextId := by
    obtain ⟨_, _, _, _, _, rfl⟩ := h
    rfl
  have hids := hedited.toNumbered.nodup hnext hd.nodup
  obtain ⟨p, d', happly, hrebuilt, hnext'⟩ := hd.exists_rebuilt (.setKind path kind) rfl hb
    hcarries
    ⟨_, d₁, hok, ⟨h.rearranged hd hids hcarries, List.cons_ne_nil _ _, rfl⟩, h⟩
  refine ⟨p, d', _, happly, hrebuilt, ⟨Block.id_normalize _, Block.kind_normalize _,
    Block.marked_normalize _, ?_⟩, hnext'⟩
  have hfilled := (Node.filled_block.mp (hd.uniform_filled hb).2).1
  rw [hrebuilt.regular.isTextBlock_eq hrebuilt.swapped.blockAt?_single, hd.isTextBlock_eq hb]
  exact Node.any_isLeaf_normalize (b := { b with kind := kind.canonical }) hfilled.1 hfilled.2

/-- A block that is there is wrapped. -/
theorem exists_wrapBlock (hb : d.blockAt? path = some b) (kind : Kind) :
    ∃ p d', d.apply (.wrapBlock path kind) = (.ok p, d') := by
  have hedit : EditM.Certain (d.edit (.wrapBlock path kind)) d _ := EditM.certain_wrapBlock hb kind
  obtain ⟨e, d', p, -, happly⟩ := apply_of_certain rfl hedit
  exact ⟨p, _, happly⟩

/-- A block that is wrapped is all that is in a new block in its place. -/
theorem Regular.exists_wrapped (hd : d.Regular) (hlt : ∀ i ∈ d.ids, i < d.nextId)
    (hb : d.blockAt? path = some b) (kind : Kind) :
    ∃ p d', d.apply (.wrapBlock path kind) = (.ok p, d') ∧
      d.Rebuilt path b [.block ⟨d.nextId, kind.canonical, [.block b]⟩] d' := by
  obtain ⟨e, d₁, hok, -, h⟩ := EditM.certain_wrapBlock hb kind
  obtain ⟨p, d', happly, hrebuilt, -⟩ := hd.exists_rebuilt (.wrapBlock path kind) rfl hb
    (fun huniform hfilled => Node.carries_wrapped huniform hfilled _ _)
    ⟨e, d₁, hok, answers_edit_of_moves hd hlt (c := .wrapBlock path kind) trivial e d₁ hok, h⟩
  have hsettled : Node.Everywhere Block.Settled [.block ⟨d.nextId, kind.canonical, [.block b]⟩] := by
    have hbelow := (Node.focus_setChildren (Node.childrenAt?_of_blockAt? hb)).everywhere_children
      hd.settled
    have hwrapper : Block.Settled ⟨d.nextId, kind.canonical, [.block b]⟩ :=
      ⟨List.cons_ne_nil _ _, fun _ htext => by cases htext⟩
    simp only [Node.everywhere_block, Node.everywhere_nil]
    exact ⟨⟨hwrapper, ⟨hd.settled_of_blockAt? hb, hbelow⟩, trivial⟩, trivial⟩
  rw [(Node.normalizeAll_of_settled _ hsettled).1] at hrebuilt
  exact ⟨p, d', happly, hrebuilt⟩

/-- A block that is lifted out of a list stands between what was in front of it and what was behind
it. -/
theorem Regular.exists_lifted (hd : d.Regular) (hlt : ∀ i ∈ d.ids, i < d.nextId) {i : Nat}
    {list : Block} (hb : d.blockAt? (path ++ [i]) = some b) (hlist : d.blockAt? path = some list)
    (hkind : list.kind.isList = true) :
    ∃ p d' front back new next, d.apply (.liftBlock (path ++ [i])) = (.ok p, d') ∧
      list.children = front ++ .block b :: back ∧ list.Parted front b back d.nextId new next ∧
      d.Rebuilt path list new d' := by
  have hlen : ¬ (path ++ [i]).length < 2 := by
    cases path with
    | nil => cases hlist
    | cons j path => simp
  obtain ⟨e, d₁, hok, -, hlifted⟩ := EditM.certain_liftBlock hb hlen
  obtain ⟨front, back, new, next, hchildren, hparted, h⟩ := hlifted.exists_parted hlist
  obtain ⟨p, d', happly, hrebuilt, -⟩ := hd.exists_rebuilt (.liftBlock (path ++ [i])) rfl
    hlist (fun huniform hfilled => Node.carries_parted huniform hfilled hchildren hparted)
    ⟨e, d₁, hok, answers_edit_of_moves hd hlt (c := .liftBlock (path ++ [i])) trivial e d₁ hok, h⟩
  obtain ⟨-, -, hsettled⟩ := hparted.settled hchildren hkind
    ((Node.focus_setChildren (Node.childrenAt?_of_blockAt? hlist)).everywhere_children hd.settled)
  rw [(Node.normalizeAll_of_settled _ hsettled).1] at hrebuilt
  exact ⟨p, d', front, back, new, next, happly, hchildren, hparted, hrebuilt⟩

/-- Where a block that holds leaves is lifted, its identity is still found. -/
theorem Regular.exists_findPath?_lifted (hd : d.Regular) (hlt : ∀ i ∈ d.ids, i < d.nextId)
    {at_ : Path} {p : Patch} (h : d.apply (.liftBlock at_) = (.ok p, d'))
    (hb : d.blockAt? path = some b) (htext : b.isTextBlock = true) :
    d'.Regular ∧ ∃ path' c, d'.findPath? b.id = some path' ∧ d'.blockAt? path' = some c := by
  obtain ⟨e, d₁, hmoved, rfl⟩ := exists_of_apply_ok rfl h
    (answers_edit_of_moves hd hlt (c := .liftBlock at_) trivial)
  rw [finished, if_neg hmoved.changed]
  have hregular := hmoved.rearranged.regular
  obtain ⟨path', c, hc, hid, -⟩ := hmoved.rearranged.exists_block hb
    ((hd.isTextBlock_eq hb).symm.trans htext)
  refine ⟨hregular.of_children _ _, path', c, ?_, hc⟩
  show d₁.normalize.findPath? b.id = some path'
  rw [← hid]
  exact findPath?_of_blockAt? hregular.nodup hc

/-- A range with valid ends is selected. -/
theorem apply_select {r : Range} {p q : BlockPoint} (hp : d.blockPoint r.anchor = .ok p)
    (hq : d.blockPoint r.focus = .ok q) :
    d.apply (.select r) =
      (.ok ⟨.selection, [], some r, d.version⟩, { d with selection := some r }) := by
  unfold apply EditM.apply EditM.select
  dsimp only
  rw [get_bind, hp, hq]
  rfl

end BlockNotes.Document
