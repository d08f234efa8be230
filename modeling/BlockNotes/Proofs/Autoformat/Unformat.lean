import BlockNotes.Proofs.Autoformat.Backspace

/-!
# Backspace at the start of a block

A backward deletion at the start of a block that is no paragraph makes it one and deletes
nothing (`DraftM.deleteBackward_unformats`).  All blocks that hold leaves are the same as
before, but for the kind of that one, and the cursor is where it was.

An item leaves its list first, and the list is parted around it (`Block.around`).  Then the
block has another path.  It is found there by its identity, and what comes in its place
comes there between the two parts (`Document.Swapped.exists_inner`).
-/

namespace BlockNotes

/-! ## Parting a list -/

theorem Node.holders_block {b : Block} (h : Node.AreBlocks b.children) :
    Node.holders [.block b] = Node.holders b.children := by
  rw [Node.holders_of_areBlocks h, Node.holders_nil, List.append_nil]

/-- A block between the parts of a list that were around a child: the nodes in front of the child are
still in the list, and those behind it follow in a list of the same kind. -/
def Block.around (list : Block) (front : List Node) (c : Block) (back : List Node)
    (fresh : BlockId) : List Node :=
  (if front.isEmpty then [] else [.block { list with children := front }]) ++
    .block c :: if back.isEmpty then [] else
      [.block ⟨if front.isEmpty then list.id else fresh, list.kind, back⟩]

namespace Block

variable {list b c : Block} {front back new : List Node} {fresh next : BlockId}

theorem Parted.eq_around (h : list.Parted front b back fresh new next)
    (hkind : list.kind.isList = true) : new = list.around front b back fresh := by
  have hcanonical := Kind.canonical_of_isList hkind
  cases h <;> simp_all [around]

theorem areBlocks_around : Node.AreBlocks (list.around front c back fresh) := by
  unfold around
  rw [Node.areBlocks_append, Node.areBlocks_cons]
  refine ⟨?_, rfl, ?_⟩
  · split <;> simp [Node.AreBlocks, Node.isLeaf]
  · split <;> simp [Node.AreBlocks, Node.isLeaf]

/-- Parting a list does not change which blocks hold leaves. -/
theorem holders_around (hfront : Node.AreBlocks front) (hback : Node.AreBlocks back) :
    Node.holders (list.around front c back fresh) =
      Node.holders front ++ Node.holders [.block c] ++ Node.holders back := by
  have hleft : Node.holders (if front.isEmpty then [] else [.block { list with children := front }]) =
      Node.holders front := by
    cases front with
    | nil => rfl
    | cons n front => exact Node.holders_block (b := ⟨list.id, list.kind, n :: front⟩) hfront
  have hright : ∀ id, Node.holders (if back.isEmpty then [] else [.block ⟨id, list.kind, back⟩]) =
      Node.holders back := by
    intro id
    cases back with
    | nil => rfl
    | cons n back => exact Node.holders_block (b := ⟨id, list.kind, n :: back⟩) hback
  rw [around, List.append_cons, Node.holders_append, Node.holders_append, hleft, hright]

end Block

/-! ## The commands -/

/-- A block has become a paragraph.  It has its identity and its characters with their marks, and all
other blocks that hold leaves are as they were.  The cursor is at an offset in the block. -/
structure Document.Unformatted (d : Document) (b : Block) (n : Nat) (c : Block) (d' : Document) :
    Prop where
  id_eq : c.id = b.id
  kind_eq : c.kind = .paragraph
  marked_eq : Node.marked c.children = Node.marked b.children
  holders : ∃ xs ys, Node.holders d.children = xs ++ b :: ys ∧ Node.holders d'.children = xs ++ c :: ys
  cursor : d'.CursorAt ⟨b.id, n⟩

namespace Document

variable {d d₁ d' : Document} {path : Path} {b c : Block} {n : Nat}

theorem Unformatted.passages_eq (h : d.Unformatted b n c d') :
    Node.passages d'.children = Node.passages d.children := by
  obtain ⟨xs, ys, hholders, hholders'⟩ := h.holders
  simp [Node.passages, hholders, hholders', h.id_eq, h.marked_eq]

theorem Regular.holders_single (hd : d.Regular) (hb : d.blockAt? path = some b)
    (hleaves : Node.AreLeaves b.children) : Node.holders [.block b] = [b] :=
  Node.holders_of_areLeaves hleaves (hd.settled_of_blockAt? hb).nonempty

/-- The blocks with leaves, where some nodes with one of them came in the place of others with one. -/
theorem Swapped.exists_holders_single (hd : d.Regular) {list : Block} {new : List Node}
    (h : d.Swapped path list new d') (hblocks : Node.AreBlocks new) {front back : List Block}
    (hold : Node.holders [.block list] = front ++ b :: back)
    (hnew : Node.holders new = front ++ c :: back) :
    ∃ xs ys, Node.holders d.children = xs ++ b :: ys ∧ Node.holders d'.children = xs ++ c :: ys := by
  obtain ⟨xs, ys, hholders, hholders'⟩ := h.exists_holders hd.uniform hblocks
  refine ⟨xs ++ front, back ++ ys, ?_, ?_⟩
  · rw [hholders, hold]
    simp
  · rw [hholders', hnew]
    simp

/-- A block becomes a paragraph in its place. -/
theorem Regular.exists_unformatted (hd : d.Regular) (hb : d.blockAt? path = some b)
    (hleaves : Node.AreLeaves b.children) (hcursor : d.CursorAt ⟨b.id, n⟩) :
    ∃ p d' c, d.apply (.setKind path .paragraph) = (.ok p, d') ∧ d.Unformatted b n c d' ∧
      d.Swapped path b [.block c] d' := by
  obtain ⟨p, d', c, happly, hrebuilt, hrecast, -⟩ := hd.exists_setKind hb .paragraph
  have hold : Node.holders [.block b] = [] ++ b :: [] := hd.holders_single hb hleaves
  have hnew : Node.holders [.block c] = [] ++ c :: [] :=
    hrebuilt.regular.holders_single hrebuilt.swapped.blockAt?_single (hrecast.areLeaves hleaves)
  exact ⟨p, d', c, happly, ⟨hrecast.id_eq, hrecast.kind_eq, hrecast.marked_eq,
    hrebuilt.swapped.exists_holders_single hd Node.areBlocks_block hold hnew,
    hrebuilt.cursor _ hcursor⟩, hrebuilt.swapped⟩

/-- An item leaves its list and becomes a paragraph. -/
theorem Ready.exists_unformatted_lifted (hd : d.Ready) {i : Nat} {list : Block}
    (hb : d.blockAt? (path ++ [i]) = some b) (hlist : d.blockAt? path = some list)
    (hkind : list.kind.isList = true) (hleaves : Node.AreLeaves b.children)
    (hcursor : d.CursorAt ⟨b.id, n⟩) :
    ∃ p d₁ q p' d' front back c, d.apply (.liftBlock (path ++ [i])) = (.ok p, d₁) ∧
      d₁.findPath? b.id = some q ∧ d₁.apply (.setKind q .paragraph) = (.ok p', d') ∧
      list.children = front ++ .block b :: back ∧ d.Unformatted b n c d' ∧
      d.Swapped path list (list.around front c back d.nextId) d' := by
  obtain ⟨p, d₁, front, back, new, next, hlift, hchildren, hparted, hrebuilt⟩ :=
    hd.regular.exists_lifted hd.lt hb hlist hkind
  rw [hparted.eq_around hkind] at hrebuilt
  obtain ⟨q, hq, hinner⟩ := hrebuilt.swapped.exists_inner
  obtain ⟨p', d', c, hset, hrebuilt', hrecast, -⟩ := hrebuilt.regular.exists_setKind hq .paragraph
  have hswapped : d.Swapped path list (list.around front c back d.nextId) d' := by
    simpa [Block.around] using hinner _ _ hrebuilt'.swapped
  have hblocks : Node.AreBlocks (front ++ .block b :: back) := by
    have huniform := (hd.regular.uniform_filled hlist).1
    rw [Node.uniform_block, hchildren] at huniform
    exact huniform.1.1.areBlocks
  have hold : Node.holders [.block list] = Node.holders front ++ b :: Node.holders back := by
    rw [Node.holders_block (hchildren ▸ hblocks), hchildren, List.append_cons, Node.holders_append,
      Node.holders_append, hd.regular.holders_single hb hleaves]
    simp
  rw [Node.areBlocks_append, Node.areBlocks_cons] at hblocks
  have hnew : Node.holders (list.around front c back d.nextId) =
      Node.holders front ++ c :: Node.holders back := by
    rw [Block.holders_around hblocks.1 hblocks.2.2, hrebuilt'.regular.holders_single
      hrebuilt'.swapped.blockAt?_single (hrecast.areLeaves hleaves)]
    simp
  exact ⟨p, d₁, q, p', d', front, back, c, hlift,
    findPath?_of_blockAt? hrebuilt.regular.nodup hq, hset, hchildren,
    ⟨hrecast.id_eq, hrecast.kind_eq, hrecast.marked_eq,
      hswapped.exists_holders_single hd.regular Block.areBlocks_around hold hnew,
      hrebuilt'.cursor _ (hrebuilt.cursor _ hcursor)⟩, hswapped⟩

end Document

namespace DraftM

variable {s : Draft} {path : Path} {b : Block} {p : Point} {n : Nat}

/-- At the start of a block that is neither a paragraph nor an item, and anywhere in a blank code
block. -/
theorem deleteBackward_of_ne (hcursor : cursor? s.document = some p)
    (hblock : s.document.currentBlock? = some (path, b))
    (hpoint : s.document.blockPoint p = .ok ⟨b.id, n⟩) (hkind : b.kind ≠ .paragraph)
    (hitem : b.kind ≠ .listItem)
    (hn : n = 0 ∨ b.kind.isCode = true ∧ b.text.all Unicode.isBlank = true) (unit : DeleteUnit) :
    deleteBackward unit s =
      (perform (.setKind path .paragraph) >>= fun _ => pure (Transition.reverted b.kind)) s := by
  rw [deleteBackward, get_bind]
  simp only [hcursor, hblock]
  rw [bind_of_ok (ofExcept_of_ok hpoint)]
  have hstart : b.kind.isCode = false → n = 0 := fun hcode =>
    hn.resolve_right fun h => Bool.false_ne_true (hcode.symm.trans h.1)
  cases hk : b.kind with
  | paragraph => exact absurd hk hkind
  | listItem => exact absurd hk hitem
  | code language =>
    have hblank : n = 0 ∨ b.text.all Unicode.isBlank = true := hn.imp_right And.right
    simp only [if_pos hblank]
  | _ => simp only [hstart (by rw [hk]; rfl), if_true]

/-- At the start of an item. -/
theorem deleteBackward_of_item (hcursor : cursor? s.document = some p)
    (hblock : s.document.currentBlock? = some (path, b))
    (hpoint : s.document.blockPoint p = .ok ⟨b.id, 0⟩) (hitem : b.kind = .listItem)
    (unit : DeleteUnit) :
    deleteBackward unit s = (leaveList path b.id >>= fun path =>
      perform (.setKind path .paragraph) >>= fun _ => pure Transition.liftedListItem) s := by
  rw [deleteBackward, get_bind]
  simp only [hcursor, hblock]
  rw [bind_of_ok (ofExcept_of_ok hpoint)]
  simp only [hitem, if_true]

theorem inList_concat (d : Document) (above : Path) (i : Nat) :
    inList d (above ++ [i]) = (d.blockAt? above).any fun b => b.kind.isList := by
  rw [inList, Path.split?_concat]

/-- In a ready document with a cursor at the start of a block that is no paragraph, or in a blank code
block, a backward deletion gives the block another kind and does nothing else.  The blocks that hold
leaves are the same in the same order, with the same characters and marks, this one is a paragraph
and all others have the kind that they had.  The cursor is at the same offset.  The block stays in
its place, but for an item of a list: it comes behind the items in front of it, which are still in
the list, and those behind it follow in a list of the same kind. -/
theorem deleteBackward_unformats (hs : s.document.Ready)
    (hp : s.document.selection = some (.collapsed p))
    (hblock : s.document.currentBlock? = some (path, b))
    (hpoint : s.document.blockPoint p = .ok ⟨b.id, n⟩) (hkind : b.kind ≠ .paragraph)
    (hn : n = 0 ∨ b.kind.isCode = true ∧ b.text.all Unicode.isBlank = true) (unit : DeleteUnit) :
    ∃ a d' c, deleteBackward unit s = .ok a { s with document := d' } ∧
      Node.passages d'.children = Node.passages s.document.children ∧
      s.document.Unformatted b n c d' ∧
      ((b.kind = .listItem → inList s.document path = false) →
        s.document.Swapped path b [.block c] d') ∧
      ∀ above i list, b.kind = .listItem → path = above ++ [i] →
        s.document.blockAt? above = some list → list.kind.isList = true →
          ∃ front back, list.children = front ++ .block b :: back ∧
            s.document.Swapped above list (list.around front c back s.document.nextId) d' := by
  have hcursor : cursor? s.document = some p := by
    simp [cursor?, hp, Range.isCollapsed, Range.collapsed]
  have hat : s.document.CursorAt ⟨b.id, n⟩ := ⟨p, hp, hpoint⟩
  obtain ⟨_, _, -, hsite⟩ := hs.exists_site hblock
  have hplace := hs.regular.exists_unformatted hsite.blockAt? hsite.areLeaves hat
  by_cases hitem : b.kind = .listItem
  · have hstart : n = 0 := hn.resolve_right (by rw [hitem]; rintro ⟨⟨⟩, -⟩)
    subst hstart
    have hrun := deleteBackward_of_item hcursor hblock hpoint hitem unit
    cases hin : inList s.document path with
    | false =>
      obtain ⟨_, d', c, hset, hunformatted, hswapped⟩ := hplace
      rw [bind_of_ok (leaveList_of_not_inList hs.regular.nodup hsite.blockAt? hin),
        bind_of_ok (perform_of_ok hset)] at hrun
      refine ⟨_, d', c, hrun, hunformatted.passages_eq, hunformatted, fun _ => hswapped, ?_⟩
      rintro above i list - rfl hlist hisList
      rw [inList_concat, hlist] at hin
      cases hin.symm.trans hisList
    | true =>
      obtain ⟨above, i, list, rfl, hlist, hisList⟩ := exists_parent_of_inList hin
      obtain ⟨_, d₁, q, _, d', front, back, c, hlift, hfind, hset, hchildren, hunformatted,
        hswapped⟩ := hs.exists_unformatted_lifted hsite.blockAt? hlist hisList hsite.areLeaves hat
      have hleave : leaveList (above ++ [i]) b.id s = .ok q { s with document := d₁ } := by
        rw [leaveList_of_inList hin, bind_of_ok (perform_of_ok hlift), get_bind]
        dsimp only
        rw [hfind]
        rfl
      rw [bind_of_ok hleave, bind_of_ok (perform_of_ok hset)] at hrun
      refine ⟨_, d', c, hrun, hunformatted.passages_eq, hunformatted, ?_, ?_⟩
      · intro hnot
        cases hnot hitem
      · rintro above' i' list' - hpath hlist' -
        obtain ⟨rfl, -⟩ := List.append_inj' hpath rfl
        cases hlist.symm.trans hlist'
        exact ⟨front, back, hchildren, hswapped⟩
  · obtain ⟨_, d', c, hset, hunformatted, hswapped⟩ := hplace
    have hrun := deleteBackward_of_ne hcursor hblock hpoint hkind hitem hn unit
    rw [bind_of_ok (perform_of_ok hset)] at hrun
    exact ⟨_, d', c, hrun, hunformatted.passages_eq, hunformatted, fun _ => hswapped,
      fun _ _ _ h => absurd h hitem⟩

/-- The middle one of three items in a list in a quotation. -/
theorem deleteBackward_unformats_item :
    let item (text : Text) : Node := .block (.ofText .listItem text)
    let d := (Document.ofBlocks [.ofKind .quote [.block (.ofKind .numberedList
      [item ['a'], item ['é'], item ['c']])]]).run [.select (.collapsed ⟨[0, 0, 1, 0], 0⟩)]
    let s : Draft := { document := d, tasks := [.refresh] }
    ∃ a d' b c list front back, deleteBackward .line s = .ok a { s with document := d' } ∧
      d.blockAt? [0, 0, 1] = some b ∧ b.id = 4 ∧ d.Unformatted b 0 c d' ∧
      d.blockAt? [0, 0] = some list ∧ list.children = front ++ .block b :: back ∧
      d.Swapped [0, 0] list (list.around front c back 6) d' := by
  intro item d s
  have hsound : ∀ b ∈ [Block.ofKind .quote [.block (.ofKind .numberedList
      [item ['a'], item ['é'], item ['c']])]], b.Everywhere Block.Sound := by
    rw [List.forall_mem_singleton]
    refine Block.everywhere_sound_ofKind _ (.inr Node.areBlocks_block) ⟨?_, trivial⟩
    exact Block.everywhere_sound_ofKind _ (.inr (Node.areBlocks_map_block [_, _, _]))
      ⟨Block.everywhere_sound_ofText _ _, Block.everywhere_sound_ofText _ _,
        Block.everywhere_sound_ofText _ _, trivial⟩
  have hs : s.document.Ready := by
    refine ⟨Document.regular_run hsound (List.forall_mem_singleton.mpr trivial), by decide, ?_⟩
    rintro _ ⟨⟩
    exact ⟨Document.addresses_iff.mpr ⟨⟨4, 0⟩, by rfl⟩, Document.addresses_iff.mpr ⟨⟨4, 0⟩, by rfl⟩⟩
  have hblock : s.document.currentBlock? =
      some ([0, 0, 1], ⟨4, .listItem, [.leaf (.ofText ['é'])]⟩) := by rfl
  have hpoint : s.document.blockPoint ⟨[0, 0, 1, 0], 0⟩ = .ok ⟨4, 0⟩ := by rfl
  obtain ⟨a, d', c, hrun, -, hunformatted, -, hlist⟩ := deleteBackward_unformats hs (by rfl) hblock
    hpoint (by decide) (.inl rfl) .line
  obtain ⟨front, back, hchildren, hswapped⟩ := hlist [0, 0] 1 _ rfl rfl (by rfl) rfl
  exact ⟨a, d', _, c, _, front, back, hrun, by rfl, rfl, hunformatted, by rfl, hchildren, hswapped⟩

end DraftM

end BlockNotes
