import BlockNotes.Proofs.Document.Cursor
import BlockNotes.Proofs.Document.LeafForm

/-!
# Splitting a block and joining it again

Deleting backward right after a split takes the split back
(`Document.deleteBackward_splitBlock`): the tree is the one from before, with the
identities, kinds and leaves of all blocks, and the cursor is where it was in its block.

The split leaves two blocks in the place of one, with the cursor at the start of the second
(`Document.Halved`).  Nothing in the document remembers this.  Deleting backward looks for
the text block in front of the cursor in document order, and as the two halves are
neighbours in their parent and hold leaves, there is nothing between them
(`EditM.certain_mergeIntoPrevious`).  So the leaves of the second half come behind those of the
first one.  Both were brought into normal form after the split, which joins leaves and takes
empty ones away; but normal leaves are decided by their characters, so in the end they are
what they were (`Block.normalize_rejoined`).
-/

namespace BlockNotes

/-! ## The leaves of both halves -/

/-- The normal form of a block that holds leaves and is no list. -/
theorem Block.normalize_map_leaf (id : BlockId) {kind : Kind} (hlist : kind.isList = false)
    (ls : List Leaf) : (⟨id, kind, ls.map .leaf⟩ : Block).normalize =
      ⟨id, kind, (Leaf.normalize ls).map .leaf⟩ := by
  have hleaves : Node.AreLeaves (ls.map Node.leaf) :=
    Node.areLeaves_iff.mpr (by simp [Node.isLeaf])
  obtain ⟨hsame, hkept⟩ := Node.normalizeAll_of_settled _ (Node.everywhere_of_areLeaves hleaves)
  have hcond : (!kind.isList && (ls.map Node.leaf).all Node.isLeaf) = true := by
    rw [hlist, Node.areLeaves_iff.mp hleaves]
    rfl
  rw [Block.normalize, hsame, hkept, if_pos hcond, Node.filterMap_leaf?_map_leaf]

theorem Kind.isList_canonical (kind : Kind) : kind.canonical.isList = kind.isList := by
  cases kind <;> rfl

theorem Kind.isVoid_canonical (kind : Kind) : kind.canonical.isVoid = kind.isVoid := by
  cases kind <;> rfl

/-- Both halves of leaves are leaves, and neither is without any. -/
theorem Node.areLeaves_splitLeaves? {ns cut rest : List Node} {n : Nat} (hns : AreLeaves ns)
    (hne : ns ≠ []) (hn : (ownText ns).isBoundary n = true)
    (hsplit : splitLeaves? ns n = some (cut, rest)) :
    (AreLeaves cut ∧ cut ≠ []) ∧ AreLeaves rest ∧ rest ≠ [] := by
  obtain ⟨hcut, hrest⟩ := all_isLeaf_splitLeaves? hsplit (areLeaves_iff.mp hns)
  obtain ⟨ks, l, ls, s, t, -, -, rfl, rfl, -, -⟩ := exists_leaf_of_splitLeaves? hns hne hn hsplit
  exact ⟨⟨areLeaves_iff.mpr hcut, by simp⟩, areLeaves_iff.mpr hrest, by simp⟩

/-- A settled block has its leaves again when those of its halves are put together. -/
theorem Block.normalize_rejoined {b : Block} (hb : b.Settled) (hleaves : Node.AreLeaves b.children)
    (hlist : b.kind.isList = false) {n : Nat} (hn : (Node.ownText b.children).isBoundary n = true)
    {cut rest : List Node} (hsplit : Node.splitLeaves? b.children n = some (cut, rest))
    (id : BlockId) {kind : Kind} (hkind : kind.isList = false) :
    ({ b with children := (⟨b.id, b.kind, cut⟩ : Block).normalize.children ++
      (⟨id, kind, rest⟩ : Block).normalize.children } : Block).normalize = b := by
  obtain ⟨ks, l, ls, s, t, hchildren, htext, rfl, rfl, -, -⟩ :=
    Node.exists_leaf_of_splitLeaves? hleaves hb.nonempty hn hsplit
  have hnormal := hb.leaves hlist (Node.areLeaves_iff.mp hleaves)
  obtain ⟨bid, bkind, children⟩ := b
  cases hchildren
  rw [Block.leaves, Node.filterMap_leaf?_map_leaf] at hnormal
  rw [Block.normalize_map_leaf _ hlist, Block.normalize_map_leaf _ hkind, ← List.map_append,
    Block.normalize_map_leaf _ hlist, hnormal.normalize_cut htext]

/-! ## Joining two neighbours -/

namespace EditM

variable {d d₀ : Document} {parent : Path} {k : Nat} {a b c : Block}

/-- The leaves of a block come behind those of the block in front of it, and the block goes away. -/
theorem certain_join_neighbours (hd : d.ids.Nodup)
    (h : d₀.Swapped (parent ++ [k]) a [.block b, .block c] d) (e : Effect) :
    Certain
      (do
        putChildren (parent ++ [k + 1]) []
        editChildren b.id fun b => some (b.children ++ c.children)
        removeNode (parent ++ [k + 1])
        pure e)
      d fun e' d' => e' = e ∧
        d₀.Swapped (parent ++ [k]) a [.block { b with children := b.children ++ c.children }] d' := by
  have hc : d.blockAt? (parent ++ [k + 1]) = some c := h.blockAt?_after (i := 1) Nat.one_lt_two
  have hcut := h.trans [.block b] [] (Document.Swapped.setChildren hc [])
  have hids : (Document.ids
      { d with children := Node.setChildren d.children (parent ++ [k + 1]) [] }).Nodup :=
    (Document.Edited.put_leaves (G := True) hc (Node.areLeaves_iff.mpr rfl)).toNumbered.nodup rfl hd
  have hb := hcut.blockAt?_after (i := 0) Nat.zero_lt_two
  have hjoin := hcut.trans [] _ (Document.Swapped.setChildren hb (b.children ++ c.children))
  have hempty := hjoin.blockAt?_after (i := 1) Nat.one_lt_two
  refine .putChildren (.step (editChildren_eq hids hb rfl) ?_)
  refine (certain_removeNode_exchanged hempty).bind ?_
  intro _ d' hremove
  exact .pure ⟨rfl, hjoin.trans [_] [] hremove.swapped⟩

/-- Two neighbours that hold leaves follow each other in the order of the text blocks. -/
theorem exists_matching_of_neighbours (hd₀ : d₀.Regular) (hd : d.Regular)
    (h : d₀.Swapped (parent ++ [k]) a [.block b, .block c] d) (hb : Node.AreLeaves b.children)
    (hb' : b.children ≠ []) (hc : Node.AreLeaves c.children) (hc' : c.children ≠ []) :
    ∃ before behind, d.matching Block.isTextBlock =
      before ++ (parent ++ [k], b) :: (parent ++ [k + 1], c) :: behind := by
  obtain ⟨xs, ys, -, hholders⟩ := h.exists_holders hd₀.uniform (Node.areBlocks_map_block [b, c])
  rw [Node.holders_of_areLeaves hb hb', Node.holders_of_areLeaves hc hc', Node.holders_nil,
    List.append_assoc, ← hd.map_snd_matching, List.map_eq_append_iff] at hholders
  obtain ⟨before, rest, hord, -, hrest⟩ := hholders
  obtain ⟨x, rest', rfl, hx, hrest'⟩ := List.map_eq_cons_iff.mp hrest
  obtain ⟨y, behind, rfl, hy, -⟩ := List.map_eq_cons_iff.mp hrest'
  have hplace : ∀ z ∈ d.matching Block.isTextBlock, ∀ path e, z.2 = e → d.blockAt? path = some e →
      z = (path, e) := by
    rintro ⟨q, _⟩ hz path e rfl hblock
    have hz' := (Document.mem_matching.mp hz).1
    rw [(Document.eq_of_id_eq hd.nodup hz' hblock rfl).1]
  have hb := hplace x (by simp [hord]) (parent ++ [k]) b hx (h.blockAt?_after Nat.zero_lt_two)
  have hc := hplace y (by simp [hord]) (parent ++ [k + 1]) c hy (h.blockAt?_after Nat.one_lt_two)
  exact ⟨before, behind, by rw [hord, hb, hc]⟩

/-- The text block in front of the second of two neighbours that hold leaves is the first one. -/
theorem certain_mergeIntoPrevious (hd₀ : d₀.Regular) (hd : d.Regular)
    (h : d₀.Swapped (parent ++ [k]) a [.block b, .block c] d) (hb : Node.AreLeaves b.children)
    (hb' : b.children ≠ []) (hvoid : b.kind.isVoid = false) (hc : Node.AreLeaves c.children)
    (hc' : c.children ≠ []) :
    Certain (mergeIntoPrevious c.id) d fun e d' =>
      e = .goTo [b.id, c.id] ⟨b.id, Node.size b.children⟩ ∧
        d₀.Swapped (parent ++ [k]) a [.block { b with children := b.children ++ c.children }] d' := by
  obtain ⟨before, behind, hord⟩ := exists_matching_of_neighbours hd₀ hd h hb hb' hc hc'
  have hsplit : d.matching Block.isTextBlock =
      (before ++ [(parent ++ [k], b)]) ++ (parent ++ [k + 1], c) :: behind := by
    rw [hord]
    simp
  have hids := hd.nodup_matching
  rw [hsplit] at hids
  have hfind := Document.findIdx?_of_split hids
  rw [← hsplit, List.length_append, List.length_singleton] at hfind
  have hfirst : (d.matching Block.isTextBlock)[before.length]? = some (parent ++ [k], b) := by
    rw [hord]
    simp
  have hsecond : (d.matching Block.isTextBlock)[before.length + 1]? = some (parent ++ [k + 1], c) := by
    rw [hord]
    simp
  have hblock : d.blockAt? (parent ++ [k + 1]) = some c := h.blockAt?_after (i := 1) Nat.one_lt_two
  unfold mergeIntoPrevious
  refine .get ?_
  simp only [hfind, hfirst, hsecond, hvoid, hblock, if_neg Bool.false_ne_true, Option.map_some,
    Option.getD_some]
  exact certain_join_neighbours hd.nodup h _

end EditM

/-! ## There and back -/

namespace Document

variable {d d' : Document} {path : Path} {b : Block} {n : Nat} {cut rest : List Node}

/-- A block has been split: both halves stand in its place, in normal form and the second one with
a fresh identity, and the cursor is at the start of this. -/
structure Halved (d : Document) (path : Path) (b : Block) (cut rest : List Node) (d' : Document) :
    Prop where
  regular : d'.Regular
  swapped : d.Swapped path b [.block (⟨b.id, b.kind, cut⟩ : Block).normalize,
    .block (⟨d.nextId, b.kind.canonical, rest⟩ : Block).normalize] d'
  cursor : d'.CursorAt ⟨d.nextId, 0⟩

/-- Both halves of a block have come in its place, and the cursor goes to the start of the second. -/
theorem Swapped.halved_committed {d₁ : Document} (hd : d.Regular)
    (h : d.Swapped path b
      [.block ⟨b.id, b.kind, cut⟩, .block ⟨d.nextId, b.kind.canonical, rest⟩] d₁)
    (hids : d₁.ids.Nodup) (hcut : Node.AreLeaves cut) (hcut' : cut ≠ []) (hrest : Node.AreLeaves rest)
    (hrest' : rest ≠ []) :
    d.Halved path b cut rest (d₁.committed (some (.collapsed ⟨d.nextId, 0⟩))) := by
  let halves : List Node :=
    [.block ⟨b.id, b.kind, cut⟩, .block ⟨d.nextId, b.kind.canonical, rest⟩]
  have hblocks : Node.AreBlocks halves := Node.areBlocks_map_block [_, _]
  have hfilled : Node.Filled halves := by
    simp only [halves, Node.filled_block]
    exact ⟨⟨hcut', Node.everywhere_of_areLeaves hcut⟩, ⟨hrest', Node.everywhere_of_areLeaves hrest⟩,
      trivial⟩
  have huniform : Node.Uniform halves :=
    Node.uniform_append.mpr ⟨Node.uniform_of_areLeaves hcut, Node.uniform_of_areLeaves hrest⟩
  have hput := h.filled hd hblocks hfilled (List.cons_ne_nil _ _)
  have hnormal := h.normalize hd hblocks hfilled (List.cons_ne_nil _ _)
  have hregular := hput.regular_normalize (h.uniform hd.uniform huniform) hids
  refine ⟨hregular.of_children _ _, hnormal, cursorAt_committed ?_⟩
  obtain ⟨parent, front, back, rfl, -⟩ := id hnormal
  have hsecond := hnormal.blockAt?_after (i := 1) Nat.one_lt_two
  obtain ⟨hleaves, hne⟩ := Block.areLeaves_normalize (b := ⟨d.nextId, b.kind.canonical, rest⟩)
    (Node.areLeaves_iff.mp hrest) hrest'
  have htext := Node.areLeaves_iff.mp hleaves
  exact exists_resolve? hregular.nodup ⟨hsecond, Block.id_normalize _, Text.isBoundary_zero _⟩ htext
    ((hregular.isTextBlock_eq hsecond).symm.trans htext)

/-- A block that can be edited is split at the cursor. -/
theorem Ready.exists_splitBlock (hd : d.Ready) {p : Point}
    (hs : d.selection = some (.collapsed p)) (hp : d.Site p path b n)
    (hvoid : b.kind.isVoid = false) :
    ∃ q d' cut rest, d.apply .splitBlock = (.ok q, d') ∧
      Node.splitLeaves? b.children n = some (cut, rest) ∧ d.Halved path b cut rest d' := by
  have hin : BlockPoint.In ⟨b.id, n⟩ d path b := ⟨hp.blockAt?, rfl, hp.isBoundary⟩
  have hcollapsed : (Range.collapsed p).isCollapsed = true := decide_eq_true rfl
  have hedit : EditM.Certain (d.edit .splitBlock) d (EditM.SplitAt d ⟨b.id, n⟩ []) := by
    show EditM.Certain EditM.splitBlock d _
    unfold EditM.splitBlock
    refine .step (EditM.selectionPoint_eq hs hp.blockPoint_eq) ?_
    refine (EditM.certain_editable hd.regular.nodup hp.blockAt? hp.isTextBlock hvoid).bind ?_
    rintro c _ ⟨rfl, rfl⟩
    dsimp only
    rw [hcollapsed, if_pos rfl]
    exact .step (a := (⟨c.id, n⟩, [])) rfl
      (EditM.certain_splitAt hd.regular.nodup hin hp.isTextBlock [])
  obtain ⟨e, d₁, q, hsplit, happly⟩ := apply_of_certain rfl hedit
  rw [finished, if_neg hsplit.changed] at happly
  have hids := (hsplit.edited (G := True)).toNumbered.nodup_of_lt hd.regular.nodup hd.lt
  obtain ⟨path', b', cut, rest, hin', htext, hcut, rfl, hexchanged⟩ := hsplit
  obtain ⟨rfl, rfl⟩ := eq_of_id_eq hd.regular.nodup hp.blockAt? hin'.blockAt? hin'.id_eq.symm
  obtain ⟨hleaves, hleaves'⟩ := Node.areLeaves_splitLeaves? hp.areLeaves hp.ne_nil hp.isBoundary hcut
  exact ⟨q, _, cut, rest, happly, hcut,
    hexchanged.swapped.halved_committed hd.regular hids hleaves.1 hleaves.2 hleaves'.1 hleaves'.2⟩

/-- The leaves of the second half come behind those of the first one. -/
theorem Halved.certain_deleteBackward (h : d.Halved path b cut rest d') (hd : d.Regular)
    (hvoid : b.kind.isVoid = false) (hcut : Node.AreLeaves cut) (hcut' : cut ≠ [])
    (hrest : Node.AreLeaves rest) (hrest' : rest ≠ []) (unit : DeleteUnit) :
    EditM.Certain (d'.edit (.deleteBackward unit)) d' fun e d'' =>
      e = .goTo [b.id, d.nextId] ⟨b.id, Node.size (⟨b.id, b.kind, cut⟩ : Block).normalize.children⟩ ∧
        d.Swapped path b [.block { b with
          children := (⟨b.id, b.kind, cut⟩ : Block).normalize.children ++
            (⟨d.nextId, b.kind.canonical, rest⟩ : Block).normalize.children }] d'' := by
  obtain ⟨hregular, hswapped, q, hq, hpoint⟩ := h
  obtain ⟨parent, front, back, rfl, -⟩ := id hswapped
  have hcollapsed : (!(Range.collapsed q).isCollapsed) = false := by
    rw [Bool.not_eq_false', Range.isCollapsed]
    exact decide_eq_true rfl
  obtain ⟨hfirst, hfirst'⟩ := Block.areLeaves_normalize (b := ⟨b.id, b.kind, cut⟩)
    (Node.areLeaves_iff.mp hcut) hcut'
  obtain ⟨hsecond, hsecond'⟩ := Block.areLeaves_normalize (b := ⟨d.nextId, b.kind.canonical, rest⟩)
    (Node.areLeaves_iff.mp hrest) hrest'
  have hblock := hswapped.blockAt?_after (i := 1) Nat.one_lt_two
  have hmerge := EditM.certain_mergeIntoPrevious hd hregular hswapped hfirst hfirst'
    ((congrArg Kind.isVoid (Block.kind_normalize _)).trans hvoid) hsecond hsecond'
  have hedit := EditM.certain_editable hregular.nodup hblock (Node.areLeaves_iff.mp hsecond)
    ((congrArg Kind.isVoid (Block.kind_normalize _)).trans ((Kind.isVoid_canonical _).trans hvoid))
  rw [Block.id_normalize] at hmerge hedit
  simp only [Block.id_normalize, Block.kind_normalize] at hmerge
  show EditM.Certain (EditM.deleteBackward unit) d' _
  unfold EditM.deleteBackward
  refine .step (EditM.selectionPoint_eq hq hpoint) ?_
  dsimp only
  rw [hcollapsed, if_neg Bool.false_ne_true]
  refine hedit.bind ?_
  rintro c _ ⟨rfl, rfl⟩
  rw [if_neg (Nat.lt_irrefl 0)]
  exact hmerge

/-- Joining both halves of a settled block that is no list gives the block back. -/
theorem Halved.exists_deleteBackward (h : d.Halved path b cut rest d') (hd : d.Regular) {p : Point}
    (hp : d.Site p path b n) (hvoid : b.kind.isVoid = false) (hlist : b.kind.isList = false)
    (hsplit : Node.splitLeaves? b.children n = some (cut, rest)) (unit : DeleteUnit) :
    ∃ q d'', d'.apply (.deleteBackward unit) = (.ok q, d'') ∧ d''.children = d.children ∧
      d''.CursorAt ⟨b.id, n⟩ := by
  have hb := hd.settled_of_blockAt? hp.blockAt?
  obtain ⟨⟨hcut, hcut'⟩, hrest, hrest'⟩ :=
    Node.areLeaves_splitLeaves? hp.areLeaves hp.ne_nil hp.isBoundary hsplit
  obtain ⟨hfront, -, -⟩ := Node.marked_splitLeaves? hp.areLeaves hp.ne_nil hp.isBoundary hsplit
  obtain ⟨hfirst, hfirst'⟩ := Block.areLeaves_normalize (b := ⟨b.id, b.kind, cut⟩)
    (Node.areLeaves_iff.mp hcut) hcut'
  obtain ⟨hsecond, -⟩ := Block.areLeaves_normalize (b := ⟨d.nextId, b.kind.canonical, rest⟩)
    (Node.areLeaves_iff.mp hrest) hrest'
  have hsame := Block.normalize_rejoined hb hp.areLeaves hlist hp.isBoundary hsplit d.nextId
    ((Kind.isList_canonical b.kind).trans hlist)
  have hedit := h.certain_deleteBackward hd hvoid hcut hcut' hrest hrest' unit
  obtain ⟨e, d₁, q, ⟨rfl, hswapped⟩, happly⟩ := apply_of_certain rfl hedit
  rw [finished_goTo] at happly
  have hmarked := (Block.marked_normalize ⟨b.id, b.kind, cut⟩).trans hfront
  generalize (⟨b.id, b.kind, cut⟩ : Block).normalize.children = xs at *
  generalize (⟨d.nextId, b.kind.canonical, rest⟩ : Block).normalize.children = ys at *
  have hleaves : Node.AreLeaves (xs ++ ys) := Node.areLeaves_append.mpr ⟨hfirst, hsecond⟩
  have hsize : Node.size xs = n := by
    rw [← Node.bytes_ownText, ← Node.textOf_eq_ownText (Node.areLeaves_iff.mp hfirst),
      ← Node.map_fst_marked, hmarked, Node.bytes_take_marked hp.areLeaves hp.isBoundary]
  have hboundary : (Node.ownText (xs ++ ys)).isBoundary n = true := by
    rw [Node.ownText_append, ← hsize, ← Node.bytes_ownText]
    exact Text.isBoundary_iff.mpr ⟨_, _, rfl, rfl⟩
  -- All that was written since the split is in the children of the block.
  have hregular : Regular { d₁ with children := d.children } := ⟨hd.nodup, hd.uniform, hd.settled⟩
  have hreworked := hregular.reworked_setChildren hp.blockAt? hleaves
    (List.append_ne_nil_of_left_ne_nil hfirst' ys) hboundary
  have hd₁ : { d₁ with children := Node.setChildren d.children path (xs ++ ys) } = d₁ := by
    rw [← hswapped.eq_setChildren]
  rw [hsame, hd₁] at hreworked
  rw [hsize] at happly
  exact ⟨q, _, happly, hreworked.swapped.children_eq, hreworked.cursor.cursor⟩

/-- In a document whose tree is in order, with a cursor in a block that can be edited and is no list,
deleting backward after splitting the block brings the tree back, and the cursor is where it was in
its block. -/
theorem deleteBackward_splitBlock (hd : d.Ready) {p : Point}
    (hs : d.selection = some (.collapsed p)) (hblock : d.currentBlock? = some (path, b))
    (hvoid : b.kind.isVoid = false) (hlist : b.kind.isList = false) (unit : DeleteUnit) :
    ∃ q₁ d₁ q₂ d₂, d.apply .splitBlock = (.ok q₁, d₁) ∧
      d₁.apply (.deleteBackward unit) = (.ok q₂, d₂) ∧ d₂.children = d.children ∧
      ∃ x, d.CursorAt x ∧ d₂.CursorAt x := by
  obtain ⟨s, n, hs', hp⟩ := hd.exists_site hblock
  cases hs.symm.trans hs'
  obtain ⟨q₁, d₁, cut, rest, hsplit, hcut, hhalved⟩ := hd.exists_splitBlock hs hp hvoid
  obtain ⟨q₂, d₂, hdelete, hchildren, hcursor⟩ :=
    hhalved.exists_deleteBackward hd.regular hp hvoid hlist hcut unit
  exact ⟨q₁, d₁, q₂, d₂, hsplit, hdelete, hchildren, _, ⟨p, hs, hp.blockPoint_eq⟩, hcursor⟩

/-- An item of a list is split between a bold and a plain leaf, and then joined again. -/
theorem deleteBackward_splitBlock_item :
    let d := (ofBlocks [.ofKind .bulletList [.block (.ofText .listItem ['a']),
      .block (.ofKind .listItem [.leaf ⟨['é'], { bold := true }⟩, .leaf ⟨['b'], {}⟩])]]).run
        [.select (.collapsed ⟨[0, 1, 1], 0⟩)]
    ∃ q₁ d₁ q₂ d₂, d.apply .splitBlock = (.ok q₁, d₁) ∧
      d₁.apply (.deleteBackward .word) = (.ok q₂, d₂) ∧ d₂.children = d.children ∧
      d₂.CursorAt ⟨3, 2⟩ := by
  intro d
  have hsound : ∀ b ∈ [Block.ofKind .bulletList [.block (.ofText .listItem ['a']),
      .block (.ofKind .listItem [.leaf ⟨['é'], { bold := true }⟩, .leaf ⟨['b'], {}⟩])]],
      b.Everywhere Block.Sound := by
    rw [List.forall_mem_singleton]
    exact Block.everywhere_sound_ofKind _ (.inr (Node.areBlocks_map_block [_, _]))
      ⟨Block.everywhere_sound_ofText _ _,
        Block.everywhere_sound_ofKind _ (.inl (Node.areLeaves_iff.mpr rfl)) trivial, trivial⟩
  have hd : d.Ready := by
    refine ⟨regular_run hsound (List.forall_mem_singleton.mpr trivial), by decide, ?_⟩
    rintro _ ⟨⟩
    exact ⟨addresses_iff.mpr ⟨⟨3, 2⟩, by rfl⟩, addresses_iff.mpr ⟨⟨3, 2⟩, by rfl⟩⟩
  obtain ⟨q₁, d₁, q₂, d₂, hsplit, hdelete, hchildren, x, hx, hcursor⟩ :=
    deleteBackward_splitBlock hd rfl (by rfl) rfl rfl .word
  obtain ⟨p, hp, hpoint⟩ := hx
  cases hp
  cases hpoint.symm.trans (show d.blockPoint ⟨[0, 1, 1], 0⟩ = .ok ⟨3, 2⟩ by rfl)
  exact ⟨q₁, d₁, q₂, d₂, hsplit, hdelete, hchildren, hcursor⟩

end Document

end BlockNotes
