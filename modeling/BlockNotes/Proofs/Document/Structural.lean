import BlockNotes.Proofs.Document.Checked
import Mathlib.Data.List.InsertIdx

/-!
# Structural edits

The edits that move whole blocks.  Each of them puts new nodes in the place of
one block among its siblings: the block with another kind, a new block around
it, its children, the pieces of its parent, or nothing.  So each is checked in
the same way.  The guards come first and only look at the document.  From the
block that they find follow its parent and siblings, and with them the rest of
the edit is computed to the end: it says which nodes come in the place of which
block (`Document.Exchanged`).  Lifting is the longest case, as the parent may be
parted in four ways (`Block.Parted`).

What is left to show about the tree is then about the nodes that come in:
whether they are sound blocks, and which identities they bring
(`Document.Exchanged.edited`).
-/

namespace BlockNotes

open EditM

variable {G : Prop} {d : Document}

/-! ## In the place of one block -/

/-- Putting nodes in the place of a block among its siblings. -/
theorem Document.Edited.replace {parent : Path} {front new back : List Node} {b : Block}
    {next : BlockId}
    (hcs : Node.childrenAt? d.children parent = some (front ++ .block b :: back))
    (hnext : d.nextId ≤ next)
    (hcount : ∀ i, (Node.idsOf new).count i ≤ b.ids.count i + issued d.nextId next i)
    (hnew : G → b.Everywhere Block.Sound → Node.AreBlocks new ∧ Node.Everywhere Block.Sound new) :
    Document.Edited G d { d with
      children := Node.setChildren d.children parent (front ++ new ++ back), nextId := next } := by
  refine .put hcs hnext ?_ ?_
  · intro i
    have hi := hcount i
    rw [Node.idsOf_append, Node.idsOf_append, Node.idsOf_append, Node.idsOf]
    simp only [List.count_append]
    omega
  · intro hG hd
    have hold := hd.sound_of_childrenAt? hcs
    rw [Node.everywhere_append, Node.Everywhere] at hold
    obtain ⟨hblocks, hsound⟩ := hnew hG hold.2.1
    exact hd.replace hcs hblocks hsound

/-- Other nodes have come in the place of the block at a path, and identities up to the next one were
given out. -/
def Document.Exchanged (d : Document) (path : Path) (b : Block) (new : List Node) (next : BlockId)
    (d' : Document) : Prop :=
  ∃ parent front back, path = parent ++ [front.length] ∧
    Node.childrenAt? d.children parent = some (front ++ .block b :: back) ∧
    d' = { d with
      children := Node.setChildren d.children parent (front ++ new ++ back), nextId := next }

theorem Document.Exchanged.edited {path : Path} {b : Block} {new : List Node} {next : BlockId}
    {d' : Document} (h : d.Exchanged path b new next d') (hnext : d.nextId ≤ next)
    (hcount : ∀ i, (Node.idsOf new).count i ≤ b.ids.count i + issued d.nextId next i)
    (hnew : G → b.Everywhere Block.Sound → Node.AreBlocks new ∧ Node.Everywhere Block.Sound new) :
    Document.Edited G d d' := by
  obtain ⟨parent, front, back, -, hcs, rfl⟩ := h
  exact .replace hcs hnext hcount hnew

/-- Other children in a block are another block in its place. -/
theorem Document.Exchanged.setChildren {path : Path} {b : Block} (hb : d.blockAt? path = some b)
    (ns : List Node) : d.Exchanged path b [.block { b with children := ns }] d.nextId
      { d with children := Node.setChildren d.children path ns } := by
  obtain ⟨parent, front, back, rfl, hcs⟩ := Node.exists_siblings_of_blockAt? hb
  refine ⟨parent, front, back, rfl, hcs, ?_⟩
  rw [Node.setChildren_concat hcs, List.append_cons]

theorem Document.Edited.sublist {p : Path} {cs new : List Node}
    (hcs : Node.childrenAt? d.children p = some cs) (h : new.Sublist cs) :
    Document.Edited G d { d with children := Node.setChildren d.children p new } := by
  refine .put_same hcs (fun i => (Node.idsOf_sublist h).count_le i) ?_
  intro _ hd
  refine hd.setChildren hcs ((hd.sound_of_childrenAt? hcs).sublist h)
    ((hd.homogeneous_of_childrenAt? hcs).sublist h) ?_
  rintro rfl
  cases hcs
  exact fun n hn => hd.areBlocks n (h.subset hn)

namespace EditM

variable {path : Path} {b : Block}

/-! ## Kinds -/

theorem certain_setKind (hb : d.blockAt? path = some b) (kind : Kind) :
    Certain (setKind path kind) d fun e d' => e = .stay [b.id] ∧
      d.Exchanged path b [.block { b with kind := kind.canonical }] d.nextId d' := by
  obtain ⟨parent, front, back, rfl, hcs⟩ := Node.exists_siblings_of_blockAt? hb
  unfold setKind
  refine .get (.orRefuse hb (.modify (.pure ⟨rfl, parent, front, back, rfl, hcs, ?_⟩)))
  rw [Node.setBlock_concat hcs, List.append_cons]

/-- Changing a kind is refused if there is no block, or it exchanges the block. -/
theorem checked_setKind_exchanged (path : Path) (kind : Kind) :
    Checked (setKind path kind) d fun e d' => ∃ b, d.blockAt? path = some b ∧ e = .stay [b.id] ∧
      d.Exchanged path b [.block { b with kind := kind.canonical }] d.nextId d' := by
  cases hb : d.blockAt? path with
  | none =>
    unfold setKind
    exact .get (.orRefuse fun b hb' => by cases hb.symm.trans hb')
  | some b => exact ((certain_setKind hb kind).mono fun _ _ h => ⟨b, rfl, h⟩).checked

theorem checked_setKind (path : Path) (kind : Kind) :
    Checked (setKind path kind) d (Outcome G d) := by
  refine (checked_setKind_exchanged path kind).mono ?_
  rintro e d' ⟨b, -, rfl, hexchanged⟩
  refine .of_ne (hexchanged.edited (Nat.le_refl _) ?_ ?_) (List.cons_ne_nil _ _)
  · intro i
    rw [Block.ids_eq, Node.idsOf_block]
    simp
  · intro _ hb
    rw [Block.everywhere_iff] at hb
    refine ⟨Node.areBlocks_block, ?_⟩
    rw [Node.everywhere_block]
    exact ⟨⟨⟨Kind.isCanonical_canonical kind, hb.1.homogeneous⟩, hb.2⟩, trivial⟩

/-! ## Wrapping and unwrapping -/

theorem certain_wrapBlock (hb : d.blockAt? path = some b) (kind : Kind) :
    Certain (wrapBlock path kind) d fun e d' => e = .stay [d.nextId] ∧
      d.Exchanged path b [.block ⟨d.nextId, kind.canonical, [.block b]⟩] (d.nextId + 1) d' := by
  obtain ⟨parent, front, back, rfl, hcs⟩ := Node.exists_siblings_of_blockAt? hb
  unfold wrapBlock
  refine .get (.orRefuse hb (.splitPath (.issueId (.get (.orRefuse hcs ?_)))))
  refine .orLost (Node.removeAt?_append front back _) ?_
  exact .orLost (Node.splice?_insert front back _)
    (.putChildren (.pure ⟨rfl, parent, front, back, rfl, hcs, rfl⟩))

theorem checked_wrapBlock_exchanged (path : Path) (kind : Kind) :
    Checked (wrapBlock path kind) d fun e d' => ∃ b, d.blockAt? path = some b ∧
      e = .stay [d.nextId] ∧
      d.Exchanged path b [.block ⟨d.nextId, kind.canonical, [.block b]⟩] (d.nextId + 1) d' := by
  cases hb : d.blockAt? path with
  | none =>
    unfold wrapBlock
    exact .get (.orRefuse fun b hb' => by cases hb.symm.trans hb')
  | some b => exact ((certain_wrapBlock hb kind).mono fun _ _ h => ⟨b, rfl, h⟩).checked

theorem checked_wrapBlock (path : Path) (kind : Kind) :
    Checked (wrapBlock path kind) d (Outcome G d) := by
  refine (checked_wrapBlock_exchanged path kind).mono ?_
  rintro e d' ⟨b, -, rfl, hexchanged⟩
  refine .of_ne (hexchanged.edited (Nat.le_succ _) ?_ ?_) (List.cons_ne_nil _ _)
  · intro i
    rw [Node.idsOf_block, issued_succ]
    simp [Node.idsOf, List.count_cons]
  · intro _ hb
    refine ⟨Node.areBlocks_block, ?_⟩
    rw [Node.everywhere_block]
    exact ⟨⟨⟨Kind.isCanonical_canonical kind, .inr Node.areBlocks_block⟩, hb, trivial⟩, trivial⟩

theorem certain_unwrapBlock (hb : d.blockAt? path = some b) (hblocks : Node.AreBlocks b.children) :
    Certain (unwrapBlock path) d fun e d' => e = .stay [b.id] ∧
      d.Exchanged path b b.children d.nextId d' := by
  obtain ⟨parent, front, back, rfl, hcs⟩ := Node.exists_siblings_of_blockAt? hb
  have hleaf : ¬ b.children.any Node.isLeaf = true := by
    rw [List.any_eq_true]
    rintro ⟨n, hn, hleaf⟩
    cases (hblocks n hn).symm.trans hleaf
  unfold unwrapBlock
  refine .get (.orRefuse hb ?_)
  dsimp only
  rw [if_neg hleaf]
  refine .splitPath (.get (.orRefuse hcs (.orLost (Node.removeAt?_append front back _) ?_)))
  exact .orLost (Node.splice?_insert front back _)
    (.putChildren (.pure ⟨rfl, parent, front, back, rfl, hcs, rfl⟩))

/-- Unwrapping is refused if there is no block or it holds a leaf, or it exchanges the block for its
children. -/
theorem checked_unwrapBlock_exchanged (path : Path) :
    Checked (unwrapBlock path) d fun e d' => ∃ b, d.blockAt? path = some b ∧
      Node.AreBlocks b.children ∧ e = .stay [b.id] ∧
      d.Exchanged path b b.children d.nextId d' := by
  cases hb : d.blockAt? path with
  | none =>
    unfold unwrapBlock
    exact .get (.orRefuse fun b hb' => by cases hb.symm.trans hb')
  | some b =>
    by_cases hleaf : b.children.any Node.isLeaf = true
    · unfold unwrapBlock
      refine .get (.orRefuse ?_)
      intro b' hb'
      cases hb.symm.trans hb'
      dsimp only
      rw [if_pos hleaf]
      exact .refuse _
    · have hblocks : Node.AreBlocks b.children := by
        intro n hn
        cases n with
        | leaf l => exact absurd (List.any_eq_true.mpr ⟨_, hn, rfl⟩) hleaf
        | block c => rfl
      exact ((certain_unwrapBlock hb hblocks).mono fun _ _ h => ⟨b, rfl, hblocks, h⟩).checked

theorem checked_unwrapBlock (path : Path) : Checked (unwrapBlock path) d (Outcome G d) := by
  refine (checked_unwrapBlock_exchanged path).mono ?_
  rintro e d' ⟨b, -, hblocks, rfl, hexchanged⟩
  refine .of_ne (hexchanged.edited (Nat.le_refl _) ?_ ?_) (List.cons_ne_nil _ _)
  · intro i
    rw [Block.ids_eq, List.count_cons]
    omega
  · intro _ hb
    exact ⟨hblocks, (Block.everywhere_iff.mp hb).2⟩

/-! ## Lifting -/

/-- The last steps of lifting, when the parent already holds other children. -/
theorem certain_replaceParent {gp : Path} {front back nodes moved new : List Node} {parent : Block}
    {start stop : Nat} {next id : BlockId}
    (hcs : Node.childrenAt? d.children gp = some (front ++ .block parent :: back))
    (hsplice : Node.splice? (front ++ .block { parent with children := nodes } :: back) start stop
      moved = some (front ++ new ++ back)) :
    Certain
      (do
        let siblings ← orRefuse (Node.childrenAt? (← get).children gp) (.invalidPath gp)
        let siblings ← orLost (Node.splice? siblings start stop moved)
        putChildren gp siblings
        pure (Effect.stay [id]))
      { d with
        children := Node.setChildren d.children (gp ++ [front.length]) nodes, nextId := next }
      fun e d' => e = Effect.stay [id] ∧ d.Exchanged (gp ++ [front.length]) parent new next d' := by
  have hcs' := Node.childrenAt?_setChildren hcs
    (front ++ .block { parent with children := nodes } :: back)
  rw [← Node.setChildren_concat hcs] at hcs'
  refine .get (.orRefuse hcs' (.orLost hsplice (.putChildren (.pure
    ⟨rfl, gp, front, back, rfl, hcs, ?_⟩))))
  rw [Node.setChildren_concat hcs, Node.setChildren_setChildren hcs]

end EditM

/-- The pieces of a block that one of its children leaves.  A first child goes in front of it, and
the block goes away if there is nothing else in it.  A later child goes behind it, and so does a new
block with what stood after the child. -/
inductive Block.Parted (parent : Block) (front : List Node) (b : Block) (back : List Node)
    (fresh : BlockId) : List Node → BlockId → Prop where
  | only (hfront : front = []) (hback : back = []) : Parted parent front b back fresh [.block b] fresh
  | first (hfront : front = []) (hback : back ≠ []) : Parted parent front b back fresh
      [.block b, .block { parent with children := back }] fresh
  | last (hfront : front ≠ []) (hback : back = []) : Parted parent front b back fresh
      [.block { parent with children := front }, .block b] fresh
  | middle (hfront : front ≠ []) (hback : back ≠ []) : Parted parent front b back fresh
      [.block { parent with children := front }, .block b,
        .block ⟨fresh, parent.kind.canonical, back⟩] (fresh + 1)

/-- A block was moved out of its parent. -/
def Document.Lifted (d : Document) (path : Path) (b : Block) (d' : Document) : Prop :=
  ∃ parentPath parent front back new next, path = parentPath ++ [front.length] ∧
    parent.children = front ++ .block b :: back ∧ parent.Parted front b back d.nextId new next ∧
    d.Exchanged parentPath parent new next d'

namespace EditM

variable {path : Path} {b : Block}

theorem certain_liftBlock (hb : d.blockAt? path = some b) (hlen : ¬ path.length < 2) :
    Certain (liftBlock path) d fun e d' => e = .stay [b.id] ∧ d.Lifted path b d' := by
  obtain ⟨parentPath, front, back, rfl, hcs⟩ := Node.exists_siblings_of_blockAt? hb
  have hne : parentPath ≠ [] := by
    rintro rfl
    exact hlen (by simp)
  obtain ⟨⟨parentId, kind, _⟩, hparent, rfl⟩ := Node.exists_blockAt?_of_childrenAt? hcs hne
  obtain ⟨gp, gfront, gback, rfl, hgcs⟩ := Node.exists_siblings_of_blockAt? hparent
  unfold liftBlock
  refine .get (.orRefuse hb ?_)
  rw [if_neg hlen]
  refine .splitPath (.splitPath (.get (.orRefuse hparent ?_)))
  have htake : (front ++ .block b :: back).take (front.length + 1) = front ++ [.block b] := by
    rw [List.take_length_add_append]
    rfl
  have hdrop : (front ++ .block b :: back).drop (front.length + 1) = back := by
    rw [List.drop_length_add_append]
    rfl
  rw [if_neg (by simp)]
  dsimp only
  rw [htake, hdrop]
  refine .orLost (Node.removeAt?_append front [] _) ?_
  rw [List.append_nil]
  dsimp only
  -- What the parent was parted into tells where the block has gone.
  have hlifted : ∀ {new next e d'},
      Block.Parted ⟨parentId, kind, front ++ .block b :: back⟩ front b back d.nextId new next →
      (e = Effect.stay [b.id] ∧ d.Exchanged (gp ++ [gfront.length])
        ⟨parentId, kind, front ++ .block b :: back⟩ new next d') →
      e = Effect.stay [b.id] ∧ d.Lifted (gp ++ [gfront.length] ++ [front.length]) b d' :=
    fun hparted h => ⟨h.1, _, _, front, back, _, _, rfl, rfl, hparted, h.2⟩
  cases front with
  | nil =>
    rw [if_pos List.isEmpty_nil]
    refine .putChildren ?_
    cases back with
    | nil =>
      exact (certain_replaceParent hgcs (Node.splice?_replace gfront gback [.block b] _)).mono
        fun _ _ => hlifted (.only rfl rfl)
    | cons n back =>
      have hsplice : Node.splice? (gfront ++ .block ⟨parentId, kind, n :: back⟩ :: gback)
          gfront.length gfront.length [.block b] =
            some (gfront ++ [.block b, .block ⟨parentId, kind, n :: back⟩] ++ gback) := by
        simpa using Node.splice?_insert gfront _ [.block b]
      exact (certain_replaceParent hgcs hsplice).mono
        fun _ _ => hlifted (.first rfl (List.cons_ne_nil _ _))
  | cons m front =>
    rw [if_neg (by simp)]
    refine .putChildren ?_
    cases back with
    | nil =>
      rw [if_pos List.isEmpty_nil]
      exact (certain_replaceParent hgcs (Node.splice?_behind gfront gback [.block b] _)).mono
        fun _ _ => hlifted (.last (List.cons_ne_nil _ _) rfl)
    | cons n back =>
      rw [if_neg (by simp)]
      refine .issueId ?_
      exact (certain_replaceParent hgcs (Node.splice?_behind gfront gback _ _)).mono
        fun _ _ => hlifted (.middle (List.cons_ne_nil _ _) (List.cons_ne_nil _ _))

/-- Moving a block out of its parent keeps the tree in shape and gives out at most one identity. -/
theorem edited_of_lifted {d' : Document} (h : d.Lifted path b d') : Document.Edited G d d' := by
  obtain ⟨parentPath, ⟨id, kind, _⟩, front, back, new, next, -, rfl, hparted, hexchanged⟩ := h
  cases hparted with
  | only hfront hback =>
    refine hexchanged.edited (Nat.le_refl _) ?_ ?_
    · intro i
      simp only [hfront, hback, List.nil_append, Node.idsOf_block, Block.ids_eq, List.count_cons]
      omega
    · intro _ hp
      exact ⟨Node.areBlocks_block, (Block.everywhere_sound_pieces hp).2.1, trivial⟩
  | first hfront hback =>
    refine hexchanged.edited (Nat.le_refl _) ?_ ?_
    · intro i
      simp only [hfront, List.nil_append, Node.idsOf_block, Node.idsOf_nil, Block.ids_eq,
        List.count_cons, List.count_append, List.count_nil]
      omega
    · intro _ hp
      obtain ⟨-, hb, hback⟩ := Block.everywhere_sound_pieces hp
      exact ⟨Node.areBlocks_map_block [b, ⟨id, kind, back⟩], hb, hback id, trivial⟩
  | last hfront hback =>
    refine hexchanged.edited (Nat.le_refl _) ?_ ?_
    · intro i
      simp only [Node.idsOf_block, Node.idsOf_nil, Node.idsOf_append, Block.ids_eq,
        List.count_cons, List.count_append, List.count_nil]
      omega
    · intro _ hp
      obtain ⟨hfront, hb, -⟩ := Block.everywhere_sound_pieces hp
      exact ⟨Node.areBlocks_map_block [⟨id, kind, front⟩, b], hfront id, hb, trivial⟩
  | middle hfront hback =>
    refine hexchanged.edited (Nat.le_succ _) ?_ ?_
    · intro i
      simp only [Node.idsOf_block, Node.idsOf_nil, Node.idsOf_append, Block.ids_eq,
        List.count_cons, List.count_append, List.count_nil, issued_succ]
      omega
    · intro _ hp
      obtain ⟨hfront, hb, hback⟩ := Block.everywhere_sound_pieces hp
      have htail : Block.Everywhere Block.Sound ⟨d.nextId, kind.canonical, back⟩ := by
        rw [Kind.canonical_of_isCanonical hp.1.canonical]
        exact hback d.nextId
      exact ⟨Node.areBlocks_map_block [⟨id, kind, front⟩, b, ⟨d.nextId, kind.canonical, back⟩],
        hfront id, hb, htail, trivial⟩

/-- Lifting is refused if there is no block or it is at the root. -/
theorem checked_liftBlock_lifted (path : Path) :
    Checked (liftBlock path) d fun e d' => ∃ b, d.blockAt? path = some b ∧ e = .stay [b.id] ∧
      d.Lifted path b d' := by
  cases hb : d.blockAt? path with
  | none =>
    unfold liftBlock
    exact .get (.orRefuse fun b hb' => by cases hb.symm.trans hb')
  | some b =>
    by_cases hlen : path.length < 2
    · unfold liftBlock
      refine .get (.orRefuse ?_)
      intro b' _
      rw [if_pos hlen]
      exact .refuse _
    · exact ((certain_liftBlock hb hlen).mono fun _ _ h => ⟨b, rfl, h⟩).checked

theorem checked_liftBlock (path : Path) : Checked (liftBlock path) d (Outcome G d) := by
  refine (checked_liftBlock_lifted path).mono ?_
  rintro e d' ⟨b, -, rfl, hlifted⟩
  exact .of_ne (edited_of_lifted hlifted) (List.cons_ne_nil _ _)

/-! ## Inserting -/

end EditM

/-- A block can be inserted at a path: in front of it are that many children of its parent, which is
the root or holds only blocks. -/
def Document.Insertable (d : Document) (path : Path) : Prop :=
  ∃ parent front back, path = parent ++ [front.length] ∧
    Node.childrenAt? d.children parent = some (front ++ back) ∧
    (parent = [] ∨ Node.AreBlocks (front ++ back))

/-- A block was put between others with fresh identities. -/
def Document.PutIn (d : Document) (path : Path) (block : Block) (d' : Document) : Prop :=
  ∃ parent front back, path = parent ++ [front.length] ∧
    Node.childrenAt? d.children parent = some (front ++ back) ∧
    (parent = [] ∨ Node.AreBlocks (front ++ back)) ∧
    d' = { d with
      children := Node.setChildren d.children parent
        (front ++ .block (block.adopt d.nextId).1 :: back)
      nextId := (block.adopt d.nextId).2 }

namespace EditM

/-- Where a block can be inserted, it is. -/
theorem certain_insertBlock {path : Path} (h : d.Insertable path) (block : Block) :
    Certain (insertBlock path block) d fun e d' =>
      e = .stay [(block.adopt d.nextId).1.id] ∧ d.PutIn path block d' := by
  obtain ⟨parent, front, back, rfl, hcs, hblocks⟩ := h
  have hlt : ¬ (front ++ back).length < front.length := by simp
  have hsplice : Node.splice? (front ++ back) front.length front.length
      [.block (block.adopt d.nextId).1] =
        some (front ++ .block (block.adopt d.nextId).1 :: back) := by
    rw [List.append_cons]
    exact Node.splice?_insert front back _
  unfold insertBlock
  refine .splitPath (.get ?_)
  dsimp only
  split
  next container hparent =>
    have hleaf : ¬ container.children.any Node.isLeaf = true := by
      have hchildren := Option.some.inj ((Node.childrenAt?_of_blockAt? hparent).symm.trans hcs)
      rw [hchildren, List.any_eq_true]
      rintro ⟨n, hn, hleaf⟩
      rcases hblocks with rfl | hblocks
      · cases hparent
      · cases (hblocks n hn).symm.trans hleaf
    rw [if_neg hleaf]
    refine .orRefuse hcs ?_
    rw [if_neg hlt]
    exact .modify (.orLost hsplice (.putChildren (.pure
      ⟨rfl, parent, front, back, rfl, hcs, hblocks, rfl⟩)))
  next =>
    refine .orRefuse hcs ?_
    rw [if_neg hlt]
    exact .modify (.orLost hsplice (.putChildren (.pure
      ⟨rfl, parent, front, back, rfl, hcs, hblocks, rfl⟩)))

/-- Inserting is refused elsewhere. -/
theorem checked_insertBlock_putIn (path : Path) (block : Block) :
    Checked (insertBlock path block) d fun e d' =>
      e = .stay [(block.adopt d.nextId).1.id] ∧ d.PutIn path block d' := by
  by_cases h : d.Insertable path
  · exact (certain_insertBlock h block).checked
  · unfold insertBlock
    refine .splitPath ?_
    rintro parent index rfl
    have hshort : ∀ cs, Node.childrenAt? d.children parent = some cs →
        (parent = [] ∨ Node.AreBlocks cs) → cs.length < index := by
      intro cs hcs hblocks
      by_contra hlong
      have hlength : (cs.take index).length = index := List.length_take_of_le (by omega)
      refine h ⟨parent, cs.take index, cs.drop index, by rw [hlength], ?_⟩
      rw [List.take_append_drop]
      exact ⟨hcs, hblocks⟩
    refine .get ?_
    dsimp only
    split
    next container hparent =>
      split
      next => exact .refuse _
      next hleaf =>
        refine .orRefuse ?_
        intro cs hcs
        have hblocks : Node.AreBlocks cs := by
          cases (Node.childrenAt?_of_blockAt? hparent).symm.trans hcs
          intro n hn
          cases n with
          | leaf l => exact absurd (List.any_eq_true.mpr ⟨_, hn, rfl⟩) hleaf
          | block c => rfl
        rw [if_pos (hshort cs hcs (.inr hblocks))]
        exact .refuse _
    next hparent =>
      refine .orRefuse ?_
      intro cs hcs
      have hroot : parent = [] := by
        by_contra hne
        obtain ⟨c, hc, -⟩ := Node.exists_blockAt?_of_childrenAt? hcs hne
        cases hparent.symm.trans hc
      rw [if_pos (hshort cs hcs (.inl hroot))]
      exact .refuse _

/-- An inserted block gets identities of its own; its shape is that of the block from outside. -/
theorem checked_insertBlock (path : Path) (block : Block) :
    Checked (insertBlock path block) d (Outcome (block.Everywhere Block.Sound) d) := by
  refine (checked_insertBlock_putIn path block).mono ?_
  rintro e _ ⟨rfl, parent, front, back, rfl, hcs, hroot, rfl⟩
  refine .of_ne (.put hcs (Block.count_ids_adopt 0 block d.nextId).1 ?_ ?_) (List.cons_ne_nil _ _)
  · intro i
    have hfresh := (Block.count_ids_adopt i block d.nextId).2
    simp only [Node.idsOf_append, Node.idsOf_block, List.count_append, List.count_cons,
      Block.ids_eq] at hfresh ⊢
    omega
  · intro hG hd
    have hblocks : Node.AreBlocks (front ++ back) := by
      rcases hroot with rfl | hblocks
      · have hchildren : d.children = front ++ back := Option.some.inj hcs
        exact hchildren ▸ hd.areBlocks
      · exact hblocks
    have hall : Node.AreBlocks (front ++ .block (block.adopt d.nextId).1 :: back) :=
      Node.areBlocks_insert.mpr hblocks
    refine hd.setChildren hcs ?_ (.inr hall) fun _ => hall
    have hsound := hd.sound_of_childrenAt? hcs
    rw [Node.everywhere_append] at hsound
    rw [Node.everywhere_append, Node.everywhere_block]
    exact ⟨hsound.1, Block.everywhere_iff.mp (Block.everywhere_sound_adopt block _ hG), hsound.2⟩

/-! ## Removing -/

/-- What removing the nodes at paths leaves behind.  Paths to the left of all of them do not
notice. -/
structure Removed (G : Prop) (paths : List Path) (d d' : Document) : Prop where
  edited : Document.Edited G d d'
  nextId : d'.nextId = d.nextId
  /-- What stands to the left is as before. -/
  left : ∀ q, (∀ path ∈ paths, Path.Before q path) → d'.blockAt? q = d.blockAt? q

theorem Removed.refl (paths : List Path) : Removed G paths d d :=
  ⟨.refl d, rfl, fun _ _ => rfl⟩

theorem Removed.trans {paths paths' : List Path} {d' d'' : Document} (h : Removed G paths d d')
    (h' : Removed G paths' d' d'') : Removed G (paths ++ paths') d d'' := by
  refine ⟨h.edited.trans h'.edited, h'.nextId.trans h.nextId, ?_⟩
  intro q hq
  rw [List.forall_mem_append] at hq
  exact (h'.left q hq.2).trans (h.left q hq.1)

theorem certain_removeNode (path : Path) :
    Certain (removeNode path) d fun _ => Removed G [path] d := by
  unfold removeNode
  refine .get ?_
  split
  next => exact .pure (.refl _)
  next parent index hpath =>
    cases Path.eq_concat_of_split? hpath
    split
    next => exact .pure (.refl _)
    next cs hcs =>
      split
      next =>
        refine ⟨⟨⟩, _, rfl, .sublist hcs (List.eraseIdx_sublist cs index), rfl, ?_⟩
        intro q hq
        exact Node.blockAt?_setChildren_of_before hcs (hq _ List.mem_cons_self)
          (List.take_eraseIdx_eq_take_of_le cs index index (Nat.le_refl _))
      next => exact .pure (.refl _)

/-- Removing one node after another. -/
theorem certain_removeNodes (xs : List (Path × Block)) :
    Certain (xs.forM fun (path, _) => removeNode path) d fun _ =>
      Removed G (xs.map Prod.fst) d := by
  induction xs generalizing d with
  | nil => exact .pure (.refl _)
  | cons x xs ih =>
    have hfirst : Certain (removeNode x.1) d fun _ => Removed G [x.1] d := certain_removeNode x.1
    show Certain (removeNode x.1 >>= fun _ => xs.forM fun (path, _) => removeNode path) d _
    refine hfirst.bind ?_
    intro _ d' hd'
    exact ih.mono fun _ d'' hd'' => hd'.trans hd''

theorem checked_removeBlock (path : Path) (saved : Option BlockRange) :
    Checked (removeBlock path saved) d (Outcome G d) := by
  unfold removeBlock
  refine .get (.orRefuse ?_)
  intro b hb
  have hremoved : Certain (removeNode path) d fun _ => Removed G [path] d := certain_removeNode path
  refine Certain.checked (hremoved.bind ?_)
  intro _ d' hd'
  split
  next => exact .pure (.of_ne hd'.edited (List.cons_ne_nil _ _))
  next => exact .pure (.of_ne hd'.edited (List.cons_ne_nil _ _))

end EditM

end BlockNotes
