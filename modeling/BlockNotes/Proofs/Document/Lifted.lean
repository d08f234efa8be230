import BlockNotes.Proofs.Document.Descent

/-!
# Leaving a list

What is known of a block that was moved out of a list.  The list may come apart into two, and
then there is one more.  Apart from that the document weighs no more than before
(`Document.Lifted.weigh_le`), and if it was in normal form it still is
(`Document.Lifted.settled`).

The block is found again by its identity (`Document.Lifted.exists_findPath?`).  This does
not take for granted that the identity of the new list is fresh.  The search goes through the
tree from its start and meets the block first, as the new list comes behind it.
-/

namespace BlockNotes

/-! ## In the place of a block -/

namespace Node

/-- Where settled nodes are put with a block among them, the tree stays settled. -/
theorem Focus.everywhere_settled_put {ns : List Node} {p : Path} {cs : List Node}
    {put : List Node → List Node} (h : Focus ns p cs put) (hns : Everywhere Block.Settled ns)
    {new : List Node} (hnew : Everywhere Block.Settled new) (hblock : ∃ n ∈ new, n.isLeaf = false) :
    Everywhere Block.Settled (put new) ∧ ∃ n ∈ put new, n.isLeaf = false := by
  induction h with
  | here ns => exact ⟨hnew, hblock⟩
  | step front back b below ih =>
    rw [everywhere_append, everywhere_block] at hns
    obtain ⟨hfront, ⟨-, hchildren⟩, hback⟩ := hns
    obtain ⟨hput, n, hn, hleaf⟩ := ih hchildren
    refine ⟨?_, _, List.mem_append_right _ List.mem_cons_self, rfl⟩
    rw [everywhere_append, everywhere_block]
    refine ⟨hfront, ⟨⟨List.ne_nil_of_mem hn, ?_⟩, hput⟩, hback⟩
    -- With a block below it the leaves of a block do not matter.
    intro _ htext
    have := List.all_eq_true.mp htext n hn
    rw [hleaf] at this
    cases this

/-! ## The walk -/

theorem walkFrom_append (parent : Path) (k : Nat) (ns ms : List Node) :
    walkFrom parent k (ns ++ ms) = walkFrom parent k ns ++ walkFrom parent (k + ns.length) ms := by
  induction ns generalizing k with
  | nil => rfl
  | cons n ns ih =>
    have hk : k + 1 + ns.length = k + (ns.length + 1) := by omega
    cases n with
    | leaf l => rw [List.cons_append, walkFrom, walkFrom, ih, List.length_cons, hk]
    | block b =>
      rw [List.cons_append, walkFrom, walkFrom, ih, List.length_cons, hk, List.append_assoc]

theorem walkFrom_block (parent : Path) (k : Nat) (b : Block) (ns : List Node) :
    walkFrom parent k (.block b :: ns) =
      (parent ++ [k], b) ::
        (walkFrom (parent ++ [k]) 0 b.children ++ walkFrom parent (k + 1) ns) := by
  cases b
  rw [walkFrom, Block.walk, List.cons_append]

theorem find?_walkFrom_eq_none {ns : List Node} {id : BlockId} (h : id ∉ idsOf ns) (parent : Path)
    (k : Nat) : (walkFrom parent k ns).find? (fun x => x.2.id == id) = none := by
  rw [List.find?_eq_none]
  rintro x hx
  rw [beq_iff_eq]
  rintro rfl
  rw [← map_id_walkFrom parent k ns] at h
  exact h (List.mem_map_of_mem hx)

/-- The walk over a tree comes to a place behind blocks of the same identities, whatever is put
there. -/
theorem Focus.exists_walkFrom_put {ns : List Node} {p : Path} {cs : List Node}
    {put : List Node → List Node} (h : Focus ns p cs put) (parent : Path) :
    ∃ xs ys, idsOf ns = xs ++ idsOf cs ++ ys ∧ ∀ new, ∃ above below,
      walkFrom parent 0 (put new) = above ++ walkFrom (parent ++ p) 0 new ++ below ∧
        above.map (fun x => x.2.id) = xs := by
  induction h generalizing parent with
  | here ns => exact ⟨[], [], by simp, fun new => ⟨[], [], by simp, rfl⟩⟩
  | @step front back b p cs put below ih =>
    obtain ⟨xs, ys, hids, hwalk⟩ := ih (parent ++ [front.length])
    refine ⟨idsOf front ++ b.id :: xs, ys ++ idsOf back, ?_, ?_⟩
    · rw [idsOf_append, idsOf_block, hids]
      simp
    · intro new
      obtain ⟨above, rest, hnew, habove⟩ := hwalk new
      refine ⟨walkFrom parent 0 front ++
        (parent ++ [front.length], { b with children := put new }) :: above,
        rest ++ walkFrom parent (front.length + 1) back, ?_, ?_⟩
      · rw [walkFrom_append, Nat.zero_add, walkFrom_block, hnew]
        simp
      · rw [List.map_append, List.map_cons, map_id_walkFrom, habove]

end Node

namespace Document

variable {d d' : Document} {path : Path} {b : Block} {new : List Node} {next : BlockId}

/-- Where identities are distinct, they are distinct in every block. -/
theorem nodup_ids_of_blockAt? (hd : d.ids.Nodup) (hb : d.blockAt? path = some b) : b.ids.Nodup := by
  obtain ⟨parent, front, back, -, hcs⟩ := Node.exists_siblings_of_blockAt? hb
  rw [List.nodup_iff_count_le_one] at hd ⊢
  intro i
  have hcount := Node.count_idsOf_setChildren hcs [] i
  have hi := hd i
  rw [ids] at hi
  rw [Block.ids_eq]
  simp only [Node.idsOf_append, Node.idsOf_block, Node.idsOf_nil, List.count_append,
    List.count_cons, List.count_nil] at hcount ⊢
  omega

theorem Exchanged.blockAt? (h : d.Exchanged path b new next d') : d.blockAt? path = some b := by
  obtain ⟨parent, front, back, rfl, hcs, -⟩ := h
  exact Node.blockAt?_of_childrenAt? hcs

theorem Exchanged.settled (h : d.Exchanged path b new next d') (hd : d.Settled) (hne : new ≠ [])
    (hblocks : Node.AreBlocks new) (hnew : Node.Everywhere Block.Settled new) : d'.Settled := by
  have hroot := h.areBlocks hd.areBlocks hblocks
  obtain ⟨parent, front, back, -, hcs, rfl⟩ := h
  have hfocus := Node.focus_setChildren hcs
  have hold := hfocus.everywhere_children hd.blocks
  rw [Node.everywhere_append, Node.everywhere_block] at hold
  have hsiblings : Node.Everywhere Block.Settled (front ++ new ++ back) := by
    simp only [Node.everywhere_append]
    exact ⟨⟨hold.1, hnew⟩, hold.2.2⟩
  obtain ⟨n, hn⟩ := List.exists_mem_of_ne_nil new hne
  obtain ⟨hsettled, m, hm, -⟩ :=
    hfocus.everywhere_settled_put hd.blocks hsiblings ⟨n, by simp [hn], hblocks n hn⟩
  exact ⟨List.ne_nil_of_mem hm, hroot, hsettled⟩

/-- Of the blocks with an identity from below a block, the first one is the first one among the
nodes that come in its place. -/
theorem Exchanged.find?_walk (h : d.Exchanged path b new next d') (hd : d.ids.Nodup) {id : BlockId}
    (hid : id ∈ b.ids) : ∃ parent k, ∀ x,
      (Node.walkFrom parent k new).find? (fun y => y.2.id == id) = some x →
        d'.walk.find? (fun y => y.2.id == id) = some x := by
  obtain ⟨parent, front, back, -, hcs, rfl⟩ := h
  obtain ⟨xs, ys, hids, hwalk⟩ := (Node.focus_setChildren hcs).exists_walkFrom_put []
  obtain ⟨above, below, hnew, habove⟩ := hwalk (front ++ new ++ back)
  have hdistinct : id ∉ xs ∧ id ∉ Node.idsOf front := by
    rw [ids, hids, Node.idsOf_append, Node.idsOf] at hd
    simp only [List.append_assoc, List.nodup_append, List.mem_append] at hd
    exact ⟨fun hx => hd.2.2 id hx id (.inr (.inl hid)) rfl,
      fun hx => hd.2.1.2.2 id hx id (.inl hid) rfl⟩
  have hskip : above.find? (fun y => y.2.id == id) = none := by
    rw [List.find?_eq_none]
    intro x hx
    rw [beq_iff_eq]
    rintro rfl
    exact hdistinct.1 (habove ▸ List.mem_map_of_mem hx)
  refine ⟨parent, front.length, ?_⟩
  intro x hx
  rw [walk]
  dsimp only
  rw [hnew, List.nil_append, Node.walkFrom_append, Node.walkFrom_append, Nat.zero_add]
  simp only [List.find?_append, hskip, Node.find?_walkFrom_eq_none hdistinct.2, hx, Option.none_or,
    Option.some_or]

end Document

/-! ## The pieces of a list -/

theorem Kind.canonical_of_isList {kind : Kind} (h : kind.isList = true) :
    kind.canonical = kind := by
  cases kind <;> first | rfl | cases h

namespace Block.Parted

variable {parent : Block} {front : List Node} {b : Block} {back : List Node} {fresh : BlockId}
  {new : List Node} {next : BlockId}

/-- The pieces of a list weigh no more than the list, if lists weigh nothing. -/
theorem weigh_le (h : parent.Parted front b back fresh new next)
    (hchildren : parent.children = front ++ .block b :: back) (hlist : parent.kind.isList = true)
    {s : Scale} (hs : s.block parent.kind = 0) : Node.weigh s new ≤ parent.weigh s := by
  rw [Block.weigh_eq, hchildren, Node.weigh_append, Node.weigh_block, hs]
  cases h with
  | only hfront hback => simp [hfront, hback]
  | first hfront hback => simp [hfront, hs]
  | last hfront hback => simp [hback, hs]
  | middle hfront hback =>
    simp only [Node.weigh_block, Node.weigh_nil, Kind.canonical_of_isList hlist, hs]
    omega

/-- The pieces of a settled list are settled. -/
theorem settled (h : parent.Parted front b back fresh new next)
    (hchildren : parent.children = front ++ .block b :: back) (hlist : parent.kind.isList = true)
    (hsettled : Node.Everywhere Block.Settled parent.children) :
    new ≠ [] ∧ Node.AreBlocks new ∧ Node.Everywhere Block.Settled new := by
  rw [hchildren, Node.everywhere_append, Node.everywhere_block] at hsettled
  obtain ⟨hfront, hb, hback⟩ := hsettled
  have hpiece : ∀ (id : BlockId) (ns : List Node), ns ≠ [] →
      Block.Settled ⟨id, parent.kind, ns⟩ :=
    fun id ns hne => ⟨hne, fun hno => absurd hlist (by rw [hno]; exact Bool.false_ne_true)⟩
  cases h with
  | only => exact ⟨List.cons_ne_nil _ _, Node.areBlocks_map_block [b], by simp [hb]⟩
  | first _ hne =>
    have hblocks := Node.areBlocks_map_block [b, { parent with children := back }]
    refine ⟨List.cons_ne_nil _ _, hblocks, ?_⟩
    simp [hb, hback, hpiece _ _ hne]
  | last hne _ =>
    have hblocks := Node.areBlocks_map_block [{ parent with children := front }, b]
    refine ⟨List.cons_ne_nil _ _, hblocks, ?_⟩
    simp [hb, hfront, hpiece _ _ hne]
  | middle hne hne' =>
    refine ⟨List.cons_ne_nil _ _, Node.areBlocks_map_block
      [{ parent with children := front }, b, ⟨fresh, parent.kind.canonical, back⟩], ?_⟩
    simp [hb, hfront, hback, hpiece _ _ hne, hpiece _ _ hne', Kind.canonical_of_isList hlist]

/-- Of the pieces the block that leaves is the first one with its identity. -/
theorem exists_find? (h : parent.Parted front b back fresh new next)
    (hid : b.id ≠ parent.id) (hfront : b.id ∉ Node.idsOf front) (above : Path) (k : Nat) :
    ∃ q, (Node.walkFrom above k new).find? (fun x => x.2.id == b.id) = some (q, b) := by
  have hskip : ∀ rest, (Node.walkFrom above k (.block { parent with children := front } ::
      .block b :: rest)).find? (fun x => x.2.id == b.id) = some (above ++ [k + 1], b) := by
    intro rest
    rw [Node.walkFrom_block, List.find?_cons_of_neg (by simpa using hid.symm), List.find?_append,
      Node.find?_walkFrom_eq_none hfront, Option.none_or, Node.walkFrom_block,
      List.find?_cons_of_pos (by simp)]
  cases h with
  | only => exact ⟨_, by rw [Node.walkFrom_block, List.find?_cons_of_pos (by simp)]⟩
  | first => exact ⟨_, by rw [Node.walkFrom_block, List.find?_cons_of_pos (by simp)]⟩
  | last => exact ⟨_, hskip []⟩
  | middle => exact ⟨_, hskip _⟩

end Block.Parted

namespace Document

variable {d d' : Document} {parentPath : Path} {i : Nat} {parent b : Block}

/-- The parent of a block that was moved out of it was parted. -/
theorem Lifted.exists_parted (h : d.Lifted (parentPath ++ [i]) b d')
    (hparent : d.blockAt? parentPath = some parent) :
    ∃ front back new next, parent.children = front ++ .block b :: back ∧
      parent.Parted front b back d.nextId new next ∧ d.Exchanged parentPath parent new next d' := by
  obtain ⟨parentPath', parent', front, back, new, next, hpath, hchildren, hparted, hexchanged⟩ := h
  obtain ⟨rfl, -⟩ := List.append_inj' hpath rfl
  obtain rfl := Option.some.inj (hexchanged.blockAt?.symm.trans hparent)
  exact ⟨front, back, new, next, hchildren, hparted, hexchanged⟩

/-- A block that leaves a list makes nothing heavier but lists. -/
theorem Lifted.weigh_le (h : d.Lifted (parentPath ++ [i]) b d')
    (hparent : d.blockAt? parentPath = some parent) (hlist : parent.kind.isList = true) {s : Scale}
    (hs : s.block parent.kind = 0) : d'.weigh s ≤ d.weigh s := by
  obtain ⟨front, back, new, next, hchildren, hparted, hexchanged⟩ := h.exists_parted hparent
  have hadd := hexchanged.weigh_add s
  have hle := hparted.weigh_le hchildren hlist hs
  omega

/-- A block that leaves a list leaves a settled tree settled. -/
theorem Lifted.settled (h : d.Lifted (parentPath ++ [i]) b d')
    (hparent : d.blockAt? parentPath = some parent) (hlist : parent.kind.isList = true)
    (hd : d.Settled) : d'.Settled := by
  obtain ⟨front, back, new, next, hchildren, hparted, hexchanged⟩ := h.exists_parted hparent
  have hbelow := (Node.focus_setChildren
    (Node.childrenAt?_of_blockAt? hparent)).everywhere_children hd.blocks
  obtain ⟨hne, hblocks, hsettled⟩ := hparted.settled hchildren hlist hbelow
  exact hexchanged.settled hd hne hblocks hsettled

/-- A block that has left its parent is found again. -/
theorem Lifted.exists_findPath? (h : d.Lifted (parentPath ++ [i]) b d')
    (hparent : d.blockAt? parentPath = some parent) (hd : d.ids.Nodup) :
    ∃ q, d'.findPath? b.id = some q ∧ d'.blockAt? q = some b := by
  obtain ⟨front, back, new, next, hchildren, hparted, hexchanged⟩ := h.exists_parted hparent
  have hids := nodup_ids_of_blockAt? hd hparent
  rw [Block.ids_eq, hchildren, Node.idsOf_append, Node.idsOf_block] at hids
  simp only [List.nodup_cons, List.nodup_append, List.mem_append, List.mem_cons, not_or] at hids
  have hid : b.id ≠ parent.id := fun h => hids.1.2.1 h.symm
  have hfront : b.id ∉ Node.idsOf front := fun h => hids.2.2.2 _ h _ (.inl rfl) rfl
  have hmem : b.id ∈ parent.ids := by
    rw [Block.ids_eq, hchildren, Node.idsOf_append, Node.idsOf_block]
    simp
  obtain ⟨above, k, hwalk⟩ := hexchanged.find?_walk hd hmem
  obtain ⟨q, hq⟩ := hparted.exists_find? hid hfront above k
  have hfound := hwalk _ hq
  refine ⟨q, ?_, mem_walk.mp (List.mem_of_find?_eq_some hfound)⟩
  rw [findPath?, hfound, Option.map_some]

/-- A block that was moved out of a list, in a document that is in normal form. -/
structure Freed (d : Document) (b : Block) (d' : Document) : Prop where
  /-- It is found again, and it is as it was. -/
  found : ∃ q, d'.findPath? b.id = some q ∧ d'.blockAt? q = some b
  bytes_le : d'.weigh .bytes ≤ d.weigh .bytes
  /-- At most a list was added. -/
  styled_le : d'.weigh .styled ≤ d.weigh .styled

/-- Moving a block out of a list is refused or frees it. -/
theorem apply_liftBlock_cases (hd : d.ids.Nodup) (hb : d.blockAt? (parentPath ++ [i]) = some b)
    (hparent : d.blockAt? parentPath = some parent) (hlist : parent.kind.isList = true) :
    (∃ e, d.apply (.liftBlock (parentPath ++ [i])) = (.error (.refused e), d)) ∨
      ∃ p d', d.apply (.liftBlock (parentPath ++ [i])) = (.ok p, d') ∧ d'.Settled ∧
        (d.Settled → d.Freed b d') := by
  rcases apply_cases (d := d) (c := .liftBlock (parentPath ++ [i])) rfl
    (EditM.checked_liftBlock_lifted _) with h | ⟨e, d₁, p, ⟨b', hb', rfl, hlifted⟩, h⟩
  · exact .inl h
  · cases hb.symm.trans hb'
    rw [finished_stay] at h
    refine .inr ⟨p, _, h, settled_committed d₁ _, ?_⟩
    intro hsettled
    -- The tree is in normal form as it is, so the block is still where it was put.
    have hsame : d₁.normalize = d₁ := (hlifted.settled hparent hlist hsettled).normalize_eq
    have hweigh : ∀ s place, (d₁.committed place).weigh s = d₁.weigh s := by
      intro s place
      rw [weigh_committed, hsame]
    have hchildren : ∀ place, (d₁.committed place).children = d₁.children := by
      intro place
      rw [committed, hsame]
    refine ⟨?_, ?_, ?_⟩
    · obtain ⟨q, hfind, hq⟩ := hlifted.exists_findPath? hparent hd
      refine ⟨q, ?_, ?_⟩
      · rw [findPath?, walk, hchildren]
        exact hfind
      · rw [Document.blockAt?, hchildren]
        exact hq
    · rw [hweigh]
      exact hlifted.weigh_le hparent hlist (Scale.block_bytes _)
    · rw [hweigh]
      exact hlifted.weigh_le hparent hlist (Scale.block_styled_of_isList hlist)

/-- An item that was freed and becomes a paragraph leads down from where it was an item. -/
theorem Freed.exists_apply_setKind (h : d.Freed b d') (hd' : d'.Settled)
    (hkind : b.kind ≠ .paragraph) (hlist : b.kind.isList = false) :
    ∃ q p d'', d'.findPath? b.id = some q ∧ d'.apply (.setKind q .paragraph) = (.ok p, d'') ∧
      d.Descends d'' := by
  obtain ⟨q, hfind, hq⟩ := h.found
  obtain ⟨p, d₂, place, hset, hexchanged⟩ := Document.exists_apply_setKind hq
  refine ⟨q, p, _, hfind, hset, d₂, place, rfl, fun _ => ⟨?_, ?_⟩⟩
  · exact hexchanged.areBlocks hd'.areBlocks Node.areBlocks_block
  · have hbytes := hexchanged.weigh_paragraph .bytes
    have hstyled := hexchanged.weigh_paragraph .styled
    rw [Scale.block_styled_of_ne hkind hlist, Scale.block_styled_paragraph] at hstyled
    rw [Scale.block_bytes, Scale.block_bytes] at hbytes
    have hbytes' := h.bytes_le
    have hstyled' := h.styled_le
    exact .style (by omega) (by omega)

end Document

end BlockNotes
