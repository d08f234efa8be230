import BlockNotes.Proofs.Document.Movement

/-!
# One place in a tree

A command at a path changes the tree in one place: other nodes come where a block was,
and nothing else is different (`Document.Swapped`).  Bringing the tree into normal form
does not change that, where it was settled before: only the nodes that came in are brought
into normal form (`Document.Swapped.normalize`).

So commands at the same place come to one swap (`Document.Swapped.trans`).  From it
the tree afterwards is known: every other block is where it was, with its identity, its kind
and its leaves (`Document.Swapped.sameOutside`), and the list of the blocks that hold text is
changed in one place (`Document.Swapped.exists_holders`).
-/

namespace BlockNotes

/-! ## The normal form around a place -/

theorem Block.normalize_eq {b : Block} {ns : List Node} (h : b.normalize.children = ns) :
    b.normalize = { b with children := ns } := by
  have hid := b.id_normalize
  have hkind := b.kind_normalize
  cases hb : b.normalize
  simp_all

namespace Node

@[simp] theorem normalizeAll_append (ns ms : List Node) :
    normalizeAll (ns ++ ms) = normalizeAll ns ++ normalizeAll ms := by
  induction ns with
  | nil => rfl
  | cons n ns ih => cases n <;> simp [normalizeAll, ih]

theorem Focus.put_self {ns : List Node} {p : Path} {cs : List Node} {put : List Node → List Node}
    (h : Focus ns p cs put) : put cs = ns := by
  induction h with
  | here ns => rfl
  | step front back b below ih =>
    cases b
    dsimp only
    rw [ih]

theorem AreBlocks.not_areLeaves {ns : List Node} (h : AreBlocks ns) (hne : ns ≠ []) :
    ¬ AreLeaves ns := by
  intro hleaves
  obtain ⟨n, hn⟩ := List.exists_mem_of_ne_nil ns hne
  cases (hleaves n hn).symm.trans (h n hn)

theorem not_areLeaves_insert (front back : List Node) (b : Block) :
    ¬ AreLeaves (front ++ .block b :: back) :=
  fun hleaves => Bool.false_ne_true (hleaves (.block b) (List.mem_append_right _ List.mem_cons_self))

/-- Where there is a block at a place, there are blocks above it. -/
theorem Focus.not_areLeaves_put {ns : List Node} {p : Path} {cs : List Node}
    {put : List Node → List Node} (h : Focus ns p cs put) {new : List Node}
    (hnew : ¬ AreLeaves new) : ¬ AreLeaves (put new) := by
  cases h with
  | here ns => exact hnew
  | step front back b below => exact not_areLeaves_insert front back _

/-- Between settled nodes a block is all that is brought into normal form, if it does not go away. -/
theorem filter_normalizeAll_insert {front back : List Node} (hfront : Everywhere Block.Settled front)
    (hback : Everywhere Block.Settled back) {b : Block}
    (hkept : (Node.block b.normalize).isEmptyList = false) :
    (normalizeAll (front ++ .block b :: back)).filter (fun n => !n.isEmptyList) =
      front ++ .block b.normalize :: back := by
  obtain ⟨hsame, hstays⟩ := normalizeAll_of_settled front hfront
  obtain ⟨hsame', hstays'⟩ := normalizeAll_of_settled back hback
  rw [normalizeAll_append, normalizeAll, hsame, hsame', List.filter_append, hstays,
    List.filter_cons_of_pos (by rw [hkept]; rfl), hstays']

/-- What is put in a settled tree is all that is brought into normal form. -/
theorem Focus.filter_normalizeAll_put {ns : List Node} {p : Path} {cs : List Node}
    {put : List Node → List Node} (h : Focus ns p cs put) (hns : Everywhere Block.Settled ns)
    {new kept : List Node} (hkept : (normalizeAll new).filter (fun n => !n.isEmptyList) = kept)
    (hleft : ¬ AreLeaves kept) :
    (normalizeAll (put new)).filter (fun n => !n.isEmptyList) = put kept := by
  induction h with
  | here ns => exact hkept
  | @step front back b p cs put below ih =>
    rw [everywhere_append, everywhere_block] at hns
    obtain ⟨hfront, ⟨-, hbelow⟩, hback⟩ := hns
    have hnot := below.not_areLeaves_put hleft
    have hblock : ({ b with children := put new } : Block).normalize =
        { b with children := put kept } := by
      rw [Block.normalize, ih hbelow, if_neg]
      rw [Bool.and_eq_true, not_and]
      exact fun _ hleaves => hnot (areLeaves_iff.mpr hleaves)
    have hput : put kept ≠ [] := by
      intro hnil
      rw [hnil] at hnot
      exact hnot (areLeaves_iff.mpr rfl)
    refine (filter_normalizeAll_insert hfront hback ?_).trans ?_
    · rw [hblock, isEmptyList, List.isEmpty_eq_false_iff.mpr hput, Bool.and_false]
    · rw [hblock]

theorem Focus.normalizeAll_put {ns : List Node} {p : Path} {cs : List Node}
    {put : List Node → List Node} (h : Focus ns p cs put) (hns : Everywhere Block.Settled ns)
    {new : List Node} (hblocks : AreBlocks new) (hfilled : Filled new) (hne : new ≠ []) :
    normalizeAll (put new) = put (normalizeAll new) := by
  have hput := (h.filled_put (hns.mono fun _ hb => hb.nonempty) hfilled hne).1
  rw [← filter_normalizeAll _ hput]
  refine h.filter_normalizeAll_put hns (filter_normalizeAll new hfilled) (AreBlocks.not_areLeaves ?_ ?_)
  · exact (areBlocks_iff_of_map_isLeaf (map_isLeaf_normalizeAll new)).mpr hblocks
  · rw [← List.length_pos_iff, ← List.length_map Node.isLeaf, map_isLeaf_normalizeAll, List.length_map]
    exact List.length_pos_iff.mpr hne

/-- The leaves at a place stay if those of the nodes there do. -/
theorem Focus.filterMap_leaf?_put {ns : List Node} {p : Path} {cs : List Node}
    {put : List Node → List Node} (h : Focus ns p cs put) {new : List Node}
    (hnew : new.filterMap leaf? = cs.filterMap leaf?) :
    (put new).filterMap leaf? = ns.filterMap leaf? := by
  cases h with
  | here ns => exact hnew
  | step front back b below =>
    rw [List.filterMap_append, List.filterMap_append]
    rfl

end Node

/-! ## Blocks elsewhere -/

/-- What a block has without the blocks below it. -/
def Block.own (b : Block) : BlockId × Kind × List Leaf := (b.id, b.kind, b.leaves)

/-- If the nodes at a place are the same but for one of them, all other blocks are as they were. -/
theorem Node.Focus.map_own_blockAt?_put {ns : List Node} {p : Path} {cs : List Node}
    {put : List Node → List Node} (h : Node.Focus ns p cs put) {new : List Node} {k : Nat}
    (hleaves : new.filterMap Node.leaf? = cs.filterMap Node.leaf?)
    (hnew : ∀ i, i ≠ k → new[i]? = cs[i]?) {q : Path} (hq : ¬ p ++ [k] <+: q) :
    (Node.blockAt? (put new) q).map Block.own = (Node.blockAt? ns q).map Block.own := by
  induction h generalizing q with
  | here ns =>
    cases q with
    | nil => rfl
    | cons i q =>
      have hi : i ≠ k := by
        rintro rfl
        exact hq (List.prefix_append [i] q)
      rw [id, Node.blockAt?_cons, Node.blockAt?_cons, hnew i hi]
  | @step front back b p cs put below ih =>
    cases q with
    | nil => rfl
    | cons i q =>
      by_cases hi : i = front.length
      · subst hi
        rw [Node.blockAt?_cons, Node.blockAt?_cons]
        simp only [List.getElem?_append_right (Nat.le_refl _), Nat.sub_self,
          List.getElem?_cons_zero, Option.bind_some, Node.block?]
        split
        next =>
          have hput := below.filterMap_leaf?_put hleaves
          simp only [Option.map_some, Block.own, Block.leaves, hput]
        next => exact ih hleaves hnew fun hprefix => hq ((List.prefix_cons_inj _).mpr hprefix)
      · rw [Node.blockAt?_cons, Node.blockAt?_cons]
        have hget : ∀ n : Node, (front ++ n :: back)[i]? = (front ++ back)[if i < front.length then i
            else i - 1]? := by
          intro n
          grind
        rw [hget, hget]

namespace Document

/-- Outside of a place two trees have the same blocks at the same paths. -/
def SameOutside (path : Path) (d d' : Document) : Prop :=
  ∀ q, ¬ path <+: q → (d'.blockAt? q).map Block.own = (d.blockAt? q).map Block.own

/-- In the tree other nodes have come in the place of the block at a path, and nothing else is
different. -/
def Swapped (d : Document) (path : Path) (b : Block) (new : List Node) (d' : Document) : Prop :=
  ∃ parent front back, path = parent ++ [front.length] ∧
    Node.childrenAt? d.children parent = some (front ++ .block b :: back) ∧
    d'.children = Node.setChildren d.children parent (front ++ new ++ back)

variable {d d₁ d' : Document} {path parent : Path} {b c : Block} {new : List Node} {k : Nat}

theorem Exchanged.swapped {next : BlockId} (h : d.Exchanged path b new next d') :
    d.Swapped path b new d' := by
  obtain ⟨parent, front, back, rfl, hcs, rfl⟩ := h
  exact ⟨parent, front, back, rfl, hcs, rfl⟩

/-- The siblings of a block in a regular document. -/
theorem Regular.siblings {front back : List Node} (hd : d.Regular)
    (hcs : Node.childrenAt? d.children parent = some (front ++ .block b :: back)) :
    (Node.AreBlocks front ∧ Node.AreBlocks back) ∧
      Node.Everywhere Block.Settled front ∧ Node.Everywhere Block.Settled back := by
  have hfocus := Node.focus_setChildren hcs
  have hblocks := (hfocus.uniform_children hd.uniform).areBlocks
  have hsettled := hfocus.everywhere_children hd.settled
  rw [Node.areBlocks_append, Node.areBlocks_cons] at hblocks
  rw [Node.everywhere_append, Node.everywhere_block] at hsettled
  exact ⟨⟨hblocks.1, hblocks.2.2⟩, hsettled.1, hsettled.2.2⟩

/-- With other blocks among them the siblings of a block can come in its place. -/
theorem Regular.siblings_filled {front back : List Node} (hd : d.Regular)
    (hcs : Node.childrenAt? d.children parent = some (front ++ .block b :: back))
    (hblocks : Node.AreBlocks new) (hfilled : Node.Filled new) (hne : new ≠ []) :
    Node.AreBlocks (front ++ new ++ back) ∧ Node.Filled (front ++ new ++ back) ∧
      front ++ new ++ back ≠ [] := by
  obtain ⟨⟨hfront, hback⟩, hfront', hback'⟩ := hd.siblings hcs
  simp only [Node.areBlocks_append, Node.filled_append]
  exact ⟨⟨⟨hfront, hblocks⟩, hback⟩, ⟨⟨hfront'.mono fun _ hb => hb.nonempty, hfilled⟩,
    hback'.mono fun _ hb => hb.nonempty⟩, by simp [hne]⟩

/-- A tree stays filled where blocks with children come in. -/
theorem Swapped.filled (hd : d.Regular) (h : d.Swapped path b new d')
    (hblocks : Node.AreBlocks new) (hfilled : Node.Filled new) (hne : new ≠ []) : d'.Filled := by
  obtain ⟨parent, front, back, -, hcs, hd'⟩ := h
  obtain ⟨hall, hput, hne'⟩ := hd.siblings_filled hcs hblocks hfilled hne
  have hfocus := Node.focus_setChildren hcs
  obtain ⟨hfilled', hne''⟩ := hfocus.filled_put (hd.settled.mono fun _ hb => hb.nonempty) hput hne'
  have hroot := hfocus.areBlocks_put (.inr hd.uniform.areBlocks) hall
  rw [← hd'] at hfilled' hne'' hroot
  exact ⟨hne'', hroot, hfilled'⟩

/-- Of a settled tree only what came in is brought into normal form. -/
theorem Swapped.normalize (hd : d.Regular) (h : d.Swapped path b new d')
    (hblocks : Node.AreBlocks new) (hfilled : Node.Filled new) (hne : new ≠ []) :
    d.Swapped path b (Node.normalizeAll new) d'.normalize := by
  rw [(h.filled hd hblocks hfilled hne).normalize_eq]
  obtain ⟨parent, front, back, hpath, hcs, hd'⟩ := h
  obtain ⟨hall, hput, hne'⟩ := hd.siblings_filled hcs hblocks hfilled hne
  obtain ⟨-, hfront, hback⟩ := hd.siblings hcs
  refine ⟨parent, front, back, hpath, hcs, ?_⟩
  show Node.normalizeAll d'.children = _
  rw [hd', (Node.focus_setChildren hcs).normalizeAll_put hd.settled hall hput hne',
    Node.normalizeAll_append, Node.normalizeAll_append, (Node.normalizeAll_of_settled _ hfront).1,
    (Node.normalizeAll_of_settled _ hback).1]

/-! ## What is known of a swap -/

namespace Swapped

theorem refl (hb : d.blockAt? path = some b) : d.Swapped path b [.block b] d := by
  obtain ⟨parent, front, back, hpath, hcs⟩ := Node.exists_siblings_of_blockAt? hb
  refine ⟨parent, front, back, hpath, hcs, ?_⟩
  rw [← List.append_cons]
  exact (Node.focus_setChildren hcs).put_self.symm

/-- Where the block comes in its own place, nothing is different. -/
theorem children_eq (h : d.Swapped path b [.block b] d') : d'.children = d.children := by
  obtain ⟨parent, front, back, -, hcs, hd'⟩ := h
  rw [hd', ← List.append_cons]
  exact (Node.focus_setChildren hcs).put_self

/-- Other children in a block are another block in its place. -/
theorem setChildren (hb : d.blockAt? path = some b) (ns : List Node) :
    d.Swapped path b [.block { b with children := ns }]
      { d with children := Node.setChildren d.children path ns } :=
  (Exchanged.setChildren hb ns).swapped

theorem eq_setChildren {ns : List Node}
    (h : d.Swapped path b [.block { b with children := ns }] d') :
    d'.children = Node.setChildren d.children path ns := by
  obtain ⟨parent, front, back, rfl, hcs, hd'⟩ := h
  rw [hd', Node.setChildren_concat hcs, ← List.append_cons]

/-- Blocks hold only leaves or only blocks afterwards, if this holds of what came in. -/
theorem uniform (hd : Node.Uniform d.children) (h : d.Swapped path b new d')
    (hnew : Node.Uniform new) : Node.Uniform d'.children := by
  obtain ⟨parent, front, back, -, hcs, hd'⟩ := h
  have hfocus := Node.focus_setChildren hcs
  have hsiblings := hfocus.uniform_children hd
  have hall := hsiblings
  rw [List.append_cons, Node.uniform_append, Node.uniform_append] at hall
  rw [hd']
  exact hfocus.uniform_put hd hsiblings.areBlocks
    (Node.uniform_append.mpr ⟨Node.uniform_append.mpr ⟨hall.1.1, hnew⟩, hall.2⟩)

theorem blockAt?_before (h : d.Swapped path b new d') : d.blockAt? path = some b := by
  obtain ⟨parent, front, back, rfl, hcs, -⟩ := h
  exact Node.blockAt?_of_childrenAt? hcs

/-- The nodes that came in follow each other from the path on. -/
theorem blockAt?_after (h : d.Swapped (parent ++ [k]) b new d') {i : Nat} (hi : i < new.length) :
    d'.blockAt? (parent ++ [k + i]) = new[i]?.bind Node.block? := by
  obtain ⟨parent', front, back, hpath, hcs, hd'⟩ := h
  obtain ⟨rfl, hk⟩ := List.append_inj' hpath rfl
  cases hk
  rw [Document.blockAt?, hd', Node.blockAt?_append, Node.childrenAt?_setChildren hcs,
    Option.bind_some, Node.blockAt?_singleton, List.append_assoc,
    List.getElem?_append_right (Nat.le_add_right _ _), Nat.add_sub_cancel_left,
    List.getElem?_append_left hi]

theorem blockAt?_single (h : d.Swapped path b [.block c] d') : d'.blockAt? path = some c := by
  obtain ⟨parent, front, back, rfl, -⟩ := id h
  exact h.blockAt?_after (i := 0) Nat.zero_lt_one

/-- What comes in the place of one of the nodes that came in. -/
theorem trans (xs ys : List Node) (h : d.Swapped (parent ++ [k]) b (xs ++ .block c :: ys) d₁)
    (h' : d₁.Swapped (parent ++ [k + xs.length]) c new d') :
    d.Swapped (parent ++ [k]) b (xs ++ new ++ ys) d' := by
  obtain ⟨parent₁, front, back, hpath, hcs, hd₁⟩ := h
  obtain ⟨rfl, hk⟩ := List.append_inj' hpath rfl
  cases hk
  obtain ⟨parent₂, front', back', hpath', hcs', hd'⟩ := h'
  obtain ⟨rfl, hk⟩ := List.append_inj' hpath' rfl
  have hlen : (front ++ xs).length = front'.length := by
    rw [List.length_append]
    exact (List.singleton_inj.mp hk)
  rw [hd₁, Node.childrenAt?_setChildren hcs, Option.some_inj] at hcs'
  have hsplit : (front ++ xs) ++ Node.block c :: (ys ++ back) = front' ++ Node.block c :: back' := by
    simpa using hcs'
  obtain ⟨rfl, hback⟩ := List.append_inj hsplit hlen
  cases hback
  refine ⟨parent, front, back, rfl, hcs, ?_⟩
  rw [hd', hd₁, Node.setChildren_setChildren hcs]
  simp

/-- A block among the nodes that came in can be swapped in its turn. -/
theorem exists_inner {xs ys : List Node} (h : d.Swapped path b (xs ++ .block c :: ys) d₁) :
    ∃ q, d₁.blockAt? q = some c ∧
      ∀ new d', d₁.Swapped q c new d' → d.Swapped path b (xs ++ new ++ ys) d' := by
  obtain ⟨parent, front, back, rfl, -⟩ := id h
  refine ⟨parent ++ [front.length + xs.length], ?_, fun _ _ => h.trans xs ys⟩
  rw [h.blockAt?_after (by simp)]
  simp [Node.block?]

/-- One block for one block. -/
theorem trans_single (h : d.Swapped path b [.block c] d₁) (h' : d₁.Swapped path c new d') :
    d.Swapped path b new d' := by
  obtain ⟨parent, front, back, rfl, -⟩ := id h
  simpa using h.trans [] [] h'

/-- Where one block comes in the place of another, all blocks elsewhere stay. -/
theorem sameOutside (h : d.Swapped path b [.block c] d') : SameOutside path d d' := by
  obtain ⟨parent, front, back, rfl, hcs, hd'⟩ := h
  intro q hq
  rw [Document.blockAt?, hd']
  refine (Node.focus_setChildren hcs).map_own_blockAt?_put ?_ ?_ hq
  · rw [← List.append_cons, List.filterMap_append, List.filterMap_append]
    rfl
  · intro i hi
    grind

/-- Where a block with leaves comes in the place of another, all other blocks stay. -/
theorem map_own_blockAt? (h : d.Swapped path b [.block c] d') (hb : Node.AreLeaves b.children)
    (hc : Node.AreLeaves c.children) {q : Path} (hq : q ≠ path) :
    (d'.blockAt? q).map Block.own = (d.blockAt? q).map Block.own := by
  by_cases hprefix : path <+: q
  · obtain ⟨_ | ⟨i, r⟩, rfl⟩ := hprefix
    · exact absurd (List.append_nil path) hq
    · -- Below leaves there is nothing.
      rw [Document.blockAt?, Document.blockAt?, Node.blockAt?_append, Node.blockAt?_append,
        Node.childrenAt?_of_blockAt? h.blockAt?_single, Node.childrenAt?_of_blockAt? h.blockAt?_before,
        Option.bind_some, Option.bind_some, Node.blockAt?_of_areLeaves hb,
        Node.blockAt?_of_areLeaves hc]
  · exact h.sameOutside q hprefix

/-- There are only blocks at the root afterwards, if only blocks came in. -/
theorem areBlocks (hd : Node.Uniform d.children) (h : d.Swapped path b new d')
    (hblocks : Node.AreBlocks new) : Node.AreBlocks d'.children := by
  obtain ⟨parent, front, back, -, hcs, hd'⟩ := h
  have hfocus := Node.focus_setChildren hcs
  have hsiblings := (hfocus.uniform_children hd).areBlocks
  rw [Node.areBlocks_append, Node.areBlocks_cons] at hsiblings
  rw [hd']
  refine hfocus.areBlocks_put (.inr hd.areBlocks) ?_
  simp only [Node.areBlocks_append]
  exact ⟨⟨hsiblings.1, hblocks⟩, hsiblings.2.2⟩

/-- In the list of the blocks that hold text, those among the nodes that came in come in the place
of those in the block. -/
theorem exists_holders (hd : Node.Uniform d.children) (h : d.Swapped path b new d')
    (hblocks : Node.AreBlocks new) :
    ∃ xs ys, Node.holders d.children = xs ++ Node.holders [.block b] ++ ys ∧
      Node.holders d'.children = xs ++ Node.holders new ++ ys := by
  obtain ⟨parent, front, back, -, hcs, hd'⟩ := h
  have hfocus := Node.focus_setChildren hcs
  have hsiblings := (hfocus.uniform_children hd).areBlocks
  obtain ⟨xs, ys, hholders, -, hput⟩ := hfocus.exists_holders_put hd hsiblings
  rw [Node.areBlocks_append, Node.areBlocks_cons] at hsiblings
  have hall : Node.AreBlocks (front ++ new ++ back) := by
    simp only [Node.areBlocks_append]
    exact ⟨⟨hsiblings.1, hblocks⟩, hsiblings.2.2⟩
  refine ⟨xs ++ Node.holders front, Node.holders back ++ ys, ?_, ?_⟩
  · rw [hholders, List.append_cons, Node.holders_append, Node.holders_append]
    simp only [List.append_assoc]
  · rw [hd', hput _ hall, Node.holders_append, Node.holders_append]
    simp only [List.append_assoc]

end Swapped

end Document

end BlockNotes
