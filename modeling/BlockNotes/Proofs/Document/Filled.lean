import BlockNotes.Proofs.Document.Seam

/-!
# Trees in which no block is empty

Bringing a tree into normal form takes lists away that have become empty, and with
them blocks change their places.  In a tree where every block has children
(`Node.Filled`) there is nothing to take away: the normal form is taken block by
block, and each block stays where it is (`Node.blockAt?_normalizeAll`).  The
blocks that hold leaves keep their identities and their characters, which is all
that is written in the tree (`Node.passages_normalizeAll`).

Most edits leave such a tree behind.  A settled tree is one, and it stays one when
something is put in a place where something was (`Node.Focus.filled_put`).  So after
those edits a path still leads to where it led in the edited tree
(`Document.Filled.blockAt?_normalize`).
-/

namespace BlockNotes

/-- Every block among and below the nodes has children. -/
def Node.Filled (ns : List Node) : Prop := Node.Everywhere (fun b => b.children ≠ []) ns

namespace Node

theorem filled_block {b : Block} {ns : List Node} :
    Filled (.block b :: ns) ↔ (b.children ≠ [] ∧ Filled b.children) ∧ Filled ns :=
  everywhere_block

theorem filled_append {ns ms : List Node} : Filled (ns ++ ms) ↔ Filled ns ∧ Filled ms :=
  everywhere_append

end Node

mutual

/-- The normal form of a filled block has children. -/
theorem Block.children_normalize_ne_nil : (b : Block) → b.children ≠ [] → Node.Filled b.children →
    b.normalize.children ≠ []
  | ⟨id, kind, children⟩, hne, hfilled => by
    have hkept := Node.filter_normalizeAll children hfilled
    rw [Block.normalize, hkept]
    split
    next =>
      rw [Ne, List.map_eq_nil_iff]
      exact (Leaf.areNormal_normalize _).2
    next =>
      cases children with
      | nil => exact absurd rfl hne
      | cons n ns => cases n <;> exact List.cons_ne_nil _ _

/-- None of the filled nodes goes away. -/
theorem Node.filter_normalizeAll : (ns : List Node) → Node.Filled ns →
    (Node.normalizeAll ns).filter (fun n => !n.isEmptyList) = Node.normalizeAll ns
  | [], _ => rfl
  | .leaf l :: rest, h => by
    rw [Node.normalizeAll, List.filter_cons_of_pos (by rfl), Node.filter_normalizeAll rest h]
  | .block b :: rest, h => by
    rw [Node.filled_block] at h
    have hne := Block.children_normalize_ne_nil b h.1.1 h.1.2
    have hkept : (Node.block b.normalize).isEmptyList = false := by
      rw [Node.isEmptyList, List.isEmpty_eq_false_iff.mpr hne, Bool.and_false]
    rw [Node.normalizeAll, List.filter_cons_of_pos (by rw [hkept]; rfl),
      Node.filter_normalizeAll rest h.2]

end

/-- Below a filled block the normal form has the normal forms of the children, or only leaves. -/
theorem Block.children_normalize {b : Block} (h : Node.Filled b.children) :
    (Node.AreLeaves b.children ∧ Node.AreLeaves b.normalize.children) ∨
      b.normalize.children = Node.normalizeAll b.children := by
  obtain ⟨id, kind, children⟩ := b
  have hkept := Node.filter_normalizeAll children h
  rw [Block.normalize, hkept]
  split
  next hcond =>
    rw [Bool.and_eq_true] at hcond
    have hleaves := (Node.areLeaves_iff_of_map_isLeaf (Node.map_isLeaf_normalizeAll children)).mp
      (Node.areLeaves_iff.mpr hcond.2)
    exact .inl ⟨hleaves, Node.areLeaves_iff.mpr (by simp [Node.isLeaf])⟩
  next => exact .inr rfl

/-- The children of a filled block stay of their sort. -/
theorem Block.homogeneous_normalize {b : Block} (h : Node.Filled b.children)
    (hb : Node.Homogeneous b.children) : Node.Homogeneous b.normalize.children := by
  rcases Block.children_normalize h with ⟨-, hleaves⟩ | heq
  · exact .inl hleaves
  · rw [heq]
    exact (Node.homogeneous_iff_of_map_isLeaf (Node.map_isLeaf_normalizeAll _)).mpr hb

namespace Node

/-! ## Places -/

/-- No path leads to a block among leaves. -/
theorem blockAt?_of_areLeaves {ns : List Node} (h : AreLeaves ns) (p : Path) :
    blockAt? ns p = none := by
  cases p with
  | nil => rfl
  | cons i p =>
    rw [blockAt?_cons]
    cases hi : ns[i]? with
    | none => rfl
    | some n =>
      cases n with
      | leaf l => rfl
      | block b => cases h _ (List.mem_of_getElem? hi)

theorem block?_getElem?_normalizeAll (ns : List Node) (i : Nat) :
    (normalizeAll ns)[i]?.bind Node.block? = (ns[i]?.bind Node.block?).map Block.normalize := by
  induction ns generalizing i with
  | nil => rfl
  | cons n ns ih =>
    cases n <;> cases i <;> first | rfl | exact ih _

/-- Where every block has children, each stays in its place. -/
theorem blockAt?_normalizeAll {ns : List Node} (h : Filled ns) (p : Path) :
    blockAt? (normalizeAll ns) p = (blockAt? ns p).map Block.normalize := by
  induction p generalizing ns with
  | nil => rfl
  | cons i p ih =>
    rw [blockAt?_cons, blockAt?_cons, block?_getElem?_normalizeAll]
    cases hb : ns[i]?.bind Node.block? with
    | none => rfl
    | some b =>
      have hbelow : Filled b.children := by
        obtain ⟨front, back, rfl, -⟩ := exists_split_of_block? hb
        rw [filled_append, filled_block] at h
        exact h.2.1.2
      rw [Option.map_some, Option.bind_some, Option.bind_some]
      split
      next => rfl
      next =>
        rcases Block.children_normalize hbelow with ⟨hleaves, hleaves'⟩ | heq
        · rw [blockAt?_of_areLeaves hleaves, blockAt?_of_areLeaves hleaves']
          rfl
        · rw [heq]
          exact ih hbelow

/-- Where something is put in the place of something, every block above still has children. -/
theorem Focus.filled_put {ns : List Node} {p : Path} {cs : List Node}
    {put : List Node → List Node} (h : Focus ns p cs put) (hns : Filled ns) {new : List Node}
    (hnew : Filled new) (hne : new ≠ []) : Filled (put new) ∧ put new ≠ [] := by
  induction h with
  | here ns => exact ⟨hnew, hne⟩
  | step front back b below ih =>
    rw [filled_append, filled_block] at hns
    obtain ⟨hbelow, hput⟩ := ih hns.2.1.2
    rw [filled_append, filled_block]
    exact ⟨⟨hns.1, ⟨hput, hbelow⟩, hns.2.2⟩,
      List.append_ne_nil_of_right_ne_nil front (List.cons_ne_nil _ _)⟩

/-! ## Passages -/

/-- What is written in a tree: the blocks that hold leaves in document order, each with its identity
and its characters. -/
def passages (ns : List Node) : List (BlockId × List (Char × Marks)) :=
  (holders ns).map fun b => (b.id, marked b.children)

@[simp] theorem passages_append (ns ms : List Node) :
    passages (ns ++ ms) = passages ns ++ passages ms := by
  simp [passages]

theorem passages_of_areBlocks {b : Block} {ns : List Node} (h : AreBlocks b.children) :
    passages (.block b :: ns) = passages b.children ++ passages ns := by
  rw [passages, holders_of_areBlocks h, List.map_append]
  rfl

/-- Whether a filled block holds leaves does not change. -/
theorem any_isLeaf_normalize {b : Block} (hne : b.children ≠ []) (h : Filled b.children) :
    b.normalize.children.any Node.isLeaf = b.children.any Node.isLeaf := by
  rcases Block.children_normalize h with ⟨hleaves, hleaves'⟩ | heq
  · rw [hleaves.any_isLeaf hne, hleaves'.any_isLeaf (Block.children_normalize_ne_nil b hne h)]
  · have hmap := congrArg (List.any · id) (map_isLeaf_normalizeAll b.children)
    rw [heq]
    simpa [List.any_map] using hmap

end Node

mutual

/-- The blocks of a filled tree are brought into normal form one by one. -/
theorem Block.blocksOf_normalize : (b : Block) → Node.Filled b.children →
    Node.blocksOf b.normalize.children = (Node.blocksOf b.children).map Block.normalize
  | ⟨id, kind, children⟩, h => by
    have hbelow := Node.blocksOf_normalizeAll children h
    rcases Block.children_normalize (b := ⟨id, kind, children⟩) h with ⟨hleaves, hleaves'⟩ | heq
    · rw [Node.blocksOf_of_areLeaves hleaves', Node.blocksOf_of_areLeaves hleaves]
      rfl
    · rw [heq]
      exact hbelow

theorem Node.blocksOf_normalizeAll : (ns : List Node) → Node.Filled ns →
    Node.blocksOf (Node.normalizeAll ns) = (Node.blocksOf ns).map Block.normalize
  | [], _ => rfl
  | .leaf _ :: rest, h => Node.blocksOf_normalizeAll rest h
  | .block b :: rest, h => by
    rw [Node.filled_block] at h
    rw [Node.normalizeAll, Node.blocksOf_block, Node.blocksOf_block, Block.blocksOf_normalize b h.1.2,
      Node.blocksOf_normalizeAll rest h.2, List.map_cons, List.map_append]

end

namespace Node

/-- The blocks of a filled tree have children, and so have those below them. -/
theorem filled_of_mem_blocksOf {ns : List Node} (h : Filled ns) {b : Block} (hb : b ∈ blocksOf ns) :
    b.children ≠ [] ∧ Filled b.children := by
  obtain ⟨path, hb⟩ := (Document.mem_blocksOf (d := ⟨ns, none, 0, 0⟩)).mp hb
  obtain ⟨parent, front, back, -, hcs⟩ := exists_siblings_of_blockAt? hb
  have hsiblings := (focus_setChildren hcs).everywhere_children h
  rw [everywhere_append, everywhere_block] at hsiblings
  exact hsiblings.2.1

/-- What is written in a filled tree does not change. -/
theorem passages_normalizeAll {ns : List Node} (h : Filled ns) :
    passages (normalizeAll ns) = passages ns := by
  have hholders : holders (normalizeAll ns) = (holders ns).map Block.normalize := by
    rw [holders, holders, blocksOf_normalizeAll ns h, List.filter_map]
    congr 1
    refine List.filter_congr ?_
    intro b hb
    obtain ⟨hne, hbelow⟩ := filled_of_mem_blocksOf h hb
    exact any_isLeaf_normalize hne hbelow
  rw [passages, passages, hholders, List.map_map]
  refine List.map_congr_left ?_
  intro b _
  rw [Function.comp_apply, Block.id_normalize, Block.marked_normalize]

end Node

/-! ## Documents -/

namespace Document

variable {d : Document}

/-- There is something at the root, only blocks, and all of them have children. -/
structure Filled (d : Document) : Prop where
  nonempty : d.children ≠ []
  areBlocks : Node.AreBlocks d.children
  blocks : Node.Filled d.children

namespace Filled

/-- A filled document is brought into normal form block by block. -/
theorem normalize_eq (h : d.Filled) :
    d.normalize = { d with children := Node.normalizeAll d.children } := by
  have hblocks : Node.AreBlocks (Node.normalizeAll d.children) :=
    (Node.areBlocks_iff_of_map_isLeaf (Node.map_isLeaf_normalizeAll _)).mpr h.areBlocks
  have hne : Node.normalizeAll d.children ≠ [] := by
    obtain ⟨n, ns, hns⟩ := List.exists_cons_of_ne_nil h.nonempty
    rw [hns]
    cases n <;> exact List.cons_ne_nil _ _
  exact normalize_eq_of_kept (Node.filter_normalizeAll _ h.blocks) hblocks hne

/-- Each block of a filled document stays in its place. -/
theorem blockAt?_normalize (h : d.Filled) (path : Path) :
    d.normalize.blockAt? path = (d.blockAt? path).map Block.normalize := by
  rw [h.normalize_eq]
  exact Node.blockAt?_normalizeAll h.blocks path

theorem passages_normalize (h : d.Filled) :
    Node.passages d.normalize.children = Node.passages d.children := by
  rw [h.normalize_eq]
  exact Node.passages_normalizeAll h.blocks

/-- The normal form of a filled and uniform document is regular. -/
theorem regular_normalize (h : d.Filled) (huniform : Node.Uniform d.children) (hd : d.ids.Nodup) :
    d.normalize.Regular := by
  refine ⟨nodup_ids_normalize h.areBlocks hd, ⟨(settled_normalize d).areBlocks, ?_⟩,
    (settled_normalize d).blocks⟩
  refine Node.everywhere_iff.mpr ?_
  intro path b hb
  have hb : d.normalize.blockAt? path = some b := hb
  rw [h.blockAt?_normalize, Option.map_eq_some_iff] at hb
  obtain ⟨c, hc, rfl⟩ := hb
  have hbelow := (Node.filled_of_mem_blocksOf h.blocks (mem_blocksOf.mpr ⟨path, hc⟩)).2
  exact Block.homogeneous_normalize hbelow
    (Node.everywhere_iff.mp huniform.homogeneous path c hc)

end Filled

/-- A regular document with a block at some path is filled. -/
theorem Regular.filled (hd : d.Regular) {path : Path} {b : Block} (hb : d.blockAt? path = some b) :
    d.Filled := by
  refine ⟨?_, hd.uniform.areBlocks, hd.settled.mono fun _ hb => hb.nonempty⟩
  intro hnil
  have hnone : Node.blockAt? [] path = some b := hnil ▸ hb
  rw [Node.blockAt?_of_areLeaves (fun _ hn => absurd hn List.not_mem_nil)] at hnone
  cases hnone

end Document

end BlockNotes
