import BlockNotes.Proofs.Document.Normal

/-!
# Settled trees

What bringing a tree into normal form does to any tree, also to one with leaves
and blocks side by side.  A block is *settled* if it has children and, where all
of them are leaves and it is no list, the leaves are normal.

The normal form of a document is settled whatever it was before
(`Document.settled_normalize`), and what is settled stays as it is
(`Node.normalizeAll_of_settled`).  On the way no character is lost and none gets
other marks (`Document.marked_normalize`), and a block that holds leaves is still
there in its normal form (`Document.mem_blocksOf_normalize`).
-/

namespace BlockNotes

/-! ## Leaves -/

namespace Leaf

/-- Where there are several normal leaves, none of them is empty. -/
theorem AreNormal.text_ne_nil {ls : List Leaf} (h : AreNormal ls) (hlen : ls.length ≠ 1) {l : Leaf}
    (hl : l ∈ ls) : l.text ≠ [] := by
  intro hempty
  rw [h.alone l hl hempty] at hlen
  exact hlen rfl

/-- Normal leaves are only lined up. -/
theorem AreNormal.foldl_append_eq {acc ls : List Leaf} (h : AreNormal (acc.reverse ++ ls)) :
    ls.foldl Leaf.append acc = ls.reverse ++ acc := by
  induction ls generalizing acc with
  | nil => rfl
  | cons l ls ih =>
    have hstep : Leaf.append acc l = l :: acc := by
      cases acc with
      | nil => rfl
      | cons p acc =>
        rw [List.reverse_cons, List.append_assoc, List.singleton_append] at h
        have hmarks : p.marks ≠ l.marks := by
          have hchain := List.isChain_append_cons_cons.mp h.marks_ne
          exact hchain.2.1
        have hlen : (acc.reverse ++ p :: l :: ls).length ≠ 1 := by
          simp only [List.length_append, List.length_cons]
          omega
        have hp : p.text ≠ [] := h.text_ne_nil hlen (by simp)
        have hl : l.text ≠ [] := h.text_ne_nil hlen (by simp)
        rw [Leaf.append, if_neg (not_or.mpr ⟨hmarks, hl⟩), if_neg hp]
    rw [List.foldl_cons, hstep, ih (by simpa using h)]
    simp

/-- Normal leaves are their own normal form. -/
theorem AreNormal.normalize_eq {ls : List Leaf} (h : AreNormal ls) (hne : ls ≠ []) :
    normalize ls = ls := by
  have hnone : AreNormal (([] : List Leaf).reverse ++ ls) := h
  have hfold : ls.foldl Leaf.append [] = ls.reverse := by
    rw [hnone.foldl_append_eq, List.append_nil]
  unfold normalize
  rw [hfold]
  split
  next hnil => exact absurd (List.reverse_eq_nil_iff.mp hnil) hne
  next => exact List.reverse_reverse ls

@[simp] theorem marked_nil : marked [] = [] := rfl

@[simp] theorem marked_cons (l : Leaf) (ls : List Leaf) :
    marked (l :: ls) = l.text.map (·, l.marks) ++ marked ls := rfl

@[simp] theorem marked_append (ls ks : List Leaf) : marked (ls ++ ks) = marked ls ++ marked ks :=
  List.flatMap_append

/-- Adding a leaf adds its characters. -/
theorem marked_reverse_append (acc : List Leaf) (l : Leaf) :
    marked (append acc l).reverse = marked acc.reverse ++ marked [l] := by
  cases acc with
  | nil => rfl
  | cons p acc =>
    rw [append]
    split
    next hjoin =>
      rcases hjoin with hmarks | hempty
      · simp [hmarks]
      · simp [hempty]
    next =>
      split
      next hp => simp [hp]
      next => simp

/-- The normal form of leaves has their characters. -/
theorem marked_normalize (ls : List Leaf) : marked (normalize ls) = marked ls := by
  have hfold : ∀ acc : List Leaf,
      marked (ls.foldl append acc).reverse = marked acc.reverse ++ marked ls := by
    induction ls with
    | nil => simp
    | cons l ls ih =>
      intro acc
      rw [List.foldl_cons, ih, marked_reverse_append]
      simp
  have hmerged := hfold []
  unfold normalize
  split
  next hnil =>
    rw [hnil] at hmerged
    exact hmerged
  next => exact hmerged

end Leaf

/-! ## Characters -/

namespace Node

/-- The characters among and below nodes in order, each with its marks. -/
def marked (ns : List Node) : List (Char × Marks) := Leaf.marked (leavesOf ns)

@[simp] theorem marked_nil : marked [] = [] := rfl

@[simp] theorem marked_leaf (l : Leaf) (ns : List Node) :
    marked (.leaf l :: ns) = l.text.map (·, l.marks) ++ marked ns := rfl

@[simp] theorem marked_block (b : Block) (ns : List Node) :
    marked (.block b :: ns) = marked b.children ++ marked ns := by
  cases b
  exact Leaf.marked_append _ _

@[simp] theorem marked_append (ns ms : List Node) : marked (ns ++ ms) = marked ns ++ marked ms := by
  induction ns with
  | nil => rfl
  | cons n ns ih => cases n <;> simp [ih]

/-- Leaves have their own characters. -/
theorem marked_map_leaf (ls : List Leaf) : marked (ls.map .leaf) = Leaf.marked ls := by
  induction ls with
  | nil => rfl
  | cons l ls ih => simp [ih]

/-- Where there are only leaves, the leaves among nodes are all of them. -/
theorem map_leaf_filterMap_leaf? {ns : List Node} (h : AreLeaves ns) :
    (ns.filterMap Node.leaf?).map .leaf = ns := by
  induction ns with
  | nil => rfl
  | cons n ns ih =>
    have hrest := ih fun m hm => h m (List.mem_cons_of_mem _ hm)
    cases n with
    | leaf l => simpa [Node.leaf?] using hrest
    | block b => cases h _ List.mem_cons_self

theorem marked_of_areLeaves {ns : List Node} (h : AreLeaves ns) :
    marked ns = Leaf.marked (ns.filterMap Node.leaf?) := by
  rw [← marked_map_leaf, map_leaf_filterMap_leaf? h]

end Node

/-- The characters of a document in order, each with its marks. -/
def Document.marked (d : Document) : List (Char × Marks) := Node.marked d.children

/-! ## Bringing blocks into normal form -/

mutual

/-- The normal form of a block has its characters. -/
theorem Block.marked_normalize : (b : Block) →
    Node.marked b.normalize.children = Node.marked b.children
  | ⟨id, kind, children⟩ => by
    have hbelow := Node.marked_filter_normalizeAll children
    rw [Block.normalize]
    dsimp only
    split
    next hcond =>
      rw [Bool.and_eq_true] at hcond
      rw [Node.marked_map_leaf, Leaf.marked_normalize,
        ← Node.marked_of_areLeaves (Node.areLeaves_iff.mpr hcond.2)]
      exact hbelow
    next => exact hbelow

/-- Bringing nodes into normal form keeps their characters. -/
theorem Node.marked_filter_normalizeAll : (ns : List Node) →
    Node.marked ((Node.normalizeAll ns).filter fun n => !n.isEmptyList) = Node.marked ns
  | [] => rfl
  | .leaf l :: rest => by
    rw [Node.normalizeAll, List.filter_cons_of_pos (by rfl), Node.marked_leaf, Node.marked_leaf,
      Node.marked_filter_normalizeAll rest]
  | .block b :: rest => by
    have hblock := Block.marked_normalize b
    have hrest := Node.marked_filter_normalizeAll rest
    rw [Node.normalizeAll, List.filter_cons, Node.marked_block]
    split
    next => rw [Node.marked_block, hblock, hrest]
    next hgone =>
      -- A list that goes away had nothing in it.
      rw [Bool.not_eq_true, Bool.not_eq_false', Node.isEmptyList, Bool.and_eq_true,
        List.isEmpty_iff] at hgone
      rw [hgone.2] at hblock
      rw [← hblock, hrest]
      rfl

end

/-- A block with children whose leaves are normal, where it is no list and has only leaves. -/
structure Block.Settled (b : Block) : Prop where
  nonempty : b.children ≠ []
  leaves : b.kind.isList = false → b.isTextBlock = true → Leaf.AreNormal b.leaves

theorem Block.IsNormal.settled {b : Block} (h : b.IsNormal) : b.Settled :=
  ⟨h.nonempty, fun hlist _ => h.leaves hlist⟩

mutual

/-- The normal form of a block is settled all the way down, unless it is an empty list. -/
theorem Block.everywhere_settled_normalize : (b : Block) →
    (Node.block b.normalize).isEmptyList = false → b.normalize.Everywhere Block.Settled
  | ⟨id, kind, children⟩, hkept => by
    have hbelow := Node.everywhere_settled_normalizeAll children
    rw [Block.normalize] at hkept ⊢
    generalize (Node.normalizeAll children).filter (fun n => !n.isEmptyList) = cs at hbelow hkept ⊢
    split
    next =>
      obtain ⟨hleaves, hne⟩ := Leaf.areNormal_normalize (cs.filterMap Node.leaf?)
      have hall : Node.AreLeaves ((Leaf.normalize (cs.filterMap Node.leaf?)).map .leaf) :=
        Node.areLeaves_iff.mpr (by simp [Node.isLeaf])
      refine ⟨⟨?_, ?_⟩, Node.everywhere_of_areLeaves hall⟩
      · rw [Ne, List.map_eq_nil_iff]
        exact hne
      · intro _ _
        rw [Block.leaves, Node.filterMap_leaf?_map_leaf]
        exact hleaves
    next hcond =>
      rw [if_neg hcond] at hkept
      refine ⟨⟨?_, ?_⟩, hbelow⟩
      · rintro rfl
        cases hlist : kind.isList with
        | true => rw [Node.isEmptyList, hlist] at hkept; cases hkept
        | false => exact hcond (by rw [hlist]; rfl)
      · intro hlist htext
        exact absurd (by rw [hlist]; exact htext) hcond

/-- The normal forms of blocks are settled all the way down, once empty lists are gone. -/
theorem Node.everywhere_settled_normalizeAll : (ns : List Node) →
    Node.Everywhere Block.Settled ((Node.normalizeAll ns).filter fun n => !n.isEmptyList)
  | [] => trivial
  | .leaf _ :: rest => Node.everywhere_settled_normalizeAll rest
  | .block b :: rest => by
    have hrest := Node.everywhere_settled_normalizeAll rest
    rw [Node.normalizeAll, List.filter_cons]
    split
    next hkept =>
      rw [Bool.not_eq_true'] at hkept
      exact ⟨Block.everywhere_settled_normalize b hkept, hrest⟩
    next => exact hrest

end

/-- What is settled is no empty list. -/
theorem Block.Settled.isEmptyList_eq_false {b : Block} (h : b.Settled) :
    (Node.block b).isEmptyList = false := by
  rw [Node.isEmptyList, Bool.and_eq_false_iff]
  right
  rw [List.isEmpty_eq_false_iff]
  exact h.nonempty

mutual

/-- A block that is settled all the way down is its own normal form. -/
theorem Block.normalize_of_settled : (b : Block) → b.Everywhere Block.Settled → b.normalize = b
  | ⟨id, kind, children⟩, ⟨hsettled, hbelow⟩ => by
    obtain ⟨hsame, hkept⟩ := Node.normalizeAll_of_settled children hbelow
    rw [Block.normalize, hsame, hkept]
    split
    next hcond =>
      rw [Bool.and_eq_true, Bool.not_eq_true'] at hcond
      have hleaves := Node.areLeaves_iff.mpr hcond.2
      have hne : children.filterMap Node.leaf? ≠ [] := by
        intro hnil
        have := Node.map_leaf_filterMap_leaf? hleaves
        rw [hnil] at this
        exact hsettled.nonempty this.symm
      have hnormal : Leaf.AreNormal (children.filterMap Node.leaf?) :=
        hsettled.leaves hcond.1 hcond.2
      rw [hnormal.normalize_eq hne, Node.map_leaf_filterMap_leaf? hleaves]
    next => rfl

/-- Nodes that are settled all the way down are their own normal forms, and none goes away. -/
theorem Node.normalizeAll_of_settled : (ns : List Node) → Node.Everywhere Block.Settled ns →
    Node.normalizeAll ns = ns ∧ ns.filter (fun n => !n.isEmptyList) = ns
  | [], _ => ⟨rfl, rfl⟩
  | .leaf l :: rest, h => by
    obtain ⟨hsame, hkept⟩ := Node.normalizeAll_of_settled rest h
    rw [Node.normalizeAll, hsame, List.filter_cons_of_pos (by rfl), hkept]
    exact ⟨rfl, rfl⟩
  | .block b :: rest, h => by
    obtain ⟨hsame, hkept⟩ := Node.normalizeAll_of_settled rest h.2
    have hb := (Block.everywhere_iff.mp h.1).1.isEmptyList_eq_false
    rw [Node.normalizeAll, Block.normalize_of_settled b h.1, hsame,
      List.filter_cons_of_pos (by rw [hb]; rfl), hkept]
    exact ⟨rfl, rfl⟩

end

/-! ## The blocks of a tree -/

mutual

/-- A block and those below it. -/
def Block.allBlocks : Block → List Block
  | ⟨id, kind, children⟩ => ⟨id, kind, children⟩ :: Node.blocksOf children

/-- The blocks among and below nodes. -/
def Node.blocksOf : List Node → List Block
  | [] => []
  | .leaf _ :: rest => Node.blocksOf rest
  | .block b :: rest => b.allBlocks ++ Node.blocksOf rest

end

theorem Block.allBlocks_eq (b : Block) : b.allBlocks = b :: Node.blocksOf b.children := by
  cases b
  rfl

@[simp] theorem Block.id_normalize (b : Block) : b.normalize.id = b.id := by
  cases b
  rw [Block.normalize]
  split <;> rfl

@[simp] theorem Block.kind_normalize (b : Block) : b.normalize.kind = b.kind := by
  cases b
  rw [Block.normalize]
  split <;> rfl

/-- The normal form of a block that holds leaves holds leaves. -/
theorem Block.areLeaves_normalize {b : Block} (htext : b.isTextBlock = true)
    (hne : b.children ≠ []) : Node.AreLeaves b.normalize.children ∧ b.normalize.children ≠ [] := by
  obtain ⟨id, kind, children⟩ := b
  have hleaves : Node.AreLeaves children := Node.areLeaves_iff.mpr htext
  obtain ⟨hsame, hkept⟩ :=
    Node.normalizeAll_of_settled children (Node.everywhere_of_areLeaves hleaves)
  rw [Block.normalize, hsame, hkept]
  split
  next =>
    refine ⟨Node.areLeaves_iff.mpr (by simp [Node.isLeaf]), ?_⟩
    rw [Ne, List.map_eq_nil_iff]
    exact (Leaf.areNormal_normalize _).2
  next => exact ⟨hleaves, hne⟩

mutual

/-- A block that holds leaves is still there, in normal form, when the block around it is. -/
theorem Block.mem_allBlocks_normalize {c : Block} (htext : c.isTextBlock = true)
    (hne : c.children ≠ []) : (b : Block) → c ∈ b.allBlocks →
      (Node.block b.normalize).isEmptyList = false ∧ c.normalize ∈ b.normalize.allBlocks
  | ⟨id, kind, children⟩, h => by
    rcases List.mem_cons.mp h with rfl | hbelow
    · obtain ⟨-, hne'⟩ := Block.areLeaves_normalize htext hne
      rw [Node.isEmptyList, List.isEmpty_eq_false_iff.mpr hne', Bool.and_false, Block.allBlocks_eq]
      exact ⟨rfl, List.mem_cons_self⟩
    · obtain ⟨hleaf, hmem⟩ := Node.mem_blocksOf_normalizeAll htext hne children hbelow
      rw [Block.normalize]
      split
      next hcond =>
        rw [Bool.and_eq_true] at hcond
        exact absurd hcond.2 (by rw [hleaf]; exact Bool.false_ne_true)
      next =>
        refine ⟨?_, List.mem_cons_of_mem _ hmem⟩
        rw [Node.isEmptyList, Bool.and_eq_false_iff]
        right
        cases hnil : (Node.normalizeAll children).filter fun n => !n.isEmptyList with
        | nil => rw [hnil] at hleaf; cases hleaf
        | cons => rfl

/-- A block that holds leaves is still there when the nodes around it are in normal form, and so
they are not only leaves. -/
theorem Node.mem_blocksOf_normalizeAll {c : Block} (htext : c.isTextBlock = true)
    (hne : c.children ≠ []) : (ns : List Node) → c ∈ Node.blocksOf ns →
      ((Node.normalizeAll ns).filter fun n => !n.isEmptyList).all Node.isLeaf = false ∧
        c.normalize ∈ Node.blocksOf ((Node.normalizeAll ns).filter fun n => !n.isEmptyList)
  | .leaf _ :: rest, h => by
    obtain ⟨hleaf, hmem⟩ := Node.mem_blocksOf_normalizeAll htext hne rest h
    rw [Node.normalizeAll, List.filter_cons_of_pos (by rfl)]
    exact ⟨hleaf, hmem⟩
  | .block b :: rest, h => by
    rw [Node.normalizeAll, List.filter_cons]
    rcases List.mem_append.mp h with hb | hrest
    · obtain ⟨hkept, hmem⟩ := Block.mem_allBlocks_normalize htext hne b hb
      rw [hkept]
      exact ⟨rfl, List.mem_append_left _ hmem⟩
    · obtain ⟨hleaf, hmem⟩ := Node.mem_blocksOf_normalizeAll htext hne rest hrest
      split
      next => exact ⟨rfl, List.mem_append_right _ hmem⟩
      next => exact ⟨hleaf, hmem⟩

end

/-! ## Documents -/

namespace Document

/-- There is something at the root, only blocks, and all of them are settled. -/
structure Settled (d : Document) : Prop where
  nonempty : d.children ≠ []
  areBlocks : Node.AreBlocks d.children
  blocks : Node.Everywhere Block.Settled d.children

/-- The characters of leaves are the same in paragraphs around them. -/
theorem marked_wrapLeaves (ns : List Node) (next : BlockId) :
    Node.marked (wrapLeaves ns next).1 = Node.marked ns := by
  induction ns with
  | nil => rfl
  | cons n ns ih =>
    cases n with
    | leaf l =>
      rw [wrapLeaves, Node.marked_block, Node.marked_leaf, ih]
      simp
    | block b => rw [wrapLeaves, Node.marked_block, Node.marked_block, ih]

/-- Bringing a document into normal form keeps its characters and their marks. -/
theorem marked_normalize (d : Document) : d.normalize.marked = d.marked := by
  have hsame : Node.marked (wrapLeaves ((Node.normalizeAll d.children).filter fun n =>
      !n.isEmptyList) d.nextId).1 = d.marked :=
    (marked_wrapLeaves _ _).trans (Node.marked_filter_normalizeAll d.children)
  unfold normalize
  dsimp only
  split
  next hnil =>
    rw [hnil] at hsame
    exact hsame
  next => exact hsame

/-- Putting leaves at the root into paragraphs leaves only settled blocks there. -/
theorem settled_wrapLeaves {ns : List Node} (h : Node.Everywhere Block.Settled ns)
    (next : BlockId) : Node.AreBlocks (wrapLeaves ns next).1 ∧
      Node.Everywhere Block.Settled (wrapLeaves ns next).1 := by
  induction ns with
  | nil => exact ⟨fun n hn => absurd hn List.not_mem_nil, trivial⟩
  | cons n ns ih =>
    cases n with
    | leaf l =>
      obtain ⟨hblocks, hsettled⟩ := ih h
      rw [wrapLeaves, Node.areBlocks_cons, Node.everywhere_block]
      exact ⟨⟨rfl, hblocks⟩, ⟨⟨List.cons_ne_nil _ _, fun _ _ => Leaf.areNormal_singleton l⟩,
        trivial⟩, hsettled⟩
    | block b =>
      obtain ⟨hblocks, hsettled⟩ := ih h.2
      rw [wrapLeaves, Node.areBlocks_cons]
      exact ⟨⟨rfl, hblocks⟩, h.1, hsettled⟩

/-- The normal form of any document is settled. -/
theorem settled_normalize (d : Document) : d.normalize.Settled := by
  obtain ⟨hblocks, hsettled⟩ :=
    settled_wrapLeaves (Node.everywhere_settled_normalizeAll d.children) d.nextId
  unfold normalize
  dsimp only
  split
  next =>
    have hparagraph : Block.Settled ⟨(wrapLeaves ((Node.normalizeAll d.children).filter fun n =>
        !n.isEmptyList) d.nextId).2, .paragraph, [.leaf {}]⟩ :=
      ⟨List.cons_ne_nil _ _, fun _ _ => Leaf.areNormal_singleton {}⟩
    exact ⟨List.cons_ne_nil _ _, Node.areBlocks_block, ⟨hparagraph, trivial⟩, trivial⟩
  next hne => exact ⟨hne, hblocks, hsettled⟩

/-- A settled document is its own normal form. -/
theorem Settled.normalize_eq {d : Document} (h : d.Settled) : d.normalize = d := by
  obtain ⟨hsame, hstays⟩ := Node.normalizeAll_of_settled d.children h.blocks
  exact normalize_eq_of_kept ((congrArg _ hsame).trans hstays) h.areBlocks h.nonempty

/-- A block that holds leaves is still there in the normal form. -/
theorem mem_blocksOf_normalize {d : Document} (hd : Node.AreBlocks d.children) {c : Block}
    (htext : c.isTextBlock = true) (hne : c.children ≠ []) (h : c ∈ Node.blocksOf d.children) :
    c.normalize ∈ Node.blocksOf d.normalize.children := by
  obtain ⟨hleaf, hmem⟩ := Node.mem_blocksOf_normalizeAll htext hne d.children h
  have hblocks := Node.areBlocks_filter_normalizeAll hd
  unfold normalize
  dsimp only
  rw [wrapLeaves_of_areBlocks hblocks]
  dsimp only
  split
  next hnil => rw [hnil] at hleaf; cases hleaf
  next => exact hmem

end Document

end BlockNotes
