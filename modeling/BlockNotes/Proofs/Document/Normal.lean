import BlockNotes.Proofs.Document.Shape
import Mathlib.Data.List.Chain

/-!
# Normal form

The normal form of a tree, as a property, and that `Document.normalize` brings
every shaped tree into it.

*Leaves.*  The leaves of a block are normal if no two neighbours have equal marks
and no leaf is empty unless it is the only one.  `Leaf.normalize` keeps what it
has read in reverse, and both conditions read the same from either end, so they
are the invariant of its loop (`Leaf.AreNormal.append`).

*Blocks.*  The pass over the tree goes from the leaves up.  A list whose children
all went away goes away itself, and any other block that has lost its children
holds no block any more and so gets an empty leaf (`Node.everywhere_isNormal_normalizeAll`).

*Identities.*  Bringing a tree into normal form takes identities away.  It gives
out new ones for leaves at the root and for the block of an empty document
(`Document.numbered_normalize`).
-/

namespace BlockNotes

/-! ## Leaves -/

namespace Leaf

/-- Neighbours have different marks, and an empty leaf is alone. -/
structure AreNormal (ls : List Leaf) : Prop where
  marks_ne : ls.IsChain fun a b => a.marks ≠ b.marks
  alone : ∀ l ∈ ls, l.text = [] → ls = [l]

theorem areNormal_nil : AreNormal [] :=
  ⟨.nil, fun _ hl => absurd hl List.not_mem_nil⟩

theorem areNormal_singleton (l : Leaf) : AreNormal [l] := by
  refine ⟨.singleton l, ?_⟩
  intro k hk _
  rw [List.mem_singleton.mp hk]

/-- The conditions read the same from either end. -/
theorem AreNormal.reverse {ls : List Leaf} (h : AreNormal ls) : AreNormal ls.reverse := by
  refine ⟨?_, ?_⟩
  · rw [List.isChain_reverse]
    exact h.marks_ne.imp fun a b hab => hab.symm
  · intro l hl hempty
    rw [h.alone l (List.mem_reverse.mp hl) hempty]
    rfl

/-- Behind the first of normal leaves no leaf is empty. -/
theorem AreNormal.text_ne {p : Leaf} {rest : List Leaf} (h : AreNormal (p :: rest)) :
    ∀ l ∈ rest, l.text ≠ [] := by
  intro l hl hempty
  have := h.alone l (List.mem_cons_of_mem p hl) hempty
  cases this
  cases hl

/-- Adding a leaf keeps leaves normal. -/
theorem AreNormal.append {ls : List Leaf} (h : AreNormal ls) (l : Leaf) :
    AreNormal (Leaf.append ls l) := by
  cases ls with
  | nil => exact areNormal_singleton l
  | cons p rest =>
    rw [Leaf.append]
    split
    next =>
      -- The joined leaf has the marks of the last one, and is empty only if that was.
      refine ⟨?_, ?_⟩
      · have hchain := h.marks_ne
        cases rest with
        | nil => exact .singleton _
        | cons q rest => rw [List.isChain_cons_cons] at hchain ⊢; exact hchain
      · intro k hk hempty
        rcases List.mem_cons.mp hk with rfl | hk
        · have hp : p.text = [] := (List.append_eq_nil_iff.mp hempty).1
          cases h.alone p List.mem_cons_self hp
          rfl
        · exact absurd hempty (h.text_ne k hk)
    next hjoin =>
      rw [not_or] at hjoin
      split
      next hp =>
        cases h.alone p List.mem_cons_self hp
        exact areNormal_singleton l
      next hp =>
        refine ⟨?_, ?_⟩
        · rw [List.isChain_cons_cons]
          exact ⟨fun heq => hjoin.1 heq.symm, h.marks_ne⟩
        · intro k hk hempty
          rcases List.mem_cons.mp hk with rfl | hk
          · exact absurd hempty hjoin.2
          · rcases List.mem_cons.mp hk with rfl | hk
            · exact absurd hempty hp
            · exact absurd hempty (h.text_ne k hk)

theorem AreNormal.foldl_append {acc : List Leaf} (h : AreNormal acc) (ls : List Leaf) :
    AreNormal (ls.foldl Leaf.append acc) := by
  induction ls generalizing acc with
  | nil => exact h
  | cons l ls ih => exact ih (h.append l)

/-- The normal form of leaves is normal and has a leaf. -/
theorem areNormal_normalize (ls : List Leaf) : AreNormal (normalize ls) ∧ normalize ls ≠ [] := by
  have hmerged := areNormal_nil.foldl_append ls
  unfold normalize
  cases hfold : ls.foldl append [] with
  | nil => exact ⟨areNormal_singleton _, List.cons_ne_nil _ _⟩
  | cons l merged =>
    rw [hfold] at hmerged
    refine ⟨hmerged.reverse, ?_⟩
    rw [Ne, List.reverse_eq_nil_iff]
    exact List.cons_ne_nil _ _

end Leaf

/-! ## Blocks -/

/-- A block in normal form. -/
structure Block.IsNormal (b : Block) : Prop extends Block.Sound b where
  nonempty : b.children ≠ []
  /-- Where it is no list, the leaves are normal. -/
  leaves : b.kind.isList = false → Leaf.AreNormal b.leaves

namespace Node

theorem map_isLeaf_normalizeAll (ns : List Node) :
    (normalizeAll ns).map Node.isLeaf = ns.map Node.isLeaf := by
  induction ns with
  | nil => rfl
  | cons n ns ih =>
    cases n with
    | leaf l => rw [normalizeAll, List.map_cons, List.map_cons, ih]
    | block b =>
      rw [normalizeAll, List.map_cons, List.map_cons, ih]
      rfl

/-- The nodes that are left of a list of nodes in normal form. -/
theorem homogeneous_filter_normalizeAll {ns : List Node} (h : Homogeneous ns) :
    Homogeneous ((normalizeAll ns).filter fun n => !n.isEmptyList) :=
  ((homogeneous_iff_of_map_isLeaf (map_isLeaf_normalizeAll ns)).mpr h).sublist
    List.filter_sublist

theorem areBlocks_filter_normalizeAll {ns : List Node} (h : AreBlocks ns) :
    AreBlocks ((normalizeAll ns).filter fun n => !n.isEmptyList) := by
  intro n hn
  have hall := (areBlocks_iff_of_map_isLeaf (map_isLeaf_normalizeAll ns)).mpr h
  exact hall n (List.mem_of_mem_filter hn)

/-- Leaves put into a block are the leaves of it. -/
theorem filterMap_leaf?_map_leaf (ls : List Leaf) : (ls.map Node.leaf).filterMap Node.leaf? = ls := by
  rw [List.filterMap_map]
  exact List.filterMap_some

/-- Blocks have no leaves among them. -/
theorem filterMap_leaf?_of_areBlocks {ns : List Node} (h : AreBlocks ns) :
    ns.filterMap Node.leaf? = [] := by
  rw [List.filterMap_eq_nil_iff]
  intro n hn
  cases n with
  | leaf l => cases h _ hn
  | block b => rfl

end Node

mutual

/-- The normal form of a sound block is normal all the way down, unless it is an empty list. -/
theorem Block.everywhere_isNormal_normalize : (b : Block) → b.Everywhere Block.Sound →
    (Node.block b.normalize).isEmptyList = false → b.normalize.Everywhere Block.IsNormal
  | ⟨id, kind, children⟩, ⟨hsound, hbelow⟩, hkept => by
    have hnormal := Node.everywhere_isNormal_normalizeAll children hbelow
    have hsort := Node.homogeneous_filter_normalizeAll hsound.homogeneous
    rw [Block.normalize] at hkept ⊢
    generalize (Node.normalizeAll children).filter (fun n => !n.isEmptyList) = cs
      at hnormal hsort hkept ⊢
    split
    next =>
      obtain ⟨hleaves, hne⟩ := Leaf.areNormal_normalize (cs.filterMap Node.leaf?)
      have hall : Node.AreLeaves ((Leaf.normalize (cs.filterMap Node.leaf?)).map .leaf) := by
        intro n hn
        obtain ⟨l, -, rfl⟩ := List.mem_map.mp hn
        rfl
      refine ⟨⟨⟨hsound.canonical, .inl hall⟩, ?_, ?_⟩, Node.everywhere_of_areLeaves hall⟩
      · rw [Ne, List.map_eq_nil_iff]
        exact hne
      · intro _
        rw [Block.leaves, Node.filterMap_leaf?_map_leaf]
        exact hleaves
    next hcond =>
      rw [if_neg hcond] at hkept
      rw [Bool.and_eq_true, Bool.not_eq_true'] at hcond
      refine ⟨⟨⟨hsound.canonical, hsort⟩, ?_, ?_⟩, hnormal⟩
      · rintro rfl
        have hlist : kind.isList = true := by
          cases hkind : kind.isList with
          | true => rfl
          | false => exact absurd ⟨hkind, rfl⟩ hcond
        rw [Node.isEmptyList, hlist] at hkept
        cases hkept
      · intro hlist
        rcases hsort with hall | hall
        · exact absurd ⟨hlist, Node.areLeaves_iff.mp hall⟩ hcond
        · rw [Block.leaves, Node.filterMap_leaf?_of_areBlocks hall]
          exact Leaf.areNormal_nil

/-- The normal forms of sound blocks are normal all the way down, once empty lists are gone. -/
theorem Node.everywhere_isNormal_normalizeAll : (ns : List Node) →
    Node.Everywhere Block.Sound ns → Node.Everywhere Block.IsNormal
      ((Node.normalizeAll ns).filter fun n => !n.isEmptyList)
  | [], _ => trivial
  | .leaf _ :: rest, h => Node.everywhere_isNormal_normalizeAll rest h
  | .block b :: rest, h => by
    have hrest := Node.everywhere_isNormal_normalizeAll rest h.2
    rw [Node.normalizeAll, List.filter_cons]
    split
    next hkept =>
      rw [Bool.not_eq_true'] at hkept
      exact ⟨Block.everywhere_isNormal_normalize b h.1 hkept, hrest⟩
    next => exact hrest

end

mutual

/-- Bringing a block into normal form takes identities away. -/
theorem Block.ids_normalize : (b : Block) → b.normalize.ids.Sublist b.ids
  | ⟨id, kind, children⟩ => by
    have hsub := Node.idsOf_filter_normalizeAll children
    rw [Block.normalize]
    split
    next =>
      rw [Block.ids, Node.idsOf_eq_nil (by simp [Node.isLeaf])]
      exact .cons_cons id (List.nil_sublist _)
    next => exact .cons_cons id hsub

/-- Bringing nodes into normal form takes identities away. -/
theorem Node.idsOf_filter_normalizeAll : (ns : List Node) →
    (Node.idsOf ((Node.normalizeAll ns).filter fun n => !n.isEmptyList)).Sublist (Node.idsOf ns)
  | [] => .slnil
  | .leaf _ :: rest => Node.idsOf_filter_normalizeAll rest
  | .block b :: rest => by
    have hrest := Node.idsOf_filter_normalizeAll rest
    rw [Node.normalizeAll, List.filter_cons]
    split
    next => exact (Block.ids_normalize b).append hrest
    next => exact hrest.trans (List.sublist_append_right _ _)

end

/-! ## Documents -/

/-- The tree of the document is in normal form. -/
structure Document.IsNormal (d : Document) : Prop where
  /-- There is something at the root. -/
  nonempty : d.children ≠ []
  /-- The root holds only blocks. -/
  areBlocks : Node.AreBlocks d.children
  /-- Every block is in normal form. -/
  blocks : Node.Everywhere Block.IsNormal d.children

namespace Document

theorem IsNormal.shaped {d : Document} (h : d.IsNormal) : d.Shaped :=
  ⟨h.areBlocks, h.blocks.mono fun _ hb => hb.toSound⟩

/-- Where the root holds only blocks, none is put around a leaf. -/
theorem wrapLeaves_of_areBlocks {ns : List Node} (h : Node.AreBlocks ns) (next : BlockId) :
    wrapLeaves ns next = (ns, next) := by
  induction ns with
  | nil => rfl
  | cons n ns ih =>
    rw [Node.areBlocks_cons] at h
    cases n with
    | leaf l => cases h.1
    | block b => rw [wrapLeaves, ih h.2]

/-- If there is something at the root and only blocks, once empty lists are gone, nothing else is put
there. -/
theorem normalize_eq_of_kept {d : Document} {ns : List Node}
    (hkept : (Node.normalizeAll d.children).filter (fun n => !n.isEmptyList) = ns)
    (hblocks : Node.AreBlocks ns) (hne : ns ≠ []) : d.normalize = { d with children := ns } := by
  unfold normalize
  dsimp only
  rw [hkept, wrapLeaves_of_areBlocks hblocks]
  split
  next hnil => exact absurd hnil hne
  next => rfl

/-- Each block that is put around a leaf at the root gets a fresh identity. -/
theorem count_idsOf_wrapLeaves (ns : List Node) (next : BlockId) (i : Nat) :
    Nat.le next (wrapLeaves ns next).2 ∧ (Node.idsOf (wrapLeaves ns next).1).count i =
      (Node.idsOf ns).count i + issued next (wrapLeaves ns next).2 i := by
  induction ns with
  | nil => exact ⟨Nat.le_refl _, by simp [wrapLeaves]⟩
  | cons n ns ih =>
    obtain ⟨hle, hcount⟩ := ih
    cases n with
    | leaf l =>
      refine ⟨Nat.le_succ_of_le hle, ?_⟩
      rw [wrapLeaves, ← issued_add hle (Nat.le_succ _), issued_succ]
      simp only [Node.idsOf_block, Node.idsOf_leaf, Node.idsOf_nil, List.count_cons,
        List.nil_append, hcount]
      omega
    | block b =>
      refine ⟨hle, ?_⟩
      rw [wrapLeaves]
      simp only [Node.idsOf_block, List.count_cons, List.count_append, hcount]
      omega

/-- Bringing a document into normal form only gives out fresh identities. -/
theorem numbered_normalize (d : Document) : Numbered d d.normalize := by
  have hsub := Node.idsOf_filter_normalizeAll d.children
  have hwrap := count_idsOf_wrapLeaves
    ((Node.normalizeAll d.children).filter fun n => !n.isEmptyList) d.nextId
  unfold normalize
  dsimp only
  generalize (Node.normalizeAll d.children).filter (fun n => !n.isEmptyList) = cs at hsub hwrap ⊢
  generalize wrapLeaves cs d.nextId = w at hwrap ⊢
  obtain ⟨children, next⟩ := w
  have hle : Nat.le d.nextId next := (hwrap 0).1
  dsimp only at hwrap ⊢
  split
  next =>
    refine ⟨Nat.le_succ_of_le hle, ?_⟩
    intro i
    rw [← issued_add hle (Nat.le_succ next), issued_succ]
    simp only [ids, Node.idsOf_block, Node.idsOf_leaf, Node.idsOf_nil, List.count_cons,
      List.append_nil, List.count_nil]
    omega
  next =>
    refine ⟨hle, ?_⟩
    intro i
    have hcount := hsub.count_le i
    rw [ids, (hwrap i).2]
    exact Nat.add_le_add_right hcount _

/-- The normal form of a shaped document is normal. -/
theorem isNormal_normalize {d : Document} (hd : d.Shaped) : d.normalize.IsNormal := by
  have hnormal := Node.everywhere_isNormal_normalizeAll d.children hd.sound
  have hblocks := Node.areBlocks_filter_normalizeAll hd.areBlocks
  unfold normalize
  dsimp only
  rw [wrapLeaves_of_areBlocks hblocks]
  split
  next =>
    -- Nothing is left, and the document gets an empty paragraph.
    have hleaf : Node.AreLeaves [.leaf {}] := by
      intro n hn
      rw [List.mem_singleton.mp hn]
      rfl
    refine ⟨List.cons_ne_nil _ _, Node.areBlocks_block, ⟨⟨?_, ?_, ?_⟩, trivial⟩, trivial⟩
    · exact ⟨trivial, .inl hleaf⟩
    · exact List.cons_ne_nil _ _
    · intro _
      exact Leaf.areNormal_singleton {}
  next hne => exact ⟨hne, hblocks, hnormal⟩

end Document

end BlockNotes
