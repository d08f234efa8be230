import BlockNotes.Proofs.Document.Characters

/-!
# The blocks that hold text

A block *holds* leaves if one of its children is a leaf.  The holders of a tree,
in document order, carry all that is written in it: where every block has only
leaves or only blocks (`Node.Uniform`), the characters of the tree are those of
its holders (`Node.marked_eq_flatMap_holders`).

Putting other blocks in the place of a holder splits the list of holders there
and leaves both sides alone (`Node.exists_holders_replace`).  The blocks above do
not count: they hold only blocks, before and after, even if nothing is left in
them.  So an edit that changes and removes blocks in many places of the tree is
an edit of one list.
-/

namespace BlockNotes

namespace Node

/-! ## Trees with only leaves or only blocks in a place -/

/-- Blocks at the root, and below each block only leaves or only blocks. -/
structure Uniform (ns : List Node) : Prop where
  areBlocks : AreBlocks ns
  homogeneous : Everywhere (fun b => Homogeneous b.children) ns

theorem uniform_nil : Uniform [] :=
  ⟨fun _ hn => absurd hn List.not_mem_nil, trivial⟩

theorem uniform_append {ns ms : List Node} : Uniform (ns ++ ms) ↔ Uniform ns ∧ Uniform ms := by
  constructor
  · rintro ⟨hblocks, hsorts⟩
    rw [areBlocks_append] at hblocks
    rw [everywhere_append] at hsorts
    exact ⟨⟨hblocks.1, hsorts.1⟩, hblocks.2, hsorts.2⟩
  · rintro ⟨hns, hms⟩
    exact ⟨areBlocks_append.mpr ⟨hns.areBlocks, hms.areBlocks⟩,
      everywhere_append.mpr ⟨hns.homogeneous, hms.homogeneous⟩⟩

theorem uniform_block {b : Block} {ns : List Node} : Uniform (.block b :: ns) ↔
    (Homogeneous b.children ∧ Everywhere (fun b => Homogeneous b.children) b.children) ∧
      Uniform ns := by
  constructor
  · rintro ⟨hblocks, hsorts⟩
    rw [areBlocks_cons] at hblocks
    rw [everywhere_block] at hsorts
    exact ⟨hsorts.1, hblocks.2, hsorts.2⟩
  · rintro ⟨hb, hns⟩
    exact ⟨areBlocks_cons.mpr ⟨rfl, hns.areBlocks⟩, everywhere_block.mpr ⟨hb, hns.homogeneous⟩⟩

/-- A block with a leaf holds only leaves. -/
theorem Uniform.areLeaves {ns : List Node} (h : Uniform ns) {path : Path} {b : Block}
    (hb : blockAt? ns path = some b) (hleaf : b.children.any Node.isLeaf = true) :
    AreLeaves b.children := by
  rcases everywhere_iff.mp h.homogeneous path b hb with h | h
  · exact h
  · obtain ⟨n, hn, hleaf⟩ := List.any_eq_true.mp hleaf
    rw [h n hn] at hleaf
    cases hleaf

/-- A block of leaves is uniform. -/
theorem uniform_of_areLeaves {b : Block} (h : AreLeaves b.children) : Uniform [.block b] :=
  uniform_block.mpr ⟨⟨.inl h, everywhere_of_areLeaves h⟩, uniform_nil⟩

/-- A place that holds blocks is below blocks. -/
theorem Focus.areBlocks {ns : List Node} {p : Path} {cs : List Node}
    {put : List Node → List Node} (h : Focus ns p cs put) (hns : Homogeneous ns)
    (hcs : AreBlocks cs) : AreBlocks ns := by
  cases h with
  | here ns => exact hcs
  | step front back b below => exact hns.areBlocks

/-- Where blocks are put in the place of blocks, there are blocks above. -/
theorem Focus.areBlocks_put {ns : List Node} {p : Path} {cs : List Node}
    {put : List Node → List Node} (h : Focus ns p cs put) (hns : Homogeneous ns)
    {new : List Node} (hnew : AreBlocks new) : AreBlocks (put new) := by
  cases h with
  | here ns => exact hnew
  | step front back b below =>
    have hblocks := hns.areBlocks
    rw [areBlocks_append, areBlocks_cons] at hblocks ⊢
    exact ⟨hblocks.1, rfl, hblocks.2.2⟩

/-- Putting blocks in the place of blocks keeps a tree uniform. -/
theorem Focus.uniform_put {ns : List Node} {p : Path} {cs : List Node}
    {put : List Node → List Node} (h : Focus ns p cs put) (hns : Uniform ns) (hcs : AreBlocks cs)
    {new : List Node} (hnew : Uniform new) : Uniform (put new) := by
  induction h with
  | here ns => exact hnew
  | step front back b below ih =>
    rw [uniform_append, uniform_block] at hns ⊢
    obtain ⟨hfront, ⟨hb, hchildren⟩, hback⟩ := hns
    have hput := ih ⟨below.areBlocks hb hcs, hchildren⟩ hcs
    exact ⟨hfront, ⟨.inr hput.areBlocks, hput.homogeneous⟩, hback⟩

/-- What is at the place of a block is uniform. -/
theorem Focus.uniform_children {ns : List Node} {p : Path} {front back : List Node} {b : Block}
    {put : List Node → List Node} (h : Focus ns p (front ++ .block b :: back) put)
    (hns : Uniform ns) : Uniform (front ++ .block b :: back) := by
  generalize hcs : front ++ .block b :: back = cs at h
  induction h with
  | here ns => exact hns
  | step above below c inner ih =>
    rw [uniform_append, uniform_block] at hns
    obtain ⟨-, ⟨hc, hchildren⟩, -⟩ := hns
    refine ih ⟨?_, hchildren⟩ hcs
    generalize c.children = ns at hc inner ⊢
    cases inner with
    | here ns =>
      rw [← hcs] at hc ⊢
      exact hc.areBlocks
    | step => exact hc.areBlocks

/-! ## Holders -/

@[simp] theorem blocksOf_nil : blocksOf [] = [] := rfl

@[simp] theorem blocksOf_leaf (l : Leaf) (ns : List Node) :
    blocksOf (.leaf l :: ns) = blocksOf ns := rfl

@[simp] theorem blocksOf_block (b : Block) (ns : List Node) :
    blocksOf (.block b :: ns) = b :: (blocksOf b.children ++ blocksOf ns) := by
  rw [blocksOf, Block.allBlocks_eq, List.cons_append]

@[simp] theorem blocksOf_append (ns ms : List Node) :
    blocksOf (ns ++ ms) = blocksOf ns ++ blocksOf ms := by
  induction ns with
  | nil => rfl
  | cons n ns ih => cases n <;> simp [ih]

theorem map_id_blocksOf (ns : List Node) : (blocksOf ns).map Block.id = idsOf ns := by
  induction ns using blocksOf.induct (fun b => b.allBlocks.map Block.id = b.ids) with
  | case1 id kind children ih => rw [Block.allBlocks, List.map_cons, ih, Block.ids]
  | case2 => rfl
  | case3 l rest ih => exact ih
  | case4 b rest hb ih => rw [blocksOf, List.map_append, hb, ih, idsOf]

theorem blocksOf_of_areLeaves {ns : List Node} (h : AreLeaves ns) : blocksOf ns = [] := by
  induction ns with
  | nil => rfl
  | cons n ns ih =>
    cases n with
    | leaf l => exact ih h.cons
    | block b => cases h (.block b) List.mem_cons_self

/-- The blocks that hold leaves, in document order. -/
def holders (ns : List Node) : List Block :=
  (blocksOf ns).filter fun b => b.children.any Node.isLeaf

@[simp] theorem holders_nil : holders [] = [] := rfl

@[simp] theorem holders_append (ns ms : List Node) :
    holders (ns ++ ms) = holders ns ++ holders ms := by
  simp [holders]

theorem nodup_map_id_holders {ns : List Node} (h : (idsOf ns).Nodup) :
    ((holders ns).map Block.id).Nodup := by
  rw [← map_id_blocksOf] at h
  exact h.sublist (List.filter_sublist.map Block.id)

/-- A block of leaves is its own only holder. -/
theorem holders_of_areLeaves {b : Block} {ns : List Node} (h : AreLeaves b.children)
    (hne : b.children ≠ []) : holders (.block b :: ns) = b :: holders ns := by
  rw [holders, blocksOf_block, blocksOf_of_areLeaves h, List.nil_append, List.filter_cons,
    h.any_isLeaf hne]
  rfl

/-- A block of blocks is no holder. -/
theorem holders_of_areBlocks {b : Block} {ns : List Node} (h : AreBlocks b.children) :
    holders (.block b :: ns) = holders b.children ++ holders ns := by
  have hany : b.children.any Node.isLeaf = false := by
    rw [List.any_eq_false]
    intro n hn
    rw [h n hn]
    exact Bool.false_ne_true
  rw [holders, blocksOf_block, List.filter_cons, hany, List.filter_append]
  rfl

/-- The characters of blocks, each with its marks. -/
def charsOf (bs : List Block) : List (Char × Marks) :=
  bs.flatMap fun b => marked b.children

@[simp] theorem charsOf_nil : charsOf [] = [] := rfl

@[simp] theorem charsOf_cons (b : Block) (bs : List Block) :
    charsOf (b :: bs) = marked b.children ++ charsOf bs := rfl

@[simp] theorem charsOf_append (bs cs : List Block) : charsOf (bs ++ cs) = charsOf bs ++ charsOf cs :=
  List.flatMap_append

end Node

mutual

theorem Block.charsOf_holders : (b : Block) → Node.Homogeneous b.children →
    Node.Everywhere (fun b => Node.Homogeneous b.children) b.children →
      Node.charsOf (Node.holders [.block b]) = Node.marked b.children
  | ⟨id, kind, children⟩, hb, hbelow => by
    rcases hb with hleaves | hblocks
    · cases children with
      | nil => rfl
      | cons n ns =>
        rw [Node.holders_of_areLeaves hleaves (List.cons_ne_nil _ _)]
        simp
    · rw [Node.holders_of_areBlocks hblocks, Node.charsOf_append,
        Node.charsOf_holders children hblocks hbelow]
      simp

theorem Node.charsOf_holders : (ns : List Node) → Node.AreBlocks ns →
    Node.Everywhere (fun b => Node.Homogeneous b.children) ns →
      Node.charsOf (Node.holders ns) = Node.marked ns
  | [], _, _ => rfl
  | .leaf l :: _, hblocks, _ => by cases hblocks (.leaf l) List.mem_cons_self
  | .block b :: rest, hblocks, hbelow => by
    rw [Node.areBlocks_cons] at hblocks
    rw [Node.everywhere_block] at hbelow
    have hsplit := Node.holders_append [.block b] rest
    rw [List.singleton_append] at hsplit
    rw [hsplit, Node.charsOf_append, Block.charsOf_holders b hbelow.1.1 hbelow.1.2,
      Node.charsOf_holders rest hblocks.2 hbelow.2, Node.marked_block]

end

namespace Node

/-- The characters of a tree are those of the blocks that hold them. -/
theorem marked_eq_charsOf_holders {ns : List Node} (h : Uniform ns) :
    marked ns = charsOf (holders ns) :=
  (charsOf_holders ns h.areBlocks h.homogeneous).symm

/-! ## Counting characters in a tree -/

/-- The number of characters before an offset in the leaf at a path. -/
def charsBefore : List Node → Path → (offset : Nat) → Nat
  | _, [], _ => 0
  | ns, i :: path, offset =>
    (textOf (ns.take i)).length +
      match ns[i]? with
      | some (.leaf l) => l.text.charsBefore offset
      | some (.block b) => charsBefore b.children path offset
      | none => 0

theorem charsBefore_block (front back : List Node) (b : Block) (path : Path) (offset : Nat) :
    charsBefore (front ++ .block b :: back) (front.length :: path) offset =
      (textOf front).length + charsBefore b.children path offset := by
  simp [charsBefore]

/-- Before a position among leaves there are as many characters as before its offset. -/
theorem charsBefore_leaf {ns : List Node} (h : AreLeaves ns) {j offset : Nat} {l : Leaf}
    (hj : ns[j]? = some (.leaf l)) (hoffset : l.text.isBoundary offset = true) :
    charsBefore ns [j] offset = (ownText ns).charsBefore (offsetOf ns j offset) := by
  obtain ⟨front, back, rfl, rfl⟩ := exists_split_of_getElem? hj
  obtain ⟨a, b, hab, rfl⟩ := Text.isBoundary_iff.mp hoffset
  have hfront : AreLeaves front := fun n hn => h n (List.mem_append_left _ hn)
  rw [offsetOf, List.take_left, ← bytes_ownText, ownText_append, ownText, hab,
    Text.charsBefore_append_add, List.append_assoc, Text.charsBefore_append]
  simp [charsBefore, hab, textOf_eq_ownText (areLeaves_iff.mp hfront)]

/-! ## Putting blocks in a place -/

/-- The blocks at a place are a piece of the list of holders, and what is put there comes in the
place of this piece. -/
theorem Focus.exists_holders_put {ns : List Node} {p : Path} {cs : List Node}
    {put : List Node → List Node} (h : Focus ns p cs put) (hns : Uniform ns) (hcs : AreBlocks cs) :
    ∃ xs ys, holders ns = xs ++ holders cs ++ ys ∧
      (∀ i q offset, charsBefore ns (p ++ i :: q) offset =
        (charsOf xs).length + charsBefore cs (i :: q) offset) ∧
      ∀ new, AreBlocks new → holders (put new) = xs ++ holders new ++ ys := by
  induction h with
  | here ns => exact ⟨[], [], by simp, by simp, by simp⟩
  | @step front back b p cs put below ih =>
    rw [uniform_append, uniform_block] at hns
    obtain ⟨hfront, ⟨hb, hchildren⟩, -⟩ := hns
    have hblocks := below.areBlocks hb hcs
    obtain ⟨xs, ys, hholders, hcount, hput⟩ := ih ⟨hblocks, hchildren⟩ hcs
    refine ⟨holders front ++ xs, ys ++ holders back, ?_, ?_, ?_⟩
    · rw [holders_append, holders_of_areBlocks hblocks, hholders]
      simp only [List.append_assoc]
    · intro i q offset
      rw [List.cons_append, charsBefore_block, hcount, charsOf_append, List.length_append,
        ← marked_eq_charsOf_holders hfront, length_marked, Nat.add_assoc]
    · intro new hnew
      -- The block above holds only blocks afterwards, if anything.
      have hput' : AreBlocks (Block.mk b.id b.kind (put new)).children :=
        below.areBlocks_put hb hnew
      rw [holders_append, holders_of_areBlocks hput', hput new hnew]
      simp only [List.append_assoc]

/-- A holder splits the list of holders where it stands, and blocks that are put in its place come
there. -/
theorem exists_holders_replace {ns : List Node} (hns : Uniform ns) {parent : Path}
    {front back : List Node} {b : Block}
    (hcs : childrenAt? ns parent = some (front ++ .block b :: back))
    (hb : AreLeaves b.children) (hne : b.children ≠ []) :
    ∃ xs ys, holders ns = xs ++ b :: ys ∧
      (∀ q offset, charsBefore ns (parent ++ front.length :: q) offset =
        (charsOf xs).length + charsBefore b.children q offset) ∧
      ∀ new, Uniform new → Uniform (setChildren ns parent (front ++ new ++ back)) ∧
        holders (setChildren ns parent (front ++ new ++ back)) = xs ++ holders new ++ ys := by
  have hfocus := focus_setChildren hcs
  have hsiblings : Uniform (front ++ .block b :: back) := hfocus.uniform_children hns
  obtain ⟨xs, ys, hholders, hcount, hput⟩ := hfocus.exists_holders_put hns hsiblings.areBlocks
  have hsplit := uniform_append.mp hsiblings
  have hback : Uniform back := (uniform_block.mp hsplit.2).2
  refine ⟨xs ++ holders front, holders back ++ ys, ?_, ?_, ?_⟩
  · rw [hholders, holders_append, holders_of_areLeaves hb hne]
    simp
  · intro q offset
    rw [hcount, charsBefore_block, charsOf_append, List.length_append,
      ← marked_eq_charsOf_holders hsplit.1, length_marked, Nat.add_assoc]
  · intro new hnew
    have hall : Uniform (front ++ new ++ back) :=
      uniform_append.mpr ⟨uniform_append.mpr ⟨hsplit.1, hnew⟩, hback⟩
    refine ⟨hfocus.uniform_put hns hsiblings.areBlocks hall, ?_⟩
    rw [hput _ hall.areBlocks]
    simp

end Node

end BlockNotes
