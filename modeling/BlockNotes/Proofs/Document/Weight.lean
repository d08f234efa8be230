import BlockNotes.Proofs.Document.Characters
import BlockNotes.Proofs.Document.Structural

/-!
# The weight of a tree

A *scale* says what a byte of text and a block of each kind weigh, and a tree weighs as much
as all that is in it.  With the right scale this is the number of bytes of a document, of
its blocks or of its lists.

What is put at a place comes to the weight of the tree and what was there goes from it
(`Node.weigh_setChildren`).  So the edits that take something away are followed on all
scales at once: the document becomes *lighter* (`Document.Lighter`), and where more is
known of what goes away, its weight is the difference.  A deletion cuts a text in two and
puts one part elsewhere, and even there nothing is weighed twice
(`EditM.answers_deleteRange_lighter`).

The normal form weighs no more (`Document.weigh_normalize_le`), with one exception.  Where
nothing is left, there comes a paragraph.
-/

namespace BlockNotes

/-- What a byte of text and a block of a kind weigh. -/
structure Scale where
  /-- The weight of a byte. -/
  byte : Nat
  /-- The weight of a block, without what it holds. -/
  block : Kind → Nat

mutual

/-- The weight of a block with all that is below it. -/
def Block.weigh (s : Scale) : Block → Nat
  | ⟨_, kind, children⟩ => s.block kind + Node.weigh s children

/-- The weight of nodes. -/
def Node.weigh (s : Scale) : List Node → Nat
  | [] => 0
  | .leaf l :: rest => s.byte * l.size + Node.weigh s rest
  | .block b :: rest => b.weigh s + Node.weigh s rest

end

/-- The weight of a document. -/
def Document.weigh (s : Scale) (d : Document) : Nat := Node.weigh s d.children

variable {s : Scale}

theorem Block.weigh_eq (b : Block) : b.weigh s = s.block b.kind + Node.weigh s b.children := by
  cases b
  rfl

namespace Node

@[simp] theorem weigh_nil : weigh s [] = 0 := rfl

@[simp] theorem weigh_leaf (l : Leaf) (ns : List Node) :
    weigh s (.leaf l :: ns) = s.byte * l.size + weigh s ns := rfl

@[simp] theorem weigh_block (b : Block) (ns : List Node) :
    weigh s (.block b :: ns) = s.block b.kind + weigh s b.children + weigh s ns := by
  rw [weigh, Block.weigh_eq]

@[simp] theorem weigh_append (ns ms : List Node) :
    weigh s (ns ++ ms) = weigh s ns + weigh s ms := by
  induction ns with
  | nil => simp
  | cons n ns ih => cases n <;> simp [ih, Nat.add_assoc]

theorem weigh_sublist {ms ns : List Node} (h : ms.Sublist ns) : weigh s ms ≤ weigh s ns := by
  induction h with
  | slnil => exact Nat.le_refl _
  | cons n h ih => cases n <;> simp only [weigh_leaf, weigh_block] <;> omega
  | cons_cons n h ih => cases n <;> simp only [weigh_leaf, weigh_block] <;> omega

/-- Leaves weigh as much as their text. -/
theorem weigh_of_areLeaves {ns : List Node} (h : AreLeaves ns) :
    weigh s ns = s.byte * Text.bytes (textOf ns) := by
  induction ns with
  | nil => rfl
  | cons n ns ih =>
    have hrest := ih fun m hm => h m (List.mem_cons_of_mem _ hm)
    cases n with
    | leaf l => rw [weigh_leaf, textOf, Text.bytes_append, Nat.mul_add, hrest, Leaf.size]
    | block b => cases h _ List.mem_cons_self

/-! ## At a place -/

theorem Focus.weigh_put {ns : List Node} {p : Path} {cs : List Node}
    {put : List Node → List Node} (h : Focus ns p cs put) (new : List Node) :
    weigh s (put new) + weigh s cs = weigh s ns + weigh s new := by
  induction h with
  | here ns => exact Nat.add_comm _ _
  | step front back b below ih =>
    simp only [weigh_append, weigh_block]
    omega

/-- What is put at a place comes to the weight, and what was there goes from it. -/
theorem weigh_setChildren {ns : List Node} {p : Path} {cs : List Node}
    (h : childrenAt? ns p = some cs) (new : List Node) :
    weigh s (setChildren ns p new) + weigh s cs = weigh s ns + weigh s new :=
  (focus_setChildren h).weigh_put new

/-- A tree weighs no less than a block in it. -/
theorem weigh_le_of_blockAt? {ns : List Node} {p : Path} {b : Block}
    (h : blockAt? ns p = some b) : b.weigh s ≤ weigh s ns := by
  obtain ⟨parent, front, back, -, hcs⟩ := exists_siblings_of_blockAt? h
  have hput := weigh_setChildren (s := s) hcs []
  rw [weigh_append, weigh_block, weigh_nil] at hput
  rw [Block.weigh_eq]
  omega

/-- Where blocks are put among blocks at the root or anywhere below, there are still only blocks at
the root. -/
theorem areBlocks_setChildren {ns : List Node} (hns : AreBlocks ns) {p : Path} {cs new : List Node}
    (h : childrenAt? ns p = some cs) (hroot : p = [] → AreBlocks new) :
    AreBlocks (setChildren ns p new) := by
  have hfocus := focus_setChildren h
  generalize setChildren ns p = put at hfocus
  cases hfocus with
  | here => exact hroot rfl
  | step front back b below =>
    rw [areBlocks_append, areBlocks_cons] at hns ⊢
    exact ⟨hns.1, rfl, hns.2.2⟩

/-! ## Cuts -/

/-- Trees with the same blocks in the same places differ by the leaves next to them. -/
theorem weigh_of_map_block? {ns ms : List Node} (h : ms.map Node.block? = ns.map Node.block?) :
    weigh s ms + s.byte * size ns = weigh s ns + s.byte * size ms := by
  induction ms generalizing ns with
  | nil =>
    cases ns with
    | nil => rfl
    | cons n ns => cases h
  | cons m ms ih =>
    cases ns with
    | nil => cases h
    | cons n ns =>
      simp only [List.map_cons, List.cons.injEq] at h
      have hrest := ih h.2
      cases m with
      | leaf l =>
        cases n with
        | leaf l' =>
          simp only [weigh_leaf, size, Nat.mul_add]
          omega
        | block b => cases h.1
      | block b =>
        cases n with
        | leaf l => cases h.1
        | block b' =>
          cases h.1
          simp only [weigh_block, size]
          omega

/-- Deleting takes as many bytes away as lie between the two offsets. -/
theorem size_eraseText? {ns ms : List Node} {start stop : Nat}
    (h : eraseText? start stop ns = some ms) :
    size ms + (min stop (size ns) - min start (size ns)) = size ns := by
  induction ns generalizing ms start stop with
  | nil =>
    cases h
    simp [size]
  | cons n ns ih =>
    cases n with
    | leaf l =>
      rw [eraseText?_leaf] at h
      obtain ⟨text, htext, h⟩ := Option.bind_eq_some_iff.mp h
      obtain ⟨rest, hrest, rfl⟩ := Option.map_eq_some_iff.mp h
      have hleaf : Text.bytes text + (min stop l.size - min start l.size) = l.size := by
        split at htext
        next hlt => exact Text.bytes_erase? htext
        next hge =>
          cases htext
          rw [Nat.sub_eq_zero_of_le (Nat.le_of_not_lt hge), Leaf.size, Nat.add_zero]
      have hbelow := ih hrest
      simp only [size] at hbelow ⊢
      simp only [Leaf.size] at hleaf hbelow ⊢
      omega
    | block b =>
      rw [eraseText?_block] at h
      obtain ⟨rest, hrest, rfl⟩ := Option.map_eq_some_iff.mp h
      simpa only [size] using ih hrest

theorem weigh_eraseText?_le {ns ms : List Node} {start stop : Nat}
    (h : eraseText? start stop ns = some ms) : weigh s ms ≤ weigh s ns := by
  have hblocks := weigh_of_map_block? (s := s) (map_block?_eraseText? h)
  have hsize : size ms ≤ size ns := by
    have := size_eraseText? h
    omega
  have := Nat.mul_le_mul_left s.byte hsize
  omega

/-- A cut divides the weight. -/
theorem weigh_splitLeaves? {ns front back : List Node} {offset : Nat}
    (h : splitLeaves? ns offset = some (front, back)) :
    weigh s front + weigh s back = weigh s ns := by
  unfold splitLeaves? at h
  dsimp only at h
  split at h
  next l hl =>
    obtain ⟨⟨a, b⟩, hcut, h⟩ := Option.bind_eq_some_iff.mp h
    cases h
    obtain ⟨before, after, rfl, hlength⟩ := exists_split_of_getElem? hl
    have hsize : s.byte * l.size = s.byte * Text.bytes a + s.byte * Text.bytes b := by
      rw [Leaf.size, ← Text.append_of_splitAt? hcut, Text.bytes_append, Nat.mul_add]
    rw [← hlength, List.take_left, List.drop_length_add_append, List.drop_succ_cons, List.drop_zero]
    simp only [weigh_append, weigh_leaf, weigh_nil, hsize]
    simp only [Leaf.size]
    omega
  next =>
    cases h
    rw [← weigh_append, List.take_append_drop]

end Node

/-! ## Normal form -/

namespace Node

/-- Leaves with the same characters weigh the same. -/
theorem weigh_eq_of_marked {ns ms : List Node} (hns : AreLeaves ns) (hms : AreLeaves ms)
    (h : marked ms = marked ns) : weigh s ms = weigh s ns := by
  rw [weigh_of_areLeaves hms, weigh_of_areLeaves hns, ← map_fst_marked, ← map_fst_marked, h]

end Node

mutual

theorem Block.weigh_normalize_le : (b : Block) → b.normalize.weigh s ≤ b.weigh s
  | ⟨id, kind, children⟩ => by
    have hbelow := Node.weigh_filter_normalizeAll_le children
    rw [Block.normalize]
    generalize (Node.normalizeAll children).filter (fun n => !n.isEmptyList) = cs at hbelow ⊢
    split
    next hcond =>
      rw [Bool.and_eq_true] at hcond
      have hleaves := Node.areLeaves_iff.mpr hcond.2
      have hsame : Node.weigh s ((Leaf.normalize (cs.filterMap Node.leaf?)).map .leaf) =
          Node.weigh s cs := by
        refine Node.weigh_eq_of_marked hleaves (Node.areLeaves_iff.mpr (by simp [Node.isLeaf])) ?_
        rw [Node.marked_map_leaf, Leaf.marked_normalize, Node.marked_of_areLeaves hleaves]
      rw [Block.weigh_eq, Block.weigh_eq, hsame]
      exact Nat.add_le_add_left hbelow _
    next => exact Nat.add_le_add_left hbelow _

theorem Node.weigh_filter_normalizeAll_le : (ns : List Node) →
    Node.weigh s ((Node.normalizeAll ns).filter fun n => !n.isEmptyList) ≤ Node.weigh s ns
  | [] => Nat.le_refl _
  | .leaf l :: rest => by
    rw [Node.normalizeAll, List.filter_cons_of_pos (by rfl)]
    exact Nat.add_le_add_left (Node.weigh_filter_normalizeAll_le rest) _
  | .block b :: rest => by
    have hb := Block.weigh_normalize_le b
    have hrest := Node.weigh_filter_normalizeAll_le rest
    rw [Node.normalizeAll, List.filter_cons]
    split
    next => exact Nat.add_le_add hb hrest
    next => exact Nat.le_trans hrest (Nat.le_add_left _ _)

end

namespace Document

variable {d d' d'' : Document}

/-- The normal form of a document of blocks weighs no more, but there is always a paragraph. -/
theorem weigh_normalize_le (h : Node.AreBlocks d.children) :
    d.normalize.weigh s ≤ max (d.weigh s) (s.block .paragraph) := by
  have hle : Node.weigh s _ ≤ d.weigh s := Node.weigh_filter_normalizeAll_le d.children
  unfold normalize
  dsimp only
  rw [wrapLeaves_of_areBlocks (Node.areBlocks_filter_normalizeAll h)]
  dsimp only
  split
  next =>
    refine Nat.le_trans ?_ (Nat.le_max_right _ _)
    simp [weigh, Leaf.size]
  next => exact Nat.le_trans hle (Nat.le_max_left _ _)

/-! ## Lighter documents -/

/-- A document weighs no more than before on any scale, and if there were only blocks at the root
then there are only blocks. -/
structure Lighter (d d' : Document) : Prop where
  weigh_le : ∀ s, d'.weigh s ≤ d.weigh s
  areBlocks : Node.AreBlocks d.children → Node.AreBlocks d'.children

theorem Lighter.refl (d : Document) : Lighter d d :=
  ⟨fun _ => Nat.le_refl _, fun h => h⟩

theorem Lighter.trans (h : Lighter d d') (h' : Lighter d' d'') : Lighter d d'' :=
  ⟨fun s => Nat.le_trans (h'.weigh_le s) (h.weigh_le s), fun hd => h'.areBlocks (h.areBlocks hd)⟩

/-- Leaving out children. -/
theorem Lighter.sublist {p : Path} {cs new : List Node}
    (hcs : Node.childrenAt? d.children p = some cs) (h : new.Sublist cs) :
    Lighter d { d with children := Node.setChildren d.children p new } := by
  refine ⟨?_, ?_⟩
  · intro s
    have hput := Node.weigh_setChildren (s := s) hcs new
    have hle := Node.weigh_sublist (s := s) h
    simp only [weigh]
    omega
  · intro hd
    refine Node.areBlocks_setChildren hd hcs ?_
    rintro rfl n hn
    cases hcs
    exact hd n (h.subset hn)

/-! ### In the place of a block -/

variable {path : Path} {b : Block} {new : List Node} {next : BlockId}

/-- Putting other children into a block. -/
theorem weigh_putChildren (hb : d.blockAt? path = some b) (new : List Node) :
    Node.weigh s (Node.setChildren d.children path new) + Node.weigh s b.children =
      d.weigh s + Node.weigh s new :=
  Node.weigh_setChildren (Node.childrenAt?_of_blockAt? hb) new

theorem areBlocks_putChildren (hb : d.blockAt? path = some b) (hd : Node.AreBlocks d.children)
    (new : List Node) : Node.AreBlocks (Node.setChildren d.children path new) := by
  refine Node.areBlocks_setChildren hd (Node.childrenAt?_of_blockAt? hb) ?_
  rintro rfl
  cases hb

/-- The nodes that come in the place of a block come to the weight, and the block goes from it. -/
theorem Exchanged.weigh_add (h : d.Exchanged path b new next d') (s : Scale) :
    d'.weigh s + b.weigh s = d.weigh s + Node.weigh s new := by
  obtain ⟨parent, front, back, -, hcs, rfl⟩ := h
  have hput := Node.weigh_setChildren (s := s) hcs (front ++ new ++ back)
  simp only [weigh, Block.weigh_eq, Node.weigh_append, Node.weigh_block] at hput ⊢
  omega

theorem Exchanged.areBlocks (h : d.Exchanged path b new next d') (hd : Node.AreBlocks d.children)
    (hnew : Node.AreBlocks new) : Node.AreBlocks d'.children := by
  obtain ⟨parent, front, back, -, hcs, rfl⟩ := h
  refine Node.areBlocks_setChildren hd hcs ?_
  rintro rfl
  have hsiblings : d.children = front ++ .block b :: back := Option.some.inj hcs
  rw [hsiblings, Node.areBlocks_append, Node.areBlocks_cons] at hd
  rw [Node.areBlocks_append, Node.areBlocks_append]
  exact ⟨⟨hd.1, hnew⟩, hd.2.2⟩

end Document

namespace EditM

variable {d : Document} {path : Path} {b : Block}

theorem answers_removeNode_lighter (path : Path) :
    Answers (removeNode path) d fun _ => d.Lighter := by
  unfold removeNode
  refine .get ?_
  split
  next => exact .pure (.refl d)
  next parent index hpath =>
    split
    next => exact .pure (.refl d)
    next cs hcs =>
      split
      next => exact .modify (.pure (.sublist hcs (List.eraseIdx_sublist cs index)))
      next => exact .pure (.refl d)

theorem answers_removeNodes_lighter (xs : List (Path × Block)) :
    Answers (xs.forM fun (path, _) => removeNode path) d fun _ => d.Lighter := by
  induction xs generalizing d with
  | nil => exact .pure (.refl d)
  | cons x xs ih =>
    refine (answers_removeNode_lighter x.1).bind ?_
    intro _ d' hd'
    exact ih.mono fun _ d'' hd'' => hd'.trans hd''

/-- Where there is a block, exactly this block is removed. -/
theorem certain_removeNode_exchanged (hb : d.blockAt? path = some b) :
    Certain (removeNode path) d fun _ => d.Exchanged path b [] d.nextId := by
  obtain ⟨parent, front, back, rfl, hcs⟩ := Node.exists_siblings_of_blockAt? hb
  have herase : (front ++ .block b :: back).eraseIdx front.length = front ++ [] ++ back := by
    simp [List.eraseIdx_append_of_length_le]
  unfold removeNode
  refine .get ?_
  simp only [Path.split?_concat, hcs]
  rw [if_pos (by simp), herase]
  exact .modify (.pure ⟨parent, front, back, rfl, hcs, rfl⟩)

/-- The children of a block change, and they may take in some others. -/
theorem answers_editChildren_lighter {id : BlockId} {f : Block → Option (List Node)}
    (tail : List Node) (hf : ∀ b ns, f b = some ns →
      ∀ s, Node.weigh s ns ≤ Node.weigh s b.children + Node.weigh s tail) :
    Answers (editChildren id f) d fun _ d' =>
      (∀ s, d'.weigh s ≤ d.weigh s + Node.weigh s tail) ∧
        (Node.AreBlocks d.children → Node.AreBlocks d'.children) := by
  have hsame : (∀ s, d.weigh s ≤ d.weigh s + Node.weigh s tail) ∧
      (Node.AreBlocks d.children → Node.AreBlocks d.children) :=
    ⟨fun _ => Nat.le_add_right _ _, fun h => h⟩
  unfold editChildren
  refine .get ?_
  split
  next => exact .pure hsame
  next path _ =>
    split
    next => exact .pure hsame
    next b hb =>
      refine .orLost ?_
      intro ns hns
      refine .modify (.pure ⟨?_, fun hd => Document.areBlocks_putChildren hb hd ns⟩)
      intro s
      have hput := Document.weigh_putChildren (s := s) hb ns
      have hle := hf b ns hns s
      rw [Document.weigh]
      dsimp only
      omega

/-- The end of a deletion between two blocks, from a document that has given its tail away: the
block at the start gives a part away and takes the tail. -/
theorem answers_joinAndRemove_lighter {d₀ : Document} {tail : List Node}
    (hcut : ∀ s, d.weigh s + Node.weigh s tail = d₀.weigh s)
    (hblocks : Node.AreBlocks d₀.children → Node.AreBlocks d.children) (id : BlockId) (start : Nat)
    (xs : List (Path × Block)) {a : BlockPoint × List BlockId} (ha : a.2 ≠ []) :
    Answers
      (do
        editChildren id fun b =>
          (Node.eraseText? start (Node.size b.children) b.children).map fun ns =>
            if b.kind.isVoid then ns else ns ++ tail
        xs.forM fun (path, _) => removeNode path
        pure a)
      d fun x d' => x.2 ≠ [] ∧ d₀.Lighter d' := by
  refine (answers_editChildren_lighter tail ?_).bind ?_
  · intro b ns hns s
    obtain ⟨ms, hms, rfl⟩ := Option.map_eq_some_iff.mp hns
    have hle := Node.weigh_eraseText?_le (s := s) hms
    split
    next => exact Nat.le_add_right_of_le hle
    next =>
      rw [Node.weigh_append]
      exact Nat.add_le_add_right hle _
  · rintro _ d₁ ⟨hle, hblocks'⟩
    refine (answers_removeNodes_lighter xs).bind ?_
    intro _ d' hd'
    refine .pure ⟨ha, ?_, fun hd => hd'.areBlocks (hblocks' (hblocks hd))⟩
    intro s
    have h := hle s
    rw [hcut s] at h
    exact Nat.le_trans (hd'.weigh_le s) h

/-- A deletion names blocks and makes the document lighter. -/
theorem answers_deleteRange_lighter (r : Range) :
    Answers (deleteRange r) d fun x d' => x.2 ≠ [] ∧ d.Lighter d' := by
  unfold deleteRange
  refine .get (.ofExcept ?_)
  intro start _
  refine .ofExcept ?_
  intro stop _
  split
  next =>
    refine (answers_editChildren_lighter [] ?_).bind ?_
    · intro b ns hns s
      exact Nat.le_add_right_of_le (Node.weigh_eraseText?_le hns)
    · rintro _ d' ⟨hle, hblocks⟩
      exact .pure ⟨List.cons_ne_nil _ _, hle, hblocks⟩
  next =>
    -- Where the block at the end is not found, there is no tail.
    have hnothing : ∀ s, d.weigh s + Node.weigh s [] = d.weigh s := fun _ => Nat.add_zero _
    dsimp only
    split
    next first last _ _ =>
      split
      next => exact .throw
      next =>
        split
        next =>
          exact answers_joinAndRemove_lighter hnothing id _ _ _ (List.cons_ne_nil _ _)
        next path _ =>
          split
          next =>
            exact answers_joinAndRemove_lighter hnothing id _ _ _ (List.cons_ne_nil _ _)
          next b hb =>
            refine .orLost ?_
            rintro ⟨front, back⟩ hsplit
            refine .modify (answers_joinAndRemove_lighter ?_
              (fun hd => Document.areBlocks_putChildren hb hd front) _ _ _ (List.cons_ne_nil _ _))
            intro s
            have hput := Document.weigh_putChildren (s := s) hb front
            have hcut := Node.weigh_splitLeaves? (s := s) hsplit
            rw [Document.weigh]
            dsimp only
            omega
    next => exact .throw

end EditM

end BlockNotes
