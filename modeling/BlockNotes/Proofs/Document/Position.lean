import BlockNotes.Proofs.Document.Deletion
import BlockNotes.Proofs.Document.Settled

/-!
# Positions

A point *addresses* a place in a document if it is in a leaf, at a boundary of
its text.  These are exactly the points that have a block point
(`Document.addresses_iff`).

Between points and block points one can go back and forth.  A block point whose
block holds leaves is resolved to a point that has this block point again
(`Document.exists_resolve?`).  In a settled document every text block holds
leaves, so there whatever is resolved addresses a place
(`Document.addresses_of_resolve?`), and so does the first position.
-/

namespace BlockNotes

/-! ## Locating an offset -/

namespace Node

/-- A boundary is located in a leaf, and the offset of that place is the boundary. -/
theorem exists_locateFrom {ns : List Node} {offset : Nat} (k : Nat) (last : Nat × Nat)
    (h : (ownText ns).isBoundary offset = true) (hleaf : 0 < offset ∨ ns.any Node.isLeaf = true) :
    ∃ j l n, locateFrom k last offset ns = (k + j, n) ∧ ns[j]? = some (.leaf l) ∧
      l.text.isBoundary n = true ∧ size (ns.take j) + n = offset := by
  induction ns generalizing k last offset with
  | nil =>
    have hzero : offset = 0 := Nat.le_zero.mp (Text.le_bytes_of_isBoundary h)
    rw [hzero] at hleaf
    simp at hleaf
  | cons n ns ih =>
    cases n with
    | leaf l =>
      rw [locateFrom]
      split
      next hle =>
        refine ⟨0, l, offset, rfl, rfl, (Text.isBoundary_append_left hle).mp h, ?_⟩
        exact Nat.zero_add offset
      next hlt =>
        obtain ⟨j, l', m, hloc, hj, hm, hsum⟩ :=
          ih (k + 1) (k, l.size) (Text.isBoundary_sub_of_append h)
            (.inl (Nat.sub_pos_of_lt (Nat.lt_of_not_le hlt)))
        have hsize : l.size = Text.bytes l.text := rfl
        refine ⟨j + 1, l', m, ?_, by simpa using hj, hm, ?_⟩
        · exact hloc.trans (by rw [Nat.add_assoc, Nat.add_comm 1])
        · rw [List.take_succ_cons, size]
          omega
    | block b =>
      rw [locateFrom]
      have hleaf' : 0 < offset ∨ ns.any Node.isLeaf = true :=
        hleaf.imp_right fun hany => by simpa [Node.isLeaf] using hany
      obtain ⟨j, l', m, hloc, hj, hm, hsum⟩ := ih (k + 1) last h hleaf'
      refine ⟨j + 1, l', m, ?_, by simpa using hj, hm, ?_⟩
      · exact hloc.trans (by rw [Nat.add_assoc, Nat.add_comm 1])
      · rw [List.take_succ_cons, size]
        exact hsum

theorem exists_locate {ns : List Node} {offset : Nat} (h : (ownText ns).isBoundary offset = true)
    (hleaf : ns.any Node.isLeaf = true) :
    ∃ j l n, locate ns offset = (j, n) ∧ ns[j]? = some (.leaf l) ∧ l.text.isBoundary n = true ∧
      offsetOf ns j n = offset := by
  obtain ⟨j, l, n, hloc, hj, hn, hsum⟩ := exists_locateFrom 0 (0, 0) h (.inr hleaf)
  rw [Nat.zero_add] at hloc
  exact ⟨j, l, n, hloc, hj, hn, hsum⟩

/-- Of two positions in leaves of one block the earlier one has the smaller offset in the block. -/
theorem offsetOf_le_of_le {ns : List Node} {path : Path} {p q : Point} {i j : Nat} {l : Leaf}
    (hp : p.path = path ++ [i]) (hl : ns[i]? = some (.leaf l))
    (hoffset : l.text.isBoundary p.offset = true) (hq : q.path = path ++ [j]) (h : p ≤ q) :
    offsetOf ns i p.offset ≤ offsetOf ns j q.offset := by
  obtain ⟨front, back, rfl, rfl⟩ := exists_split_of_getElem? hl
  have hnot : ¬ q < p := h
  have hle : front.length ≤ j := by
    by_contra hlt
    refine hnot (.inl ?_)
    rw [hp, hq]
    exact List.append_left_lt (List.cons_lt_cons_iff.mpr (.inl (Nat.lt_of_not_le hlt)))
  obtain ⟨k, rfl⟩ := Nat.exists_eq_add_of_le hle
  cases k with
  | zero =>
    -- Both are in the same leaf.
    have hsame : p.path = q.path := by rw [hp, hq, Nat.add_zero]
    have hoffsets : p.offset ≤ q.offset := by
      by_contra hlt
      exact hnot (.inr ⟨hsame.symm, Nat.lt_of_not_le hlt⟩)
    exact Nat.add_le_add_left hoffsets _
  | succ k =>
    have hend : p.offset ≤ l.text.bytes := Text.le_bytes_of_isBoundary hoffset
    simp only [offsetOf, ← bytes_ownText, List.take_left, List.take_length_add_append,
      List.take_succ_cons, ownText_append, ownText, Text.bytes_append]
    omega

end Node

namespace Document

variable {d : Document}

/-! ## Points -/

/-- A point is in a leaf, at a boundary of its text. -/
def Addresses (d : Document) (p : Point) : Prop :=
  ∃ path index b l, p.path = path ++ [index] ∧ d.blockAt? path = some b ∧
    b.children[index]? = some (.leaf l) ∧ p.offset ≤ l.size ∧ l.text.isBoundary p.offset = true

theorem blockPoint_concat {path : Path} {index offset : Nat} {b : Block} {l : Leaf}
    (hb : d.blockAt? path = some b) (hl : b.children[index]? = some (.leaf l))
    (hoffset : l.text.isBoundary offset = true) :
    d.blockPoint ⟨path ++ [index], offset⟩ = .ok ⟨b.id, Node.offsetOf b.children index offset⟩ := by
  simp only [blockPoint, Path.split?_concat, hb, hl, hoffset, if_true]

/-- A point addresses a place exactly if it has a block point. -/
theorem addresses_iff {p : Point} : d.Addresses p ↔ ∃ q, d.blockPoint p = .ok q := by
  constructor
  · rintro ⟨path, index, b, l, hpath, hb, hl, -, hoffset⟩
    obtain ⟨path', offset⟩ := p
    cases hpath
    exact ⟨_, blockPoint_concat hb hl hoffset⟩
  · rintro ⟨q, h⟩
    unfold blockPoint at h
    split at h
    next => cases h
    next parent index hsplit =>
      split at h
      next => cases h
      next b hb =>
        split at h
        next l hl =>
          split at h
          next hoffset =>
            exact ⟨parent, index, b, l, Path.eq_concat_of_split? hsplit, hb, hl,
              Text.le_bytes_of_isBoundary hoffset, hoffset⟩
          next => cases h
        next => cases h

/-- The block with the cursor is the one above the anchor. -/
theorem currentBlock?_concat {s : Range} (hs : d.selection = some s) {path : Path} {index : Nat}
    (hpath : s.anchor.path = path ++ [index]) {b : Block} (hb : d.blockAt? path = some b) :
    d.currentBlock? = some (path, b) := by
  rw [currentBlock?, hs, Option.bind_some, blockAbove?, hpath, Path.split?_concat]
  simp only [Option.bind_eq_bind, Option.bind_some, hb]

theorem block?_eq (hd : d.ids.Nodup) {path : Path} {b : Block} (hb : d.blockAt? path = some b) :
    d.block? b.id = some b := by
  rw [block?, findPath?_of_blockAt? hd hb, Option.bind_some, hb]

/-- A point with a block point is in a leaf of the block. -/
theorem exists_leaf_of_blockPoint {p : Point} {r : BlockPoint} (h : d.blockPoint p = .ok r) :
    ∃ path index b l, p.path = path ++ [index] ∧ d.blockAt? path = some b ∧
      b.children[index]? = some (.leaf l) ∧ l.text.isBoundary p.offset = true ∧
      r = ⟨b.id, Node.offsetOf b.children index p.offset⟩ := by
  obtain ⟨path, index, b, l, hpath, hb, hl, -, hoffset⟩ := addresses_iff.mpr ⟨r, h⟩
  refine ⟨path, index, b, l, hpath, hb, hl, hoffset, ?_⟩
  have hpoint := blockPoint_concat hb hl hoffset
  rw [← hpath] at hpoint
  exact Except.ok.inj (h.symm.trans hpoint)

/-- Of two points in one block the earlier one has the smaller offset. -/
theorem offset_le_of_le (hd : d.ids.Nodup) {p q : Point} {r t : BlockPoint}
    (hp : d.blockPoint p = .ok r) (hq : d.blockPoint q = .ok t) (hblock : r.block = t.block)
    (h : p ≤ q) : r.offset ≤ t.offset := by
  obtain ⟨path, i, b, l, hpath, hb, hl, hoffset, rfl⟩ := exists_leaf_of_blockPoint hp
  obtain ⟨path', j, c, k, hpath', hc, -, -, rfl⟩ := exists_leaf_of_blockPoint hq
  obtain ⟨rfl, rfl⟩ := eq_of_id_eq hd hb hc hblock
  exact Node.offsetOf_le_of_le hpath hl hoffset hpath' h

/-! ## Resolving block points -/

/-- An offset that is located in a block gives the block point that it came from. -/
theorem blockPoint_locate {path : Path} {b : Block} {n : Nat} (hb : d.blockAt? path = some b)
    (hleaf : b.children.any Node.isLeaf = true)
    (hn : (Node.ownText b.children).isBoundary n = true) :
    d.blockPoint ⟨path ++ [(Node.locate b.children n).1], (Node.locate b.children n).2⟩ =
      .ok ⟨b.id, n⟩ := by
  obtain ⟨j, l, m, hloc, hj, hm, hsum⟩ := Node.exists_locate hn hleaf
  rw [hloc, blockPoint_concat hb hj hm, hsum]

/-- What is resolved in a block that holds leaves has a block point in this block. -/
theorem exists_of_resolve? {p : BlockPoint} {q : Point} (h : d.resolve? p = some q) :
    ∃ path b, d.blockAt? path = some b ∧ b.id = p.block ∧ b.isTextBlock = true ∧
      (b.children ≠ [] → ∃ n, d.blockPoint q = .ok ⟨b.id, n⟩) := by
  obtain ⟨path, hpath, h⟩ := Option.bind_eq_some_iff.mp h
  obtain ⟨b, hb, h⟩ := Option.bind_eq_some_iff.mp h
  obtain ⟨b', hb', hid⟩ := exists_of_findPath? hpath
  cases hb.symm.trans hb'
  dsimp only at h
  split at h
  next htext =>
    cases h
    refine ⟨path, b, hb, hid, htext, ?_⟩
    intro hne
    refine ⟨_, blockPoint_locate hb ?_ ?_⟩
    · exact (Node.areLeaves_iff.mpr htext).any_isLeaf hne
    · rw [← Block.text_eq_ownText htext]
      exact Text.isBoundary_floorBoundary _ _
  next => cases h

/-- Where identities are distinct, a position in a text block is resolved to the place where it is
located. -/
theorem resolve?_eq (hd : d.ids.Nodup) {p : BlockPoint} {path : Path} {b : Block}
    (hin : p.In d path b) (htext : b.isTextBlock = true) :
    d.resolve? p = some ⟨path ++ [(Node.locate b.children p.offset).1],
      (Node.locate b.children p.offset).2⟩ := by
  have hfind : d.findPath? p.block = some path := by
    rw [← hin.id_eq]
    exact findPath?_of_blockAt? hd hin.blockAt?
  have hboundary : b.text.isBoundary p.offset = true := by
    rw [Block.text_eq_ownText htext]
    exact hin.isBoundary
  have hoffset : b.text.floorBoundary (min p.offset b.text.bytes) = p.offset := by
    rw [Nat.min_eq_left (Text.le_bytes_of_isBoundary hboundary)]
    exact Text.floorBoundary_of_isBoundary hboundary
  simp only [resolve?, hfind, hin.blockAt?, htext, hoffset, if_true, Option.bind_eq_bind,
    Option.bind_some]

/-- Where identities are distinct, a position in a block that holds leaves is resolved to a point
that has this position. -/
theorem exists_resolve? (hd : d.ids.Nodup) {p : BlockPoint} {path : Path} {b : Block}
    (hin : p.In d path b) (htext : b.isTextBlock = true)
    (hleaf : b.children.any Node.isLeaf = true) :
    ∃ q, d.resolve? p = some q ∧ d.blockPoint q = .ok p := by
  have hpoint := blockPoint_locate hin.blockAt? hleaf hin.isBoundary
  rw [hin.id_eq] at hpoint
  exact ⟨_, resolve?_eq hd hin htext, hpoint⟩

/-! ## Positions in settled documents -/

theorem Settled.children_ne_nil (hd : d.Settled) {path : Path} {b : Block}
    (hb : d.blockAt? path = some b) : b.children ≠ [] :=
  (Node.everywhere_iff.mp hd.blocks path b hb).nonempty

/-- Whatever is resolved in a settled document addresses a place. -/
theorem addresses_of_resolve? (hd : d.Settled) {p : BlockPoint} {q : Point}
    (h : d.resolve? p = some q) : d.Addresses q := by
  obtain ⟨path, b, hb, -, -, hpoint⟩ := exists_of_resolve? h
  obtain ⟨n, hn⟩ := hpoint (hd.children_ne_nil hb)
  exact addresses_iff.mpr ⟨_, hn⟩

/-- In a settled document there is a first position if there is a block where a cursor can stand,
and it addresses a place. -/
theorem firstPoint?_cases (hd : d.Settled) :
    (d.textBlocks = [] ∧ d.firstPoint? = none) ∨ ∃ p, d.firstPoint? = some p ∧ d.Addresses p := by
  unfold firstPoint?
  cases hblocks : d.textBlocks with
  | nil => exact .inl ⟨rfl, rfl⟩
  | cons x xs =>
    obtain ⟨path, b⟩ := x
    right
    have hmem : (path, b) ∈ d.textBlocks := by rw [hblocks]; exact List.mem_cons_self
    obtain ⟨hb, htext⟩ := mem_textBlocks.mp hmem
    obtain ⟨n, ns, hns⟩ := List.exists_cons_of_ne_nil (hd.children_ne_nil hb)
    have hn := List.all_eq_true.mp htext.1 n (by rw [hns]; exact List.mem_cons_self)
    cases n with
    | block c => cases hn
    | leaf l =>
      refine ⟨⟨path ++ [0], 0⟩, ?_, ?_⟩
      · obtain ⟨id, kind, children⟩ := b
        cases hns
        simp only [startOf, hb, Block.firstLeaf, Node.firstLeafOf, Except.toOption]
      · exact ⟨path, 0, b, l, rfl, hb, by rw [hns]; rfl, Nat.zero_le _, Text.isBoundary_zero _⟩

end Document

end BlockNotes
