import BlockNotes.Document.Basic
import BlockNotes.Proofs.Document.Place
import Mathlib.Data.List.Nodup

/-!
# Identities

The identities of the blocks of a tree, parents before children, and what they
are good for: if no two are equal, then the search for an identity finds exactly
the block that has it (`Document.findPath?_of_blockAt?`).

A change at one place changes the identities by what it takes away and what it
puts in (`Node.count_idsOf_setChildren`).  It is stated with counts, so whatever
an edit does to a tree comes down to an inequality between numbers.

The walk is in the order of the tree: of two blocks the earlier one is an
ancestor of the later one or branches off to its left (`Document.pairwise_walk`).
-/

namespace BlockNotes

/-! ## The identities in a tree -/

mutual

/-- The identities of a block and of those below it. -/
def Block.ids : Block → List BlockId
  | ⟨id, _, children⟩ => id :: Node.idsOf children

/-- The identities of the blocks among and below nodes. -/
def Node.idsOf : List Node → List BlockId
  | [] => []
  | .leaf _ :: rest => Node.idsOf rest
  | .block b :: rest => b.ids ++ Node.idsOf rest

end

/-- The identities of the blocks of a document. -/
def Document.ids (d : Document) : List BlockId := Node.idsOf d.children

theorem Block.ids_eq (b : Block) : b.ids = b.id :: Node.idsOf b.children := by
  cases b
  rfl

namespace Node

@[simp] theorem idsOf_nil : idsOf [] = [] := rfl

@[simp] theorem idsOf_leaf (l : Leaf) (ns : List Node) : idsOf (.leaf l :: ns) = idsOf ns := rfl

@[simp] theorem idsOf_block (b : Block) (ns : List Node) :
    idsOf (.block b :: ns) = b.id :: (idsOf b.children ++ idsOf ns) := by
  rw [idsOf, Block.ids_eq]
  rfl

@[simp] theorem idsOf_append (ns ms : List Node) : idsOf (ns ++ ms) = idsOf ns ++ idsOf ms := by
  induction ns with
  | nil => rfl
  | cons n ns ih =>
    cases n with
    | leaf l => exact ih
    | block b => simp [ih]

theorem idsOf_sublist {ms ns : List Node} (h : ms.Sublist ns) : (idsOf ms).Sublist (idsOf ns) := by
  induction h with
  | slnil => exact .slnil
  | cons n h ih =>
    cases n with
    | leaf l => exact ih
    | block b => exact ih.trans (List.sublist_append_right _ _)
  | cons_cons n h ih =>
    cases n with
    | leaf l => exact ih
    | block b => exact ih.append_left b.ids

theorem idsOf_eq_nil {ns : List Node} (h : ns.all Node.isLeaf = true) : idsOf ns = [] := by
  induction ns with
  | nil => rfl
  | cons n ns ih =>
    rw [List.all_cons, Bool.and_eq_true] at h
    cases n with
    | leaf l => exact ih h.2
    | block b => cases h.1

/-- What a change at a place does to the number of times that an identity occurs. -/
theorem Focus.count_idsOf_put {ns : List Node} {p : Path} {cs : List Node}
    {put : List Node → List Node} (h : Focus ns p cs put) (new : List Node) (i : BlockId) :
    (idsOf (put new)).count i + (idsOf cs).count i =
      (idsOf ns).count i + (idsOf new).count i := by
  induction h with
  | here ns => exact Nat.add_comm _ _
  | step front back b below ih =>
    simp only [idsOf_append, idsOf_block, List.count_append, List.count_cons]
    omega

theorem count_idsOf_setChildren {ns : List Node} {p : Path} {cs : List Node}
    (h : childrenAt? ns p = some cs) (new : List Node) (i : BlockId) :
    (idsOf (setChildren ns p new)).count i + (idsOf cs).count i =
      (idsOf ns).count i + (idsOf new).count i :=
  (focus_setChildren h).count_idsOf_put new i

end Node

/-! ## Giving out identities -/

/-- How often an identity was given out while the next one went from `first` to `next`. -/
def issued (first next i : Nat) : Nat :=
  if first ≤ i ∧ i < next then 1 else 0

@[simp] theorem issued_self (n i : Nat) : issued n n i = 0 :=
  if_neg (by omega)

theorem issued_add {a b c : Nat} (hab : a ≤ b) (hbc : b ≤ c) (i : Nat) :
    issued a b i + issued b c i = issued a c i := by
  unfold issued
  split <;> split <;> split <;> omega

theorem issued_succ (n i : Nat) : issued n (n + 1) i = if n == i then 1 else 0 := by
  unfold issued
  simp only [beq_iff_eq]
  split <;> split <;> omega

mutual

/-- A block that gets fresh identities gets each of them once. -/
theorem Block.count_ids_adopt (i : Nat) : (b : Block) → (next : Nat) →
    next ≤ (b.adopt next).2 ∧ (b.adopt next).1.ids.count i = issued next (b.adopt next).2 i
  | ⟨_, _, children⟩, next => by
    obtain ⟨hle, hcount⟩ := Node.count_idsOf_adoptAll i children (next + 1)
    refine ⟨Nat.le_trans (Nat.le_succ next) hle, ?_⟩
    rw [Block.adopt, Block.ids, List.count_cons, hcount, ← issued_add (Nat.le_succ next) hle,
      issued_succ, Nat.add_comm]

theorem Node.count_idsOf_adoptAll (i : Nat) : (ns : List Node) → (next : Nat) →
    next ≤ (Node.adoptAll ns next).2 ∧
      (Node.idsOf (Node.adoptAll ns next).1).count i = issued next (Node.adoptAll ns next).2 i
  | [], next => ⟨Nat.le_refl _, (issued_self next i).symm⟩
  | .leaf _ :: rest, next => Node.count_idsOf_adoptAll i rest next
  | .block b :: rest, next => by
    obtain ⟨hle, hcount⟩ := Block.count_ids_adopt i b next
    obtain ⟨hle', hcount'⟩ := Node.count_idsOf_adoptAll i rest (b.adopt next).2
    refine ⟨Nat.le_trans hle hle', ?_⟩
    rw [Node.adoptAll, Node.idsOf, List.count_append, hcount, hcount', issued_add hle hle']

end

/-! ## The walk -/

mutual

/-- The walk over a block meets the block and what paths lead to below it. -/
theorem Block.mem_walk (path : Path) (x : Path × Block) :
    (b : Block) → (x ∈ b.walk path ↔ x = (path, b) ∨
      ∃ j q, x.1 = path ++ j :: q ∧ Node.blockAt? b.children (j :: q) = some x.2)
  | ⟨id, kind, children⟩ => by
    rw [Block.walk, List.mem_cons, Node.mem_walkFrom path 0 x children]
    simp only [Nat.zero_add]

theorem Node.mem_walkFrom (parent : Path) (k : Nat) (x : Path × Block) :
    (ns : List Node) → (x ∈ Node.walkFrom parent k ns ↔
      ∃ j q, x.1 = parent ++ (k + j) :: q ∧ Node.blockAt? ns (j :: q) = some x.2)
  | [] => by simp [Node.walkFrom, Node.blockAt?_cons]
  | .leaf l :: rest => by
    rw [Node.walkFrom, Node.mem_walkFrom parent (k + 1) x rest]
    constructor
    · rintro ⟨j, q, hx, hb⟩
      refine ⟨j + 1, q, by rw [hx]; simp [Nat.add_assoc, Nat.add_comm 1], ?_⟩
      simpa [Node.blockAt?_cons] using hb
    · rintro ⟨j, q, hx, hb⟩
      cases j with
      | zero => simp [Node.blockAt?_cons, Node.block?] at hb
      | succ j =>
        refine ⟨j, q, by rw [hx]; simp [Nat.add_assoc, Nat.add_comm 1], ?_⟩
        simpa [Node.blockAt?_cons] using hb
  | .block b :: rest => by
    rw [Node.walkFrom, List.mem_append, Block.mem_walk (parent ++ [k]) x b,
      Node.mem_walkFrom parent (k + 1) x rest]
    constructor
    · rintro ((rfl | ⟨j, q, hx, hb⟩) | ⟨j, q, hx, hb⟩)
      · exact ⟨0, [], rfl, rfl⟩
      · refine ⟨0, j :: q, by rw [hx]; simp, ?_⟩
        simpa [Node.blockAt?_cons, Node.block?] using hb
      · refine ⟨j + 1, q, by rw [hx]; simp [Nat.add_assoc, Nat.add_comm 1], ?_⟩
        simpa [Node.blockAt?_cons] using hb
    · rintro ⟨j, q, hx, hb⟩
      cases j with
      | zero =>
        left
        cases q with
        | nil =>
          cases hb
          exact .inl (Prod.ext hx rfl)
        | cons i q =>
          refine .inr ⟨i, q, by rw [hx]; simp, ?_⟩
          simpa [Node.blockAt?_cons, Node.block?] using hb
      | succ j =>
        refine .inr ⟨j, q, by rw [hx]; simp [Nat.add_assoc, Nat.add_comm 1], ?_⟩
        simpa [Node.blockAt?_cons] using hb

end

mutual

theorem Block.map_id_walk (path : Path) :
    (b : Block) → (b.walk path).map (fun x => x.2.id) = b.ids
  | ⟨id, kind, children⟩ => by
    rw [Block.walk, List.map_cons, Node.map_id_walkFrom path 0 children]
    rfl

theorem Node.map_id_walkFrom (parent : Path) (k : Nat) :
    (ns : List Node) → (Node.walkFrom parent k ns).map (fun x => x.2.id) = Node.idsOf ns
  | [] => rfl
  | .leaf _ :: rest => Node.map_id_walkFrom parent (k + 1) rest
  | .block b :: rest => by
    rw [Node.walkFrom, List.map_append, Block.map_id_walk (parent ++ [k]) b,
      Node.map_id_walkFrom parent (k + 1) rest]
    rfl

end

/-- One place comes before another: it is above it or branches off to its left. -/
def Path.Precedes (p q : Path) : Prop := p <+: q ∨ Before p q

mutual

theorem Block.pairwise_walk (path : Path) :
    (b : Block) → (b.walk path).Pairwise fun x y => Path.Precedes x.1 y.1
  | ⟨id, kind, children⟩ => by
    rw [Block.walk, List.pairwise_cons]
    refine ⟨?_, Node.pairwise_walkFrom path 0 children⟩
    intro y hy
    obtain ⟨j, q, hpath, -⟩ := (Node.mem_walkFrom path 0 y children).mp hy
    rw [hpath]
    exact .inl (List.prefix_append _ _)

theorem Node.pairwise_walkFrom (parent : Path) (k : Nat) :
    (ns : List Node) → (Node.walkFrom parent k ns).Pairwise fun x y => Path.Precedes x.1 y.1
  | [] => .nil
  | .leaf _ :: rest => Node.pairwise_walkFrom parent (k + 1) rest
  | .block b :: rest => by
    rw [Node.walkFrom, List.pairwise_append]
    refine ⟨Block.pairwise_walk _ b, Node.pairwise_walkFrom parent (k + 1) rest, ?_⟩
    intro x hx y hy
    obtain ⟨j, q, hy, -⟩ := (Node.mem_walkFrom parent (k + 1) y rest).mp hy
    have hx : ∃ p, x.1 = parent ++ k :: p := by
      rcases (Block.mem_walk (parent ++ [k]) x b).mp hx with rfl | ⟨i, p, hx, -⟩
      · exact ⟨[], rfl⟩
      · exact ⟨i :: p, by rw [hx]; simp⟩
    obtain ⟨p, hx⟩ := hx
    exact .inr ⟨parent, k, k + 1 + j, p, q, by omega, hx, hy⟩

end

namespace Document

/-- The walk meets exactly the blocks that paths lead to. -/
theorem mem_walk {d : Document} {p : Path} {b : Block} :
    (p, b) ∈ d.walk ↔ d.blockAt? p = some b := by
  rw [walk, Node.mem_walkFrom]
  constructor
  · rintro ⟨j, q, hp, hb⟩
    simp only [List.nil_append, Nat.zero_add] at hp
    rw [hp]
    exact hb
  · intro hb
    cases p with
    | nil => cases hb
    | cons j q => exact ⟨j, q, by simp, hb⟩

/-- The walk over the blocks of a kind meets exactly those blocks. -/
theorem mem_matching {d : Document} {test : Block → Bool} {p : Path} {b : Block} :
    (p, b) ∈ d.matching test ↔ d.blockAt? p = some b ∧ test b = true := by
  rw [matching, List.mem_filter, mem_walk]

theorem mem_textBlocks {d : Document} {p : Path} {b : Block} :
    (p, b) ∈ d.textBlocks ↔
      d.blockAt? p = some b ∧ b.isTextBlock = true ∧ b.kind.isVoid = false := by
  rw [textBlocks, mem_matching, Bool.and_eq_true, Bool.not_eq_true']

theorem map_id_walk (d : Document) : d.walk.map (fun x => x.2.id) = d.ids :=
  Node.map_id_walkFrom [] 0 d.children

theorem mem_ids_of_blockAt? {d : Document} {p : Path} {b : Block} (hb : d.blockAt? p = some b) :
    b.id ∈ d.ids := by
  rw [← map_id_walk]
  exact List.mem_map_of_mem (mem_walk.mpr hb)

/-- Of two blocks in the walk the earlier one is above the later one or to its left. -/
theorem pairwise_walk (d : Document) : d.walk.Pairwise fun x y => Path.Precedes x.1 y.1 :=
  Node.pairwise_walkFrom [] 0 d.children

/-- Where identities are distinct, of two text blocks the earlier one branches off to the left. -/
theorem pairwise_matching_isTextBlock {d : Document} (hd : d.ids.Nodup) :
    (d.matching Block.isTextBlock).Pairwise fun x y => Path.Before x.1 y.1 := by
  rw [← map_id_walk, List.Nodup, List.pairwise_map] at hd
  rw [matching, List.pairwise_filter]
  refine (hd.and (pairwise_walk d)).imp_of_mem ?_
  rintro ⟨p, b⟩ ⟨q, c⟩ hx hy ⟨hne, hpq⟩ htext -
  rcases hpq with ⟨r, rfl⟩ | hbefore
  · have hb : d.blockAt? p = some b := mem_walk.mp hx
    have hc : d.blockAt? (p ++ r) = some c := mem_walk.mp hy
    cases Node.eq_nil_of_blockAt?_append hb htext hc
    rw [List.append_nil] at hc
    cases hb.symm.trans hc
    exact absurd rfl hne
  · exact hbefore

theorem before_of_getElem? {d : Document} (hd : d.ids.Nodup) {i j : Nat} (hij : i < j)
    {x y : Path × Block} (hx : (d.matching Block.isTextBlock)[i]? = some x)
    (hy : (d.matching Block.isTextBlock)[j]? = some y) : Path.Before x.1 y.1 := by
  obtain ⟨hi, rfl⟩ := List.getElem?_eq_some_iff.mp hx
  obtain ⟨hj, rfl⟩ := List.getElem?_eq_some_iff.mp hy
  exact List.pairwise_iff_getElem.mp (pairwise_matching_isTextBlock hd) i j hi hj hij

/-! ## Searching an identity -/

theorem exists_of_findPath? {d : Document} {id : BlockId} {p : Path}
    (h : d.findPath? id = some p) : ∃ b, d.blockAt? p = some b ∧ b.id = id := by
  obtain ⟨⟨q, b⟩, hfind, rfl⟩ := Option.map_eq_some_iff.mp h
  exact ⟨b, mem_walk.mp (List.mem_of_find?_eq_some hfind), by simpa using List.find?_some hfind⟩

/-- Where identities are distinct, blocks of one identity stand at one place. -/
theorem eq_of_id_eq {d : Document} (hd : d.ids.Nodup) {p q : Path} {b c : Block}
    (hb : d.blockAt? p = some b) (hc : d.blockAt? q = some c) (h : b.id = c.id) :
    p = q ∧ b = c := by
  rw [← map_id_walk] at hd
  have := List.inj_on_of_nodup_map hd (mem_walk.mpr hb) (mem_walk.mpr hc) h
  exact Prod.mk.inj this

/-- Where identities are distinct, a text block found by the identity of a block is that block. -/
theorem getElem_matching_of_id_eq {d : Document} (hd : d.ids.Nodup) {p : Path} {b : Block}
    (hb : d.blockAt? p = some b) {i : Nat} (hi : i < (d.matching Block.isTextBlock).length)
    (hid : (d.matching Block.isTextBlock)[i].2.id = b.id) :
    (d.matching Block.isTextBlock)[i] = (p, b) ∧ b.isTextBlock = true := by
  obtain ⟨hblock, htext⟩ := mem_matching.mp (List.getElem_mem hi)
  obtain ⟨rfl, rfl⟩ := eq_of_id_eq hd hblock hb hid
  exact ⟨rfl, htext⟩

/-- Where identities are distinct, the search finds the block. -/
theorem findPath?_of_blockAt? {d : Document} (hd : d.ids.Nodup) {p : Path} {b : Block}
    (hb : d.blockAt? p = some b) : d.findPath? b.id = some p := by
  cases hfind : d.findPath? b.id with
  | none =>
    rw [findPath?, Option.map_eq_none_iff, List.find?_eq_none] at hfind
    exact absurd (beq_self_eq_true b.id) (hfind (p, b) (mem_walk.mpr hb))
  | some q =>
    obtain ⟨c, hc, hid⟩ := exists_of_findPath? hfind
    rw [(eq_of_id_eq hd hb hc hid.symm).1]

end Document

/-! ## Numbering -/

/-- Identities are given out in ascending order.  Those of the later document are from before, or
were given out on the way and occur once. -/
structure Document.Numbered (d d' : Document) : Prop where
  /-- The next identity does not go back. -/
  nextId_le : d.nextId ≤ d'.nextId
  /-- An identity occurs as often as before, or was given out. -/
  count_le : ∀ i, d'.ids.count i ≤ d.ids.count i + issued d.nextId d'.nextId i

/-- Identities are distinct, not zero, and have been given out. -/
structure Document.WellNumbered (d : Document) : Prop where
  /-- No two blocks have the same identity. -/
  nodup : d.ids.Nodup
  /-- Zero is not given out. -/
  pos : 1 ≤ d.nextId
  /-- Every identity has been given out. -/
  bounds : ∀ i ∈ d.ids, 1 ≤ i ∧ i < d.nextId

namespace Document

variable {d d' d'' : Document}

namespace Numbered

theorem refl (d : Document) : Numbered d d :=
  ⟨Nat.le_refl _, fun _ => Nat.le_add_right _ _⟩

theorem trans (h : Numbered d d') (h' : Numbered d' d'') : Numbered d d'' := by
  refine ⟨Nat.le_trans h.nextId_le h'.nextId_le, ?_⟩
  intro i
  have hi := h.count_le i
  have hi' := h'.count_le i
  rw [← issued_add h.nextId_le h'.nextId_le]
  omega

/-- Where no identity was given out, distinct identities stay distinct. -/
theorem nodup (h : Numbered d d') (hnext : d'.nextId = d.nextId) (hd : d.ids.Nodup) :
    d'.ids.Nodup := by
  rw [List.nodup_iff_count_le_one] at hd ⊢
  intro i
  have hi := h.count_le i
  rw [hnext, issued_self] at hi
  exact Nat.le_trans hi (hd i)

/-- Where all identities have been given out before, distinct identities stay distinct. -/
theorem nodup_of_lt (h : Numbered d d') (hd : d.ids.Nodup) (hlt : ∀ i ∈ d.ids, i < d.nextId) :
    d'.ids.Nodup := by
  rw [List.nodup_iff_count_le_one] at hd ⊢
  intro i
  have hcount := h.count_le i
  unfold issued at hcount
  split at hcount
  next hissued =>
    have hnot : i ∉ d.ids := fun hmem => Nat.not_lt_of_le hissued.1 (hlt i hmem)
    rw [List.count_eq_zero_of_not_mem hnot] at hcount
    exact hcount
  next => exact Nat.le_trans hcount (hd i)

/-- An identity was there before or has been given out since. -/
theorem mem_or_issued (h : Numbered d d') {i : BlockId} (hi : i ∈ d'.ids) :
    i ∈ d.ids ∨ Nat.le d.nextId i ∧ Nat.lt i d'.nextId := by
  by_cases hmem : i ∈ d.ids
  · exact .inl hmem
  · have hcount := h.count_le i
    rw [List.count_eq_zero_of_not_mem hmem, Nat.zero_add] at hcount
    have hpos := List.count_pos_iff.mpr hi
    unfold issued at hcount
    split at hcount
    next hissued => exact .inr hissued
    next => omega

/-- An identity that was given out and is gone does not come back. -/
theorem not_mem_of_gone (h : Numbered d d') {i : Nat} (hlt : i < d.nextId) (hgone : i ∉ d.ids) :
    i ∉ d'.ids := by
  intro hi
  rcases h.mem_or_issued hi with hmem | ⟨hle, -⟩
  · exact hgone hmem
  · exact Nat.not_lt_of_le hle hlt

end Numbered

theorem WellNumbered.numbered (h : WellNumbered d) (hd : Numbered d d') : WellNumbered d' := by
  refine ⟨?_, Nat.le_trans h.pos hd.nextId_le, ?_⟩
  · exact hd.nodup_of_lt h.nodup fun i hi => (h.bounds i hi).2
  · intro i hi
    rcases hd.mem_or_issued hi with hmem | ⟨hle, hlt⟩
    · exact ⟨(h.bounds i hmem).1, Nat.lt_of_lt_of_le (h.bounds i hmem).2 hd.nextId_le⟩
    · exact ⟨Nat.le_trans h.pos hle, hlt⟩

end Document

end BlockNotes
