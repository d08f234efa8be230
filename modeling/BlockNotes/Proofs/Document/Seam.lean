import BlockNotes.Proofs.Document.Holders
import BlockNotes.Proofs.Document.Selection

/-!
# Where a document is put together again

A text edit takes a piece out of the text of a document, and maybe puts another
one in.  What was before the piece and what was behind it meet in one block: the
one where the piece began.  This place is the *seam* (`Document.Seam`): the
holders to its left, its block with the characters before and behind it, and the
holders to its right.

A document has a seam at a block point if its holders are those of the seam
(`Document.Seam.In`).  A seam belongs to two points of an earlier document if
the characters before it are those before the first point and the characters
behind it are those from the second point on (`Document.Seam.Between`).

Bringing a document into normal form keeps its seam, so a command that leaves a
seam behind is known from it: its characters, the blocks on both sides and the
place where the cursor goes.
-/

namespace BlockNotes

namespace Node

/-- Where no element is there twice, each of them splits a list in one way. -/
theorem eq_of_split_of_nodup {α : Type} {l xs ys xs' ys' : List α} {a : α} (hnodup : l.Nodup)
    (h : l = xs ++ a :: ys) (h' : l = xs' ++ a :: ys') : xs = xs' ∧ ys = ys' := by
  rw [h, List.nodup_middle, List.nodup_cons, List.mem_append, not_or] at hnodup
  rw [h, List.append_cons_inj_of_notMem hnodup.1.1 hnodup.1.2] at h'
  exact ⟨h'.1, h'.2.2⟩

/-- Where identities are distinct, a block splits a list in one way. -/
theorem eq_of_split {hs xs ys xs' ys' : List Block} {b : Block} (hnodup : (hs.map Block.id).Nodup)
    (h : hs = xs ++ b :: ys) (h' : hs = xs' ++ b :: ys') : xs = xs' ∧ ys = ys' :=
  eq_of_split_of_nodup (.of_map _ hnodup) h h'

variable {ns : List Node}

/-- Other leaves in a holder leave the holders on both sides alone. -/
theorem holders_setChildren (hns : Uniform ns) (hnodup : ((holders ns).map Block.id).Nodup)
    {path : Path} {b : Block} (hb : blockAt? ns path = some b) (hleaves : AreLeaves b.children)
    (hne : b.children ≠ []) {xs ys : List Block} (hsplit : holders ns = xs ++ b :: ys)
    {new : List Node} (hnew : AreLeaves new) (hnew' : new ≠ []) :
    Uniform (setChildren ns path new) ∧
      holders (setChildren ns path new) = xs ++ { b with children := new } :: ys := by
  obtain ⟨parent, front, back, rfl, hcs⟩ := exists_siblings_of_blockAt? hb
  obtain ⟨xs', ys', hsplit', -, hput⟩ := exists_holders_replace hns hcs hleaves hne
  obtain ⟨rfl, rfl⟩ := eq_of_split hnodup hsplit hsplit'
  have hblock : Uniform [.block { b with children := new }] := uniform_of_areLeaves hnew
  obtain ⟨huniform, hholders⟩ := hput _ hblock
  have hsame : front ++ [Node.block { b with children := new }] ++ back =
      front ++ Node.block { b with children := new } :: back := by simp
  rw [setChildren_concat hcs, ← hsame]
  refine ⟨huniform, ?_⟩
  rw [hholders, holders_of_areLeaves hnew hnew']
  simp

/-- The holders of a tree, and the number of characters before a position in one of them. -/
theorem exists_split (hns : Uniform ns) {path : Path} {b : Block} (hb : blockAt? ns path = some b)
    (hleaves : AreLeaves b.children) (hne : b.children ≠ []) :
    ∃ xs ys, holders ns = xs ++ b :: ys ∧ ∀ q offset, charsBefore ns (path ++ q) offset =
      (charsOf xs).length + charsBefore b.children q offset := by
  obtain ⟨parent, front, back, rfl, hcs⟩ := exists_siblings_of_blockAt? hb
  obtain ⟨xs, ys, hsplit, hcount, -⟩ := exists_holders_replace hns hcs hleaves hne
  refine ⟨xs, ys, hsplit, ?_⟩
  intro q offset
  rw [List.append_assoc]
  exact hcount q offset

end Node

namespace Document

variable {d : Document}

/-! ## Regular documents -/

/-- Identities are distinct, blocks hold only leaves or only blocks, and every block is settled. -/
structure Regular (d : Document) : Prop where
  nodup : d.ids.Nodup
  uniform : Node.Uniform d.children
  settled : Node.Everywhere Block.Settled d.children

/-- Documents in normal form with distinct identities are regular. -/
theorem IsNormal.regular (h : d.IsNormal) (hd : d.WellNumbered) : d.Regular :=
  ⟨hd.nodup, ⟨h.areBlocks, h.blocks.mono fun _ hb => hb.homogeneous⟩,
    h.blocks.mono fun _ hb => hb.settled⟩

/-- What commands make of sound blocks is regular. -/
theorem regular_run {bs : List Block} {cs : List Command}
    (hbs : ∀ b ∈ bs, b.Everywhere Block.Sound) (hcs : ∀ c ∈ cs, c.Sound) :
    ((ofBlocks bs).run cs).Regular := by
  have hnew := wellNumbered_ofBlocks bs
  exact (isNormal_run hnew (isNormal_ofBlocks hbs) hcs).regular (wellNumbered_run hnew cs)

namespace Regular

theorem nodup_holders (hd : d.Regular) : ((Node.holders d.children).map Block.id).Nodup :=
  Node.nodup_map_id_holders hd.nodup

theorem settled_of_blockAt? (hd : d.Regular) {path : Path} {b : Block}
    (hb : d.blockAt? path = some b) : b.Settled :=
  Node.everywhere_iff.mp hd.settled path b hb

/-- In a regular document a block with a leaf holds only leaves. -/
theorem areLeaves (hd : d.Regular) {path : Path} {b : Block} (hb : d.blockAt? path = some b)
    (hleaf : b.children.any Node.isLeaf = true) : Node.AreLeaves b.children :=
  hd.uniform.areLeaves hb hleaf

/-- In a regular document a text block is one with a leaf. -/
theorem isTextBlock_eq (hd : d.Regular) {path : Path} {b : Block} (hb : d.blockAt? path = some b) :
    b.isTextBlock = b.children.any Node.isLeaf := by
  cases hleaf : b.children.any Node.isLeaf with
  | true => exact Node.areLeaves_iff.mp (hd.areLeaves hb hleaf)
  | false =>
    rw [Block.isTextBlock, Bool.eq_false_iff]
    intro hall
    obtain ⟨n, ns, hns⟩ := List.exists_cons_of_ne_nil (hd.settled_of_blockAt? hb).nonempty
    rw [hns] at hleaf hall
    simp_all

end Regular

mutual

theorem Block.map_snd_walk (path : Path) : (b : Block) → (b.walk path).map Prod.snd = b.allBlocks
  | ⟨id, kind, children⟩ => by
    rw [Block.walk, List.map_cons, Node.map_snd_walkFrom path 0 children]
    rfl

theorem Node.map_snd_walkFrom (parent : Path) (k : Nat) :
    (ns : List Node) → (Node.walkFrom parent k ns).map Prod.snd = Node.blocksOf ns
  | [] => rfl
  | .leaf _ :: rest => Node.map_snd_walkFrom parent (k + 1) rest
  | .block b :: rest => by
    rw [Node.walkFrom, List.map_append, Block.map_snd_walk (parent ++ [k]) b,
      Node.map_snd_walkFrom parent (k + 1) rest]
    rfl

end

/-- The blocks of a document are those that paths lead to. -/
theorem mem_blocksOf {b : Block} : b ∈ Node.blocksOf d.children ↔ ∃ path, d.blockAt? path = some b := by
  have hwalk : d.walk.map Prod.snd = Node.blocksOf d.children := Node.map_snd_walkFrom [] 0 d.children
  rw [← hwalk, List.mem_map]
  constructor
  · rintro ⟨⟨path, c⟩, hmem, rfl⟩
    exact ⟨path, mem_walk.mp hmem⟩
  · rintro ⟨path, hb⟩
    exact ⟨(path, b), mem_walk.mpr hb, rfl⟩

namespace Regular

/-- In a regular document the holders are the text blocks, in the order of the walk. -/
theorem map_snd_matching (hd : d.Regular) :
    (d.matching Block.isTextBlock).map Prod.snd = Node.holders d.children := by
  have hwalk : d.walk.map Prod.snd = Node.blocksOf d.children := Node.map_snd_walkFrom [] 0 d.children
  rw [Node.holders, ← hwalk, List.filter_map, matching]
  congr 1
  refine List.filter_congr ?_
  rintro ⟨path, b⟩ hmem
  exact hd.isTextBlock_eq (mem_walk.mp hmem)

/-- A holder to the left of another one comes before it in the list, and one to its right behind
it. -/
theorem mem_of_lt (hd : d.Regular) {p q : Path} {b c : Block} (hb : d.blockAt? p = some b)
    (hbtext : b.isTextBlock = true) (hc : d.blockAt? q = some c) (hctext : c.isTextBlock = true)
    {xs ys : List Block} (hsplit : Node.holders d.children = xs ++ b :: ys) :
    (q < p → c ∈ xs) ∧ (p < q → c ∈ ys) := by
  have hbefore := pairwise_matching_isTextBlock hd.nodup
  have hmem : (p, b) ∈ d.matching Block.isTextBlock :=
    mem_matching.mpr ⟨hb, hbtext⟩
  have hmem' : (q, c) ∈ d.matching Block.isTextBlock :=
    mem_matching.mpr ⟨hc, hctext⟩
  obtain ⟨front, back, hord⟩ := List.append_of_mem hmem
  have hholders := hd.map_snd_matching
  rw [hord, List.map_append, List.map_cons] at hholders
  obtain ⟨rfl, rfl⟩ := Node.eq_of_split hd.nodup_holders hsplit hholders.symm
  rw [hord, List.pairwise_append, List.pairwise_cons] at hbefore
  rw [hord, List.mem_append, List.mem_cons] at hmem'
  obtain ⟨-, ⟨hright, -⟩, hleft⟩ := hbefore
  rcases hmem' with hfront | heq | hback
  · have hqp := (hleft _ hfront _ List.mem_cons_self).lt
    exact ⟨fun _ => List.mem_map_of_mem hfront, fun hpq => absurd hpq (List.lt_asymm hqp)⟩
  · cases heq
    exact ⟨fun h => absurd h (List.lt_irrefl _), fun h => absurd h (List.lt_irrefl _)⟩
  · have hpq := (hright _ hback).lt
    exact ⟨fun hqp => absurd hqp (List.lt_asymm hpq), fun _ => List.mem_map_of_mem hback⟩

end Regular

/-! ## Sites -/

/-- The number of characters before a point. -/
def charsBefore (d : Document) (p : Point) : Nat :=
  Node.charsBefore d.children p.path p.offset

/-- A point is at an offset in the text of a holder at a path. -/
structure Site (d : Document) (p : Point) (path : Path) (b : Block) (offset : Nat) : Prop where
  blockAt? : d.blockAt? path = some b
  areLeaves : Node.AreLeaves b.children
  leaf : ∃ index l, p.path = path ++ [index] ∧ b.children[index]? = some (.leaf l) ∧
    l.text.isBoundary p.offset = true ∧ offset = Node.offsetOf b.children index p.offset

namespace Site

variable {p q : Point} {path : Path} {b : Block} {m n : Nat}

theorem isTextBlock (h : d.Site p path b n) : b.isTextBlock = true :=
  Node.areLeaves_iff.mp h.areLeaves

theorem ne_nil (h : d.Site p path b n) : b.children ≠ [] := by
  obtain ⟨index, l, -, hl, -⟩ := h.leaf
  exact List.ne_nil_of_mem (List.mem_of_getElem? hl)

theorem above_eq (h : d.Site p path b n) : p.path.dropLast = path := by
  obtain ⟨index, l, hpath, -⟩ := h.leaf
  rw [hpath, List.dropLast_concat]

theorem blockPoint_eq (h : d.Site p path b n) : d.blockPoint p = .ok ⟨b.id, n⟩ := by
  obtain ⟨index, l, hpath, hl, hoffset, rfl⟩ := h.leaf
  obtain ⟨path', offset⟩ := p
  cases hpath
  exact blockPoint_concat h.blockAt? hl hoffset

theorem isBoundary (h : d.Site p path b n) : (Node.ownText b.children).isBoundary n = true := by
  obtain ⟨index, l, -, hl, hoffset, rfl⟩ := h.leaf
  exact Node.isBoundary_offsetOf hl hoffset

/-- Two positions in one block are ordered as their offsets are. -/
theorem offset_le (hp : d.Site p path b m) (hq : d.Site q path b n) (h : p ≤ q) : m ≤ n := by
  obtain ⟨i, l, hpath, hl, hoffset, rfl⟩ := hp.leaf
  obtain ⟨j, k, hpath', -, -, rfl⟩ := hq.leaf
  exact Node.offsetOf_le_of_le hpath hl hoffset hpath' h

end Site

/-- A point with a position in a block that holds leaves is in this block. -/
theorem site_of_blockPoint (hd : d.ids.Nodup) {path : Path} {b : Block} {q : Point} {n : Nat}
    (hb : d.blockAt? path = some b) (htext : b.isTextBlock = true)
    (h : d.blockPoint q = .ok ⟨b.id, n⟩) : d.Site q path b n := by
  obtain ⟨path', index, b', l, hpath, hb', hl, hoffset, hpoint⟩ := exists_leaf_of_blockPoint h
  obtain ⟨rfl, rfl⟩ := eq_of_id_eq hd hb hb' (congrArg BlockPoint.block hpoint)
  exact ⟨hb, Node.areLeaves_iff.mpr htext, index, l, hpath, hl, hoffset,
    congrArg BlockPoint.offset hpoint⟩

/-- Where blocks hold only leaves or only blocks, a block with a position in it holds leaves. -/
theorem isTextBlock_of_blockPoint (hd : d.ids.Nodup) (huniform : Node.Uniform d.children)
    {path : Path} {b : Block} {q : Point} {n : Nat} (hb : d.blockAt? path = some b)
    (h : d.blockPoint q = .ok ⟨b.id, n⟩) : b.isTextBlock = true := by
  obtain ⟨path', index, b', l, -, hb', hl, -, hpoint⟩ := exists_leaf_of_blockPoint h
  obtain ⟨rfl, rfl⟩ := eq_of_id_eq hd hb hb' (congrArg BlockPoint.block hpoint)
  have hleaf : b.children.any Node.isLeaf = true :=
    List.any_eq_true.mpr ⟨_, List.mem_of_getElem? hl, rfl⟩
  exact Node.areLeaves_iff.mp (huniform.areLeaves hb hleaf)

/-- A position in a leaf of a holder is a site. -/
theorem site_of_getElem? {path : Path} {b : Block} {j offset : Nat} {l : Leaf}
    (hb : d.blockAt? path = some b) (hleaves : Node.AreLeaves b.children)
    (hl : b.children[j]? = some (.leaf l)) (hoffset : l.text.isBoundary offset = true) :
    d.Site ⟨path ++ [j], offset⟩ path b (Node.offsetOf b.children j offset) :=
  ⟨hb, hleaves, j, l, rfl, hl, hoffset, rfl⟩

/-- In a regular document a position in a leaf is a site. -/
theorem Regular.site (hd : d.Regular) {path : Path} {b : Block} {j offset : Nat} {l : Leaf}
    (hb : d.blockAt? path = some b) (hl : b.children[j]? = some (.leaf l))
    (hoffset : l.text.isBoundary offset = true) :
    d.Site ⟨path ++ [j], offset⟩ path b (Node.offsetOf b.children j offset) :=
  site_of_getElem? hb (hd.areLeaves hb (List.any_eq_true.mpr ⟨_, List.mem_of_getElem? hl, rfl⟩))
    hl hoffset

/-- In a regular document a point that addresses a place has a site. -/
theorem Regular.exists_site (hd : d.Regular) {p : Point} (hp : d.Addresses p) :
    ∃ path b offset, d.Site p path b offset := by
  obtain ⟨path, j, b, l, hpath, hb, hl, -, hoffset⟩ := hp
  obtain ⟨path', offset⟩ := p
  cases hpath
  exact ⟨path, b, _, hd.site hb hl hoffset⟩

/-- A site splits the characters of a regular document: those of the holders to its left and of its
block before it, and those of its block behind it and of the holders to its right. -/
theorem Regular.exists_parts (hd : d.Regular) {p : Point} {path : Path} {b : Block} {n : Nat}
    (hp : d.Site p path b n) :
    ∃ xs ys, Node.holders d.children = xs ++ b :: ys ∧
      d.charsBefore p =
        (Node.charsOf xs).length + (Node.ownText b.children).charsBefore n ∧
      d.marked.take (d.charsBefore p) = Node.charsOf xs ++
        (Node.marked b.children).take ((Node.ownText b.children).charsBefore n) ∧
      d.marked.drop (d.charsBefore p) =
        (Node.marked b.children).drop ((Node.ownText b.children).charsBefore n) ++
          Node.charsOf ys := by
  obtain ⟨xs, ys, hsplit, hcount⟩ := Node.exists_split hd.uniform hp.blockAt? hp.areLeaves hp.ne_nil
  obtain ⟨index, l, hpath, hl, hoffset, hn⟩ := hp.leaf
  have hchars : d.charsBefore p =
      (Node.charsOf xs).length + (Node.ownText b.children).charsBefore n := by
    rw [charsBefore, hpath, hcount, Node.charsBefore_leaf hp.areLeaves hl hoffset, hn]
  have hle : (Node.ownText b.children).charsBefore n ≤ (Node.marked b.children).length := by
    rw [Node.length_marked_of_areLeaves hp.areLeaves]
    exact Text.charsBefore_le_length _ _
  have hmarked : d.marked = Node.charsOf xs ++ (Node.marked b.children ++ Node.charsOf ys) := by
    rw [marked, Node.marked_eq_charsOf_holders hd.uniform, hsplit, Node.charsOf_append,
      Node.charsOf_cons]
  refine ⟨xs, ys, hsplit, hchars, ?_, ?_⟩
  · rw [hmarked, hchars, List.take_length_add_append, List.take_append_of_le_length hle]
  · rw [hmarked, hchars, List.drop_length_add_append, List.drop_append_of_le_length hle]

theorem le_stop (r : Range) : r.start ≤ r.stop :=
  EditM.not_stop_lt_start r

theorem point_le_of_lt {p q : Point} (h : p < q) : p ≤ q := by
  have hends := le_stop ⟨q, p⟩
  rwa [Range.start, Range.stop, if_neg fun hle => hle h, if_neg fun hle => hle h] at hends

/-- The ends of a range in a block are in order. -/
theorem site_start_stop {p q : Point} {path : Path} {b : Block} {m n : Nat}
    (hp : d.Site p path b m) (hq : d.Site q path b n) (hle : m ≤ n) :
    d.Site (Range.start ⟨p, q⟩) path b m ∧ d.Site (Range.stop ⟨p, q⟩) path b n := by
  have hends := le_stop ⟨p, q⟩
  by_cases h : p ≤ q
  · simp only [Range.start, Range.stop, if_pos h]
    exact ⟨hp, hq⟩
  · simp only [Range.start, Range.stop, if_neg h] at hends ⊢
    have hsame : m = n := Nat.le_antisymm hle (hq.offset_le hp hends)
    exact ⟨hsame ▸ hq, hsame ▸ hp⟩

/-! ## The ends of a holder -/

theorem lastLeafOf_of_areLeaves {ns : List Node} (h : Node.AreLeaves ns) (hne : ns ≠ [])
    (path : Path) (k : Nat) :
    ∃ front l, ns = front ++ [.leaf l] ∧
      Node.lastLeafOf path k ns = .ok (path ++ [k + front.length], l) := by
  induction ns generalizing k with
  | nil => exact absurd rfl hne
  | cons n ns ih =>
    cases n with
    | block b => cases h (.block b) List.mem_cons_self
    | leaf l =>
      cases ns with
      | nil => exact ⟨[], l, rfl, rfl⟩
      | cons m ms =>
        obtain ⟨front, l', hns, hlast⟩ := ih h.cons (List.cons_ne_nil _ _) (k + 1)
        refine ⟨.leaf l :: front, l', by rw [hns]; rfl, ?_⟩
        rw [Node.lastLeafOf, hlast, List.length_cons, Nat.add_right_comm k 1, Nat.add_assoc]

/-- The start of a holder is a site before all of its text. -/
theorem startOf_eq {path : Path} {b : Block} (hb : d.blockAt? path = some b)
    (hleaves : Node.AreLeaves b.children) (hne : b.children ≠ []) :
    d.startOf path = .ok ⟨path ++ [0], 0⟩ ∧ d.Site ⟨path ++ [0], 0⟩ path b 0 := by
  obtain ⟨node, ns, hns⟩ := List.exists_cons_of_ne_nil hne
  have hleaf := hleaves node (hns ▸ List.mem_cons_self)
  cases node with
  | block c => cases hleaf
  | leaf l =>
    have hl : b.children[0]? = some (.leaf l) := by rw [hns]; rfl
    refine ⟨?_, site_of_getElem? hb hleaves hl (Text.isBoundary_zero _)⟩
    obtain ⟨id, kind, children⟩ := b
    cases hns
    simp only [startOf, hb, Block.firstLeaf, Node.firstLeafOf]

/-- The end of a holder is a site behind all of its text. -/
theorem exists_endOf {path : Path} {b : Block} (hb : d.blockAt? path = some b)
    (hleaves : Node.AreLeaves b.children) (hne : b.children ≠ []) :
    ∃ e, d.endOf path = .ok e ∧ d.Site e path b (Node.ownText b.children).bytes := by
  obtain ⟨front, l, hns, hlast⟩ := lastLeafOf_of_areLeaves hleaves hne path 0
  rw [Nat.zero_add] at hlast
  have hl : b.children[front.length]? = some (.leaf l) := by rw [hns]; simp
  have hsite := site_of_getElem? hb hleaves hl (Text.isBoundary_bytes l.text)
  have hsize : Node.offsetOf b.children front.length l.text.bytes =
      (Node.ownText b.children).bytes := by
    rw [Node.offsetOf, ← Node.bytes_ownText, hns, List.take_left, Node.ownText_append,
      Text.bytes_append]
    simp [Node.ownText]
  rw [hsize] at hsite
  refine ⟨_, ?_, hsite⟩
  obtain ⟨id, kind, children⟩ := b
  simp only [endOf, hb, Block.lastLeaf, hlast]
  rfl

namespace Site

variable {p : Point} {path : Path} {b : Block} {n : Nat}

theorem addresses (hp : d.Site p path b n) : d.Addresses p :=
  addresses_iff.mpr ⟨_, hp.blockPoint_eq⟩

theorem startOf_eq (hp : d.Site p path b n) :
    d.startOf path = .ok ⟨path ++ [0], 0⟩ ∧ d.Site ⟨path ++ [0], 0⟩ path b 0 :=
  Document.startOf_eq hp.blockAt? hp.areLeaves hp.ne_nil

theorem exists_endOf (hp : d.Site p path b n) :
    ∃ e, d.endOf path = .ok e ∧ d.Site e path b (Node.ownText b.children).bytes :=
  Document.exists_endOf hp.blockAt? hp.areLeaves hp.ne_nil

/-- No position in a holder comes before its start. -/
theorem le_of_startOf (hp : d.Site p path b n) {first : Point} (h : d.startOf path = .ok first) :
    first ≤ p := by
  obtain ⟨index, l, hpath, -⟩ := hp.leaf
  cases h.symm.trans hp.startOf_eq.1
  rintro (hlt | ⟨-, hlt⟩)
  · rw [hpath, Path.concat_lt_concat_iff] at hlt
    exact Nat.not_lt_zero _ hlt
  · exact Nat.not_lt_zero _ hlt

/-- No position in a holder comes behind its end. -/
theorem le_of_endOf (hp : d.Site p path b n) {last : Point} (h : d.endOf path = .ok last) :
    p ≤ last := by
  obtain ⟨index, l, hpath, hl, hoffset, -⟩ := hp.leaf
  obtain ⟨front, k, hns, hlast⟩ := lastLeafOf_of_areLeaves hp.areLeaves hp.ne_nil path 0
  have hb := hp.blockAt?
  obtain ⟨id, kind, children⟩ := b
  rw [Nat.zero_add] at hlast
  simp only [endOf, hb, Block.lastLeaf, hlast] at h
  cases h
  dsimp only at hns hl
  have hindex : index ≤ front.length := by
    have hlt := (List.getElem?_eq_some_iff.mp hl).1
    rw [hns, List.length_append] at hlt
    exact Nat.le_of_lt_succ hlt
  rintro (hlt | ⟨hsame, hlt⟩)
  · rw [hpath, Path.concat_lt_concat_iff] at hlt
    exact Nat.not_lt_of_le hindex hlt
  · obtain ⟨-, hsame⟩ := List.append_inj' (hpath.symm.trans hsame.symm) rfl
    cases hsame
    rw [hns, List.getElem?_concat_length] at hl
    cases hl
    exact Nat.not_lt_of_le (Text.le_bytes_of_isBoundary hoffset) hlt

/-- A position in a holder comes before one in a holder further to the right. -/
theorem lt_of_before {q : Point} {path' : Path} {c : Block} {m : Nat} (hp : d.Site p path b n)
    (hq : d.Site q path' c m) (h : Path.Before path path') : p < q := by
  obtain ⟨i, -, hi, -⟩ := hp.leaf
  obtain ⟨j, -, hj, -⟩ := hq.leaf
  refine .inl ?_
  rw [hi, hj]
  exact ((h.append_left [i]).append_right [j]).lt

end Site

/-! ## Seams -/

/-- The place in the text where what was left of it is put together again. -/
structure Seam where
  /-- The holders to the left. -/
  left : List Block
  /-- The block of the seam, as it was. -/
  block : Block
  /-- The characters of the block before the seam. -/
  head : List (Char × Marks)
  /-- The characters of the block behind the seam. -/
  tail : List (Char × Marks)
  /-- The holders to the right. -/
  right : List Block

namespace Seam

variable {σ : Seam} {p : BlockPoint}

/-- The holders of a document are those of a seam, and a block point is at it. -/
structure In (σ : Seam) (d : Document) (p : BlockPoint) : Prop where
  uniform : Node.Uniform d.children
  nodup : d.ids.Nodup
  /-- The block of the seam has kept its identity and its kind. -/
  holders : ∃ ns, Node.AreLeaves ns ∧ ns ≠ [] ∧ Node.marked ns = σ.head ++ σ.tail ∧
    Node.holders d.children = σ.left ++ { σ.block with children := ns } :: σ.right
  block_eq : p.block = σ.block.id
  offset_eq : p.offset = Text.bytes (σ.head.map Prod.fst)

/-- What a seam keeps of a document: all that comes before a point, and all from another point
on. -/
structure Between (σ : Seam) (d : Document) (start stop : Point) : Prop where
  before : d.marked.take (d.charsBefore start) = Node.charsOf σ.left ++ σ.head
  after : d.marked.drop (d.charsBefore stop) = σ.tail ++ Node.charsOf σ.right
  /-- The block of the seam is the one around the first point. -/
  block : d.blockAt? start.path.dropLast = some σ.block
  /-- Holders to the left of this block and to the right of the one around the other point stay. -/
  outside : ∀ path x, d.blockAt? path = some x → x.isTextBlock = true →
    path < start.path.dropLast ∨ stop.path.dropLast < path → x ∈ σ.left ++ σ.right

/-- The characters of a document with a seam. -/
theorem In.marked_eq (h : σ.In d p) :
    d.marked = Node.charsOf σ.left ++ σ.head ++ (σ.tail ++ Node.charsOf σ.right) := by
  obtain ⟨ns, -, -, hmarked, hholders⟩ := h.holders
  rw [Document.marked, Node.marked_eq_charsOf_holders h.uniform, hholders, Node.charsOf_append,
    Node.charsOf_cons, hmarked]
  simp only [List.append_assoc]

/-- The block of a seam, found in the document. -/
theorem In.exists_block (h : σ.In d p) :
    ∃ path ns, d.blockAt? path = some { σ.block with children := ns } ∧ Node.AreLeaves ns ∧
      ns ≠ [] ∧ Node.marked ns = σ.head ++ σ.tail ∧
      Node.holders d.children = σ.left ++ { σ.block with children := ns } :: σ.right := by
  obtain ⟨ns, hleaves, hne, hmarked, hholders⟩ := h.holders
  have hmem : ({ σ.block with children := ns } : Block) ∈ Node.holders d.children := by
    rw [hholders]
    exact List.mem_append_right _ List.mem_cons_self
  obtain ⟨path, hb⟩ := mem_blocksOf.mp (List.mem_filter.mp hmem).1
  exact ⟨path, ns, hb, hleaves, hne, hmarked, hholders⟩

/-- The text of leaves whose characters meet at a seam, cut there. -/
theorem ownText_of_marked {ns : List Node} {head tail : List (Char × Marks)}
    (hns : Node.AreLeaves ns) (hmarked : Node.marked ns = head ++ tail) :
    Node.ownText ns = head.map Prod.fst ++ tail.map Prod.fst := by
  rw [← Node.textOf_eq_ownText (Node.areLeaves_iff.mp hns), ← Node.map_fst_marked, hmarked,
    List.map_append]

/-- A block point at a seam belongs to the block of the seam. -/
theorem In.exists_in (h : σ.In d p) :
    ∃ path b, p.In d path b ∧ b.isTextBlock = true ∧ b.kind = σ.block.kind := by
  obtain ⟨path, ns, hb, hleaves, -, hmarked, -⟩ := h.exists_block
  refine ⟨path, _, ⟨hb, h.block_eq.symm, ?_⟩, Node.areLeaves_iff.mp hleaves, rfl⟩
  rw [ownText_of_marked hleaves hmarked, h.offset_eq]
  exact Text.isBoundary_iff.mpr ⟨_, _, rfl, rfl⟩

/-- A site in a regular document is a seam where nothing is left out. -/
theorem exists_of_site (hd : d.Regular) {s : Point} {path : Path} {b : Block} {n : Nat}
    (hs : d.Site s path b n) : ∃ σ : Seam, σ.In d ⟨b.id, n⟩ ∧ σ.Between d s s := by
  obtain ⟨xs, ys, hsplit, -, htake, hdrop⟩ := hd.exists_parts hs
  refine ⟨⟨xs, b, _, _, ys⟩, ⟨hd.uniform, hd.nodup, ⟨b.children, hs.areLeaves, hs.ne_nil, ?_, ?_⟩, rfl,
    (Node.bytes_take_marked hs.areLeaves hs.isBoundary).symm⟩, ⟨htake, hdrop, ?_, ?_⟩⟩
  · exact (List.take_append_drop _ _).symm
  · cases b
    exact hsplit
  · rw [hs.above_eq]
    exact hs.blockAt?
  · intro path' x hx hxtext hout
    rw [hs.above_eq] at hout
    have hside := hd.mem_of_lt hs.blockAt? hs.isTextBlock hx hxtext hsplit
    rw [List.mem_append]
    exact hout.imp hside.1 hside.2

/-- Text that is put in at a seam comes before it. -/
theorem In.certain_insert (h : σ.In d p) (t : Text) :
    ∃ marks, EditM.Certain
      (EditM.editChildren p.block fun b => Node.insertText? b.children p.offset t) d fun _ d' =>
        In { σ with head := σ.head ++ t.map (·, marks) } d' ⟨p.block, p.offset + t.bytes⟩ := by
  obtain ⟨path, ns, hb, hleaves, hne, hmarked, hholders⟩ := h.exists_block
  have htext := ownText_of_marked hleaves hmarked
  have hboundary : (Node.ownText ns).isBoundary p.offset = true := by
    rw [htext, h.offset_eq]
    exact Text.isBoundary_iff.mpr ⟨_, _, rfl, rfl⟩
  obtain ⟨ms, hms, -⟩ := Node.exists_insertText? t hboundary
  obtain ⟨hleaves', hne', marks, hchars⟩ := Node.marked_insertText? hleaves hne hboundary hms
  obtain ⟨huniform, hsplit⟩ := Node.holders_setChildren h.uniform
    (Node.nodup_map_id_holders h.nodup) hb hleaves hne hholders hleaves' hne'
  refine ⟨marks, ?_⟩
  rw [h.block_eq]
  refine ⟨⟨⟩, _, EditM.editChildren_eq h.nodup hb hms, huniform, ?_, ⟨ms, hleaves', hne', ?_, hsplit⟩,
    h.block_eq.symm ▸ rfl, ?_⟩
  · exact (Edited.put_leaves (G := True) hb hleaves').toNumbered.nodup rfl h.nodup
  · rw [hchars, hmarked, htext, h.offset_eq, Text.charsBefore_append, List.length_map,
      List.take_left, List.drop_left]
  · rw [h.offset_eq, List.map_append, Text.bytes_append]
    simp [Function.comp_def]

end Seam

/-! ## What a command leaves behind -/

/-- The normal form of a tree with blocks at its root has distinct identities. -/
theorem nodup_ids_normalize (hblocks : Node.AreBlocks d.children) (hd : d.ids.Nodup) :
    d.normalize.ids.Nodup := by
  have hsub := Node.idsOf_filter_normalizeAll d.children
  have hblocks' := Node.areBlocks_filter_normalizeAll hblocks
  unfold normalize
  dsimp only
  rw [wrapLeaves_of_areBlocks hblocks']
  split
  next => simp [ids]
  next => exact hd.sublist hsub

theorem marked_committed (d : Document) (place : Option BlockRange) :
    (d.committed place).marked = d.marked :=
  marked_normalize d

namespace Seam

variable {σ : Seam} {p : BlockPoint}

/-- The holders on both sides of a seam are still there afterwards, if they were settled. -/
theorem In.mem_committed (h : σ.In d p) (place : Option BlockRange) {x : Block}
    (hx : x ∈ σ.left ++ σ.right) (hsettled : x.Settled) (htext : x.isTextBlock = true) :
    ∃ path, (d.committed place).blockAt? path = some x := by
  obtain ⟨ns, -, -, -, hholders⟩ := h.holders
  have hmem : x ∈ Node.holders d.children := by
    rw [hholders, List.mem_append, List.mem_cons]
    exact (List.mem_append.mp hx).imp_right .inr
  have hnormal := mem_blocksOf_normalize h.uniform.areBlocks htext hsettled.nonempty
    (List.mem_filter.mp hmem).1
  have hsame : x.normalize = x := Block.normalize_of_settled x
    (Block.everywhere_iff.mpr ⟨hsettled, Node.everywhere_of_areLeaves (Node.areLeaves_iff.mpr htext)⟩)
  rw [hsame] at hnormal
  exact mem_blocksOf.mp hnormal

/-- The block of a seam is still there afterwards, with its identity and its kind, and a block point
at the seam belongs to it. -/
theorem In.exists_in_normalize (h : σ.In d p) :
    ∃ path b, p.In d.normalize path b ∧ b.kind = σ.block.kind ∧ b.isTextBlock = true ∧
      b.children.any Node.isLeaf = true := by
  obtain ⟨path, ns, hb, hleaves, hne, hmarked, -⟩ := h.exists_block
  have htext : ({ σ.block with children := ns } : Block).isTextBlock = true :=
    Node.areLeaves_iff.mp hleaves
  have hnormal := mem_blocksOf_normalize h.uniform.areBlocks htext hne (mem_blocksOf.mpr ⟨path, hb⟩)
  obtain ⟨path', hb'⟩ := mem_blocksOf.mp hnormal
  obtain ⟨hleaves', hne'⟩ := Block.areLeaves_normalize htext hne
  have hmarked' := (Block.marked_normalize { σ.block with children := ns }).trans hmarked
  refine ⟨path', _, ⟨hb', ?_, ?_⟩, Block.kind_normalize _, Node.areLeaves_iff.mp hleaves', ?_⟩
  · rw [Block.id_normalize, h.block_eq]
  · rw [ownText_of_marked hleaves' hmarked', h.offset_eq]
    exact Text.isBoundary_iff.mpr ⟨_, _, rfl, rfl⟩
  · exact hleaves'.any_isLeaf hne'

/-- A cursor that goes to a seam is there afterwards. -/
theorem In.exists_selection_committed (h : σ.In d p) :
    ∃ q, (d.committed (some (.collapsed p))).selection = some (.collapsed q) ∧
      (d.committed (some (.collapsed p))).blockPoint q = .ok p := by
  obtain ⟨path, b, hin, -, htext, hleaf⟩ := h.exists_in_normalize
  have hnodup := nodup_ids_normalize h.uniform.areBlocks h.nodup
  obtain ⟨q, hq, hpoint⟩ := exists_resolve? hnodup hin htext hleaf
  refine ⟨q, ?_, hpoint⟩
  simp only [committed, Option.map_some, resolveRange, BlockRange.collapsed, hq, Option.some_or]
  rfl

end Seam

end Document

end BlockNotes
