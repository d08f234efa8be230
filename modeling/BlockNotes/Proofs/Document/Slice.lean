import BlockNotes.Proofs.Document.Seam

/-!
# The text between two points

What a range holds is put together from parts of leaves, so the leaves of a document are
listed here with their paths, in document order (`Document.leaves`).  Each of them
branches off to the left of those behind it, so a leaf is cut at the ends of a range, or
it is inside of the range or outside of it as a whole.

Where every block has only leaves or only blocks, the text in a range is the piece of the
text of the document that lies between the two ends (`Document.textIn_between`), and if
both ends are in one block it is the piece of the text of this block
(`Document.Site.slice?_text`).
-/

namespace BlockNotes

/-! ## Leaves with their paths -/

mutual

/-- The leaves in and below a block with their paths, in document order. -/
def Block.leavesAt (path : Path) : Block → List (Path × Leaf)
  | ⟨_, _, children⟩ => Node.leavesFrom path 0 children

/-- The leaves among and below nodes with their paths; the first node has the given index. -/
def Node.leavesFrom (parent : Path) (index : Nat) : List Node → List (Path × Leaf)
  | [] => []
  | .leaf l :: rest => (parent ++ [index], l) :: Node.leavesFrom parent (index + 1) rest
  | .block b :: rest =>
    b.leavesAt (parent ++ [index]) ++ Node.leavesFrom parent (index + 1) rest

end

theorem Block.leavesAt_eq (path : Path) (b : Block) :
    b.leavesAt path = Node.leavesFrom path 0 b.children := by
  cases b
  rfl

namespace Node

/-- The text of leaves. -/
def textAlong (xs : List (Path × Leaf)) : Text := xs.flatMap fun x => x.2.text

@[simp] theorem textAlong_nil : textAlong [] = [] := rfl

@[simp] theorem textAlong_cons (x : Path × Leaf) (xs : List (Path × Leaf)) :
    textAlong (x :: xs) = x.2.text ++ textAlong xs := rfl

@[simp] theorem textAlong_append (xs ys : List (Path × Leaf)) :
    textAlong (xs ++ ys) = textAlong xs ++ textAlong ys := List.flatMap_append

theorem leavesFrom_append (parent : Path) (k : Nat) (ns ms : List Node) :
    leavesFrom parent k (ns ++ ms) =
      leavesFrom parent k ns ++ leavesFrom parent (k + ns.length) ms := by
  induction ns generalizing k with
  | nil => rfl
  | cons n ns ih =>
    have hcount : k + 1 + ns.length = k + (ns.length + 1) := by omega
    cases n <;> simp [leavesFrom, ih, hcount]

end Node

mutual

theorem Block.textAlong_leavesAt (path : Path) :
    (b : Block) → Node.textAlong (b.leavesAt path) = b.text
  | ⟨_, _, children⟩ => Node.textAlong_leavesFrom path 0 children

theorem Node.textAlong_leavesFrom (parent : Path) (k : Nat) :
    (ns : List Node) → Node.textAlong (Node.leavesFrom parent k ns) = Node.textOf ns
  | [] => rfl
  | .leaf l :: rest => congrArg (l.text ++ ·) (Node.textAlong_leavesFrom parent (k + 1) rest)
  | .block b :: rest => by
    rw [Node.leavesFrom, Node.textAlong_append, Block.textAlong_leavesAt _ b,
      Node.textAlong_leavesFrom parent (k + 1) rest, Node.textOf]

end

mutual

theorem Block.exists_path_of_leavesAt (path : Path) {x : Path × Leaf} :
    (b : Block) → x ∈ b.leavesAt path → ∃ p, x.1 = path ++ p
  | ⟨_, _, children⟩, hx => by
    obtain ⟨i, p, -, hp⟩ := Node.exists_path_of_leavesFrom path 0 children hx
    exact ⟨_, hp⟩

/-- The path of a leaf goes through one of the nodes. -/
theorem Node.exists_path_of_leavesFrom (parent : Path) (k : Nat) {x : Path × Leaf} :
    (ns : List Node) → x ∈ Node.leavesFrom parent k ns →
      ∃ i p, k ≤ i ∧ x.1 = parent ++ i :: p
  | .leaf l :: rest, hx => by
    rcases List.mem_cons.mp hx with rfl | hx
    · exact ⟨k, [], Nat.le_refl k, rfl⟩
    · obtain ⟨i, p, hi, hp⟩ := Node.exists_path_of_leavesFrom parent (k + 1) rest hx
      exact ⟨i, p, Nat.le_of_succ_le hi, hp⟩
  | .block b :: rest, hx => by
    rcases List.mem_append.mp hx with hx | hx
    · obtain ⟨p, hp⟩ := Block.exists_path_of_leavesAt (parent ++ [k]) b hx
      exact ⟨k, p, Nat.le_refl k, by simp [hp]⟩
    · obtain ⟨i, p, hi, hp⟩ := Node.exists_path_of_leavesFrom parent (k + 1) rest hx
      exact ⟨i, p, Nat.le_of_succ_le hi, hp⟩

end

mutual

theorem Block.pairwise_leavesAt (path : Path) :
    (b : Block) → (b.leavesAt path).Pairwise fun x y => Path.Before x.1 y.1
  | ⟨_, _, children⟩ => Node.pairwise_leavesFrom path 0 children

/-- Each leaf branches off to the left of those behind it. -/
theorem Node.pairwise_leavesFrom (parent : Path) (k : Nat) :
    (ns : List Node) → (Node.leavesFrom parent k ns).Pairwise fun x y => Path.Before x.1 y.1
  | [] => .nil
  | .leaf l :: rest => by
    refine List.pairwise_cons.mpr ⟨?_, Node.pairwise_leavesFrom parent (k + 1) rest⟩
    intro y hy
    obtain ⟨i, p, hi, hp⟩ := Node.exists_path_of_leavesFrom parent (k + 1) rest hy
    exact ⟨parent, k, i, [], p, hi, rfl, hp⟩
  | .block b :: rest => by
    refine List.pairwise_append.mpr ⟨Block.pairwise_leavesAt _ b,
      Node.pairwise_leavesFrom parent (k + 1) rest, ?_⟩
    intro x hx y hy
    obtain ⟨p, hp⟩ := Block.exists_path_of_leavesAt (parent ++ [k]) b hx
    obtain ⟨i, q, hi, hq⟩ := Node.exists_path_of_leavesFrom parent (k + 1) rest hy
    exact ⟨parent, k, i, p, q, hi, by simp [hp], hq⟩

end

namespace Node

/-- The leaves below a place are a piece of all leaves, and before it there are as many characters
as in the leaves before this piece. -/
theorem exists_leavesFrom_of_childrenAt? {ns cs : List Node} {path : Path}
    (h : childrenAt? ns path = some cs) (parent : Path) :
    ∃ xs ys, leavesFrom parent 0 ns = xs ++ leavesFrom (parent ++ path) 0 cs ++ ys ∧
      ∀ i q offset, charsBefore ns (path ++ i :: q) offset =
        (textAlong xs).length + charsBefore cs (i :: q) offset := by
  induction path generalizing ns parent with
  | nil =>
    cases h
    exact ⟨[], [], by simp, by simp⟩
  | cons j path ih =>
    rw [childrenAt?_cons] at h
    obtain ⟨b, hb, hbelow⟩ := Option.bind_eq_some_iff.mp h
    obtain ⟨front, back, rfl, rfl⟩ := exists_split_of_block? hb
    obtain ⟨xs, ys, hleaves, hcount⟩ := ih hbelow (parent ++ [front.length])
    refine ⟨leavesFrom parent 0 front ++ xs,
      ys ++ leavesFrom parent (front.length + 1) back, ?_, ?_⟩
    · rw [leavesFrom_append, leavesFrom, Block.leavesAt_eq, Nat.zero_add, hleaves]
      simp
    · intro i q offset
      rw [List.cons_append, charsBefore_block, hcount, textAlong_append, textAlong_leavesFrom,
        List.length_append, Nat.add_assoc]

end Node

/-! ## Parts of leaves -/

namespace Document

variable {d : Document} {p q : Point} {path : Path} {l : Leaf}

theorem leafPart_of_before (h : path < p.path) : leafPart p q path l = [] := if_pos (.inl h)

theorem leafPart_of_behind (h : q.path < path) : leafPart p q path l = [] := if_pos (.inr h)

/-- The part of a leaf that is cut at the first point, at the second one, at both or at none. -/
theorem leafPart_of_parts {a b c : Text} (htext : l.text = a ++ b ++ c)
    (hstart : p.path < path ∧ a = [] ∨ p = ⟨path, a.bytes⟩)
    (hstop : path < q.path ∧ c = [] ∨ q = ⟨path, (a ++ b).bytes⟩) :
    leafPart p q path l = b := by
  have hfrom : ¬ path < p.path ∧ (if path = p.path then p.offset else 0) = a.bytes := by
    rcases hstart with ⟨hlt, rfl⟩ | rfl
    · exact ⟨List.lt_asymm hlt, if_neg (ne_of_gt hlt)⟩
    · exact ⟨List.lt_irrefl _, if_pos rfl⟩
  have hto : ¬ q.path < path ∧ (if path = q.path then q.offset else l.size) = (a ++ b).bytes := by
    rcases hstop with ⟨hlt, rfl⟩ | rfl
    · exact ⟨List.lt_asymm hlt, by rw [if_neg (ne_of_lt hlt), Leaf.size, htext, List.append_nil]⟩
    · exact ⟨List.lt_irrefl _, if_pos rfl⟩
  have hle : (a ++ b).bytes ≤ l.size := by
    rw [Leaf.size, htext, Text.bytes_append (a ++ b)]
    exact Nat.le_add_right _ _
  have hab : a.bytes ≤ (a ++ b).bytes := by
    rw [Text.bytes_append]
    exact Nat.le_add_right _ _
  rw [leafPart, if_neg (not_or.mpr ⟨hfrom.1, hto.1⟩)]
  dsimp only
  rw [hfrom.2, hto.2, Nat.min_eq_left hab, Nat.min_eq_left hle, htext, Text.slice?_append,
    Option.getD_some]

variable {xs ys xs' ys' : List (Path × Leaf)}

theorem flatMap_leafPart_of_before (h : ∀ x ∈ xs, Path.Before x.1 p.path) :
    (xs.flatMap fun x => leafPart p q x.1 x.2) = [] :=
  List.flatMap_eq_nil_iff.mpr fun x hx => leafPart_of_before (h x hx).lt

theorem flatMap_leafPart_of_behind (h : ∀ x ∈ xs, Path.Before q.path x.1) :
    (xs.flatMap fun x => leafPart p q x.1 x.2) = [] :=
  List.flatMap_eq_nil_iff.mpr fun x hx => leafPart_of_behind (h x hx).lt

theorem flatMap_leafPart_of_inside (hstart : ∀ x ∈ xs, Path.Before p.path x.1)
    (hstop : ∀ x ∈ xs, Path.Before x.1 q.path) :
    (xs.flatMap fun x => leafPart p q x.1 x.2) = Node.textAlong xs :=
  List.flatMap_congr fun x hx => leafPart_of_parts (a := []) (c := []) (by simp)
    (.inl ⟨(hstart x hx).lt, rfl⟩) (.inl ⟨(hstop x hx).lt, rfl⟩)

/-- What comes before the second of two points, in a list of leaves that are both cut: what comes
before the first one, and then the parts between them. -/
theorem textAlong_between {L : List (Path × Leaf)} {P Q : Path} {k l : Leaf} {a b a' b' : Text}
    (hL : L.Pairwise fun x y => Path.Before x.1 y.1) (hk : L = xs ++ (P, k) :: ys)
    (hl : L = xs' ++ (Q, l) :: ys') (hkcut : k.text = a ++ b) (hlcut : l.text = a' ++ b')
    (hle : (⟨P, a.bytes⟩ : Point) ≤ ⟨Q, a'.bytes⟩) :
    Node.textAlong xs ++ a ++ L.flatMap (fun x => leafPart ⟨P, a.bytes⟩ ⟨Q, a'.bytes⟩ x.1 x.2) =
      Node.textAlong xs' ++ a' := by
  have hnodup : L.Nodup := by
    refine hL.imp ?_
    rintro x _ h rfl
    exact List.lt_irrefl _ h.lt
  have hmem : (Q, l) ∈ xs ++ (P, k) :: ys := by
    rw [← hk, hl]
    exact List.mem_append_right _ List.mem_cons_self
  rw [hk, List.pairwise_append, List.pairwise_cons] at hL
  obtain ⟨-, ⟨hbehind, hys⟩, hbefore⟩ := hL
  have hxs : ∀ x ∈ xs, Path.Before x.1 P := fun x hx => hbefore x hx _ List.mem_cons_self
  rw [List.mem_append, List.mem_cons] at hmem
  rcases hmem with hfront | heq | hback
  · exact absurd (.inl (hxs _ hfront).lt) hle
  · -- Both points are in one leaf.
    cases heq
    obtain ⟨rfl, -⟩ := Node.eq_of_split_of_nodup hnodup hk hl
    have hbytes : a.bytes ≤ a'.bytes := Nat.le_of_not_lt fun hlt => hle (.inr ⟨rfl, hlt⟩)
    obtain ⟨c, rfl, -⟩ := Text.exists_between_of_append_eq (hkcut.symm.trans hlcut) hbytes
    rw [hk, List.flatMap_append, List.flatMap_cons, flatMap_leafPart_of_before hxs,
      flatMap_leafPart_of_behind hbehind, leafPart_of_parts hlcut (.inr rfl) (.inr rfl)]
    simp
  · obtain ⟨zs, ws, rfl⟩ := List.append_of_mem hback
    have hk' : L = (xs ++ (P, k) :: zs) ++ (Q, l) :: ws := by rw [hk]; simp
    obtain ⟨rfl, -⟩ := Node.eq_of_split_of_nodup hnodup hk' hl
    rw [List.pairwise_append, List.pairwise_cons] at hys
    obtain ⟨-, ⟨hws, -⟩, hzs⟩ := hys
    have hPQ : P < Q := (hbehind _ hback).lt
    have hfirst : leafPart ⟨P, a.bytes⟩ ⟨Q, a'.bytes⟩ P k = b :=
      leafPart_of_parts (c := []) (by simp [hkcut]) (.inr rfl) (.inl ⟨hPQ, rfl⟩)
    have hlast : leafPart ⟨P, a.bytes⟩ ⟨Q, a'.bytes⟩ Q l = a' :=
      leafPart_of_parts (a := []) hlcut (.inl ⟨hPQ, rfl⟩) (.inr rfl)
    have hend := flatMap_leafPart_of_behind (p := ⟨P, a.bytes⟩) (q := ⟨Q, a'.bytes⟩) hws
    have hmiddle := flatMap_leafPart_of_inside (p := ⟨P, a.bytes⟩) (q := ⟨Q, a'.bytes⟩)
      (fun x hx => hbehind x (List.mem_append_left _ hx))
      fun x hx => hzs x hx _ List.mem_cons_self
    rw [hk', List.flatMap_append, List.flatMap_append, List.flatMap_cons, List.flatMap_cons,
      flatMap_leafPart_of_before hxs, hfirst, hmiddle, hlast, hend]
    simp [hkcut]

/-! ## The text of a document -/

/-- The leaves of a document with their paths, in document order. -/
def leaves (d : Document) : List (Path × Leaf) :=
  Node.leavesFrom [] 0 d.children

theorem partsFrom_eq_flatMap (parent : Path) (k : Nat) {ns : List Node} (h : Node.AreLeaves ns) :
    partsFrom p q parent k ns =
      (Node.leavesFrom parent k ns).flatMap fun x => leafPart p q x.1 x.2 := by
  induction ns generalizing k with
  | nil => rfl
  | cons n ns ih =>
    cases n with
    | leaf l => rw [partsFrom, ih (k + 1) h.cons, Node.leavesFrom, List.flatMap_cons]
    | block b => cases h _ List.mem_cons_self

theorem partsFrom_of_areBlocks (parent : Path) (k : Nat) {ns : List Node}
    (h : Node.AreBlocks ns) : partsFrom p q parent k ns = [] := by
  induction ns generalizing k with
  | nil => rfl
  | cons n ns ih =>
    rw [Node.areBlocks_cons] at h
    cases n with
    | leaf l => cases h.1
    | block b => rw [partsFrom, ih (k + 1) h.2]

end Document

theorem Node.walkFrom_of_areLeaves (parent : Path) (k : Nat) {ns : List Node} (h : AreLeaves ns) :
    walkFrom parent k ns = [] := by
  induction ns generalizing k with
  | nil => rfl
  | cons n ns ih =>
    cases n with
    | leaf l => exact ih (k + 1) h.cons
    | block b => cases h _ List.mem_cons_self

mutual

theorem Block.partsFrom_walk {p q : Point} (path : Path) : (b : Block) →
    Node.Homogeneous b.children → Node.Everywhere (fun b => Node.Homogeneous b.children) b.children →
      ((b.walk path).flatMap fun x => Document.partsFrom p q x.1 0 x.2.children) =
        (b.leavesAt path).flatMap fun x => Document.leafPart p q x.1 x.2
  | ⟨id, kind, children⟩, hb, hbelow => by
    rw [Block.walk, List.flatMap_cons]
    dsimp only at hb hbelow ⊢
    rcases hb with hleaves | hblocks
    · rw [Document.partsFrom_eq_flatMap path 0 hleaves, Node.walkFrom_of_areLeaves path 0 hleaves,
        List.flatMap_nil, List.append_nil, Block.leavesAt]
    · rw [Document.partsFrom_of_areBlocks path 0 hblocks, List.nil_append,
        Node.partsFrom_walkFrom path 0 children hblocks hbelow, Block.leavesAt]

/-- What the blocks of a tree have in a range is what its leaves have in it, as long as no block
has leaves beside blocks. -/
theorem Node.partsFrom_walkFrom {p q : Point} (parent : Path) (k : Nat) : (ns : List Node) →
    Node.AreBlocks ns → Node.Everywhere (fun b => Node.Homogeneous b.children) ns →
      ((Node.walkFrom parent k ns).flatMap fun x => Document.partsFrom p q x.1 0 x.2.children) =
        (Node.leavesFrom parent k ns).flatMap fun x => Document.leafPart p q x.1 x.2
  | [], _, _ => rfl
  | .leaf l :: _, hblocks, _ => by cases hblocks (.leaf l) List.mem_cons_self
  | .block b :: rest, hblocks, hbelow => by
    rw [Node.areBlocks_cons] at hblocks
    rw [Node.everywhere_block] at hbelow
    rw [Node.walkFrom, Node.leavesFrom, List.flatMap_append, List.flatMap_append,
      Block.partsFrom_walk _ b hbelow.1.1 hbelow.1.2,
      Node.partsFrom_walkFrom parent (k + 1) rest hblocks.2 hbelow.2]

end

namespace Document

variable {d : Document} {p q : Point} {r : Range} {path : Path} {b : Block} {m n : Nat}

theorem textIn_eq (h : Node.Uniform d.children) (r : Range) :
    d.textIn r = d.leaves.flatMap fun x => leafPart r.start r.stop x.1 x.2 :=
  Node.partsFrom_walkFrom [] 0 d.children h.areBlocks h.homogeneous

/-- A point in a leaf cuts the list of leaves. -/
theorem Addresses.exists_cut (h : d.Addresses p) : ∃ xs l ys u v,
    d.leaves = xs ++ (p.path, l) :: ys ∧ l.text = u ++ v ∧ u.bytes = p.offset ∧
      (Node.textAlong xs ++ u).length = d.charsBefore p := by
  obtain ⟨path, j, b, l, hpath, hb, hl, -, hoffset⟩ := h
  obtain ⟨u, v, htext, hu⟩ := Text.isBoundary_iff.mp hoffset
  obtain ⟨xs, ys, hleaves, hcount⟩ :=
    Node.exists_leavesFrom_of_childrenAt? (Node.childrenAt?_of_blockAt? hb) []
  obtain ⟨front, back, hchildren, rfl⟩ := Node.exists_split_of_getElem? hl
  refine ⟨xs ++ Node.leavesFrom path 0 front, l,
    Node.leavesFrom path (front.length + 1) back ++ ys, u, v, ?_, htext, hu, ?_⟩
  · rw [leaves, hleaves, hchildren, Node.leavesFrom_append, Node.leavesFrom, hpath]
    simp
  · rw [charsBefore, hpath, hcount, Node.textAlong_append, Node.textAlong_leavesFrom, hchildren]
    simp [Node.charsBefore, htext, ← hu]

/-- The text in a range is the piece of the text of the document between its ends. -/
theorem textIn_between (huniform : Node.Uniform d.children) (hstart : d.Addresses r.start)
    (hstop : d.Addresses r.stop) :
    ∃ before after, Node.textOf d.children = before ++ d.textIn r ++ after ∧
      before.length = d.charsBefore r.start ∧
      (before ++ d.textIn r).length = d.charsBefore r.stop := by
  obtain ⟨xs, k, ys, a, b, hk, hkcut, ha, hbefore⟩ := hstart.exists_cut
  obtain ⟨xs', l, ys', a', b', hl, hlcut, ha', hupto⟩ := hstop.exists_cut
  have hbetween := textAlong_between (Node.pairwise_leavesFrom [] 0 d.children) hk hl hkcut hlcut
    (by rw [ha, ha']; exact EditM.not_stop_lt_start r)
  rw [ha, ha', ← leaves] at hbetween
  have htext : Node.textOf d.children = Node.textAlong xs' ++ a' ++ (b' ++ Node.textAlong ys') := by
    rw [← Node.textAlong_leavesFrom [] 0, ← leaves, hl]
    simp [hlcut]
  rw [← textIn_eq huniform] at hbetween
  exact ⟨_, _, by rw [hbetween, htext], hbefore, by rw [hbetween, hupto]⟩

/-- The text of a block stands in the text of the document, and a position in the block is as many
characters behind the start of the block as its offset says. -/
theorem exists_text_around (hb : d.blockAt? path = some b) (hleaves : Node.AreLeaves b.children) :
    ∃ before after, Node.textOf d.children = before ++ b.text ++ after ∧
      ∀ p n, d.Site p path b n → d.charsBefore p = before.length + b.text.charsBefore n := by
  obtain ⟨xs, ys, hsplit, hcount⟩ :=
    Node.exists_leavesFrom_of_childrenAt? (Node.childrenAt?_of_blockAt? hb) []
  rw [Block.text_eq_ownText (Node.areLeaves_iff.mp hleaves)]
  refine ⟨Node.textAlong xs, Node.textAlong ys, ?_, ?_⟩
  · rw [← Node.textAlong_leavesFrom [] 0, hsplit, Node.textAlong_append, Node.textAlong_append,
      Node.textAlong_leavesFrom, Node.textOf_eq_ownText (Node.areLeaves_iff.mp hleaves)]
  · intro p n hp
    obtain ⟨index, l, hpath, hl, hoffset, rfl⟩ := hp.leaf
    rw [charsBefore, hpath, hcount, Node.charsBefore_leaf hleaves hl hoffset]

namespace Site

/-- The text in a range within one block is the piece of the text of the block. -/
theorem slice?_text (huniform : Node.Uniform d.children) (hp : d.Site r.start path b m)
    (hq : d.Site r.stop path b n) : b.text.slice? m n = some (d.textIn r) := by
  obtain ⟨front, back, htext, hfront, hupto⟩ := textIn_between huniform hp.addresses hq.addresses
  obtain ⟨before, after, haround, hcount⟩ := exists_text_around hp.blockAt? hp.areLeaves
  have hm := hp.isBoundary
  have hn := hq.isBoundary
  rw [← Block.text_eq_ownText hp.isTextBlock] at hm hn
  obtain ⟨u, v, hu, rfl⟩ := Text.isBoundary_iff.mp hm
  obtain ⟨u', v', hu', rfl⟩ := Text.isBoundary_iff.mp hn
  -- What is before the range is what is before the block, and then the text up to the first point.
  obtain ⟨hfront, -⟩ : front = before ++ u ∧ d.textIn r ++ back = v ++ after := by
    refine List.append_inj (by rw [← List.append_assoc, ← htext, haround, hu]; simp) ?_
    rw [hfront, hcount _ _ hp, hu, Text.charsBefore_append, List.length_append]
  obtain ⟨hupto, -⟩ : front ++ d.textIn r = before ++ u' ∧ back = v' ++ after := by
    refine List.append_inj (by rw [← htext, haround, hu']; simp) ?_
    rw [hupto, hcount _ _ hq, hu', Text.charsBefore_append, List.length_append]
  rw [hfront, List.append_assoc, List.append_cancel_left_eq] at hupto
  rw [hu', ← hupto, Text.slice?_append]

/-- The text from the start of a block to a point in it is what stands before the point. -/
theorem textIn_start (huniform : Node.Uniform d.children) (hp : d.Site p path b n) :
    ∃ after, b.text = d.textIn ⟨⟨path ++ [0], 0⟩, p⟩ ++ after ∧
      (d.textIn ⟨⟨path ++ [0], 0⟩, p⟩).bytes = n := by
  obtain ⟨hstart, hstop⟩ := site_start_stop hp.startOf_eq.2 hp (Nat.zero_le n)
  have hslice := hstart.slice?_text huniform hstop
  have hn := hp.isBoundary
  rw [← Block.text_eq_ownText hp.isTextBlock] at hn
  obtain ⟨before, after, htext, rfl⟩ := Text.isBoundary_iff.mp hn
  have hbefore := Text.slice?_append [] before after
  rw [List.nil_append, ← htext, Text.bytes_nil, hslice] at hbefore
  rw [Option.some.inj hbefore]
  exact ⟨after, htext, rfl⟩

end Site

end Document

end BlockNotes
