import BlockNotes.Proofs.Document.Rejoined

/-!
# The leaf that takes the text

Text that is put in at an offset goes into one leaf and gets its marks.  Where two
leaves meet it is the earlier one, so behind a character the text gets the marks of
this character (`Node.CutAt.marks_eq`), however the characters are cut into leaves.

So more text behind text that was just put in goes where the first text went.  The
normal form of the block may be taken in between or not: putting in both texts at once
comes to the same block (`Block.normalize_withText_withText`).  A list that holds leaves
is not brought into normal form.  There the leaf itself is found again, although leaves
next to it may be empty.
-/

namespace BlockNotes

namespace Node

variable {ns ms : List Node} {front back : List Node} {l : Leaf} {n : Nat} {a b t x y : Text}

/-! ## Finding the leaf -/

/-- Behind the start an offset is found behind the start of a leaf. -/
theorem locateFrom_pos {offset : Nat} (k : Nat) (last : Nat × Nat) (hns : AreLeaves ns)
    (hpos : 0 < offset) (hle : offset ≤ size ns) : 0 < (locateFrom k last offset ns).2 := by
  induction ns generalizing k last offset with
  | nil => exact absurd (Nat.lt_of_lt_of_le hpos hle) (Nat.lt_irrefl 0)
  | cons m ns ih =>
    cases m with
    | block c => cases hns (.block c) List.mem_cons_self
    | leaf l =>
      rw [size] at hle
      rw [locateFrom]
      split
      next => exact hpos
      next hlt => exact ih _ _ hns.cons (by omega) (by omega)

/-- Behind the start of a leaf an offset is found in it. -/
theorem locateFrom_append (k : Nat) (last : Nat × Nat) (hfront : AreLeaves front) {i : Nat}
    (hpos : 0 < i) (hle : i ≤ l.size) :
    locateFrom k last (size front + i) (front ++ .leaf l :: back) = (k + front.length, i) := by
  induction front generalizing k last with
  | nil =>
    rw [size, Nat.zero_add, List.nil_append, locateFrom, if_pos hle]
    rfl
  | cons m front ih =>
    cases m with
    | block c => cases hfront (.block c) List.mem_cons_self
    | leaf l' =>
      rw [size, List.cons_append, locateFrom, if_neg (by omega),
        show l'.size + size front + i - l'.size = size front + i by omega, ih _ _ hfront.cons,
        List.length_cons, Nat.add_assoc, Nat.add_comm 1]

/-- An offset among leaves is in a leaf, behind a part of its text. -/
structure CutAt (ns : List Node) (n : Nat) (front : List Node) (l : Leaf) (x y : Text)
    (back : List Node) : Prop where
  areLeaves : AreLeaves ns
  eq : ns = front ++ .leaf l :: back
  text : l.text = x ++ y
  locate : locate ns n = (front.length, x.bytes)
  offset : n = size front + x.bytes

theorem exists_cutAt (hns : AreLeaves ns) (hne : ns ≠ []) (hn : (ownText ns).isBoundary n = true) :
    ∃ front l x y back, CutAt ns n front l x y back := by
  obtain ⟨front, l, back, x, y, rfl, hxy, hloc, htake, -⟩ := exists_cut hns hne hn
  refine ⟨front, l, x, y, back, hns, rfl, hxy, hloc, ?_⟩
  have hfront : AreLeaves front := fun m hm => hns m (List.mem_append_left _ hm)
  have hbytes := bytes_take_marked hns hn
  rw [htake, List.map_append, map_fst_marked, textOf_eq_ownText (areLeaves_iff.mp hfront),
    Text.bytes_append, bytes_ownText] at hbytes
  simpa [Function.comp_def] using hbytes.symm

namespace CutAt

theorem areLeaves_set (h : CutAt ns n front l x y back) (l' : Leaf) :
    AreLeaves (front ++ .leaf l' :: back) := by
  obtain ⟨hns, rfl, -⟩ := h
  intro m hm
  rcases List.mem_append.mp hm with hm | hm
  · exact hns m (List.mem_append_left _ hm)
  · rcases List.mem_cons.mp hm with rfl | hm
    · rfl
    · exact hns m (List.mem_append_right _ (List.mem_cons_of_mem _ hm))

/-- Text is put into the leaf. -/
theorem insertText? (h : CutAt ns n front l x y back) (t : Text) :
    Node.insertText? ns n t = some (front ++ .leaf { l with text := x ++ t ++ y } :: back) := by
  obtain ⟨-, rfl, hxy, hloc, -⟩ := h
  have hempty : (front ++ .leaf l :: back).isEmpty = false := by simp
  rw [Node.insertText?, hempty, if_neg Bool.false_ne_true, hloc]
  simp only [List.getElem?_append_right (Nat.le_refl _), Nat.sub_self, List.getElem?_cons_zero,
    hxy, Text.insert?_append, Option.bind_eq_bind, Option.bind_some,
    List.set_append_right _ _ (Nat.le_refl _), List.set_cons_zero]

/-- Behind text that was put in the offset is in the same leaf. -/
theorem behind (h : CutAt ns n front l x y back) (ha : a ≠ []) :
    CutAt (front ++ .leaf { l with text := x ++ a ++ y } :: back) (n + a.bytes) front
      { l with text := x ++ a ++ y } (x ++ a) y back := by
  have hleaves := h.areLeaves_set { l with text := x ++ a ++ y }
  obtain ⟨-, -, -, -, rfl⟩ := h
  have hpos : 0 < a.bytes := Nat.pos_of_ne_zero fun h => ha (Text.bytes_eq_zero.mp h)
  have hfront : AreLeaves front := fun m hm => hleaves m (List.mem_append_left _ hm)
  refine ⟨hleaves, rfl, rfl, ?_, ?_⟩
  · have hsize : x.bytes + a.bytes ≤ Leaf.size { l with text := x ++ a ++ y } := by
      rw [Leaf.size, Text.bytes_append, Text.bytes_append]
      exact Nat.le_add_right _ _
    rw [Text.bytes_append, Nat.add_assoc, Node.locate,
      locateFrom_append 0 (0, 0) hfront (Nat.add_pos_right _ hpos) hsize, Nat.zero_add]
  · rw [Text.bytes_append, Nat.add_assoc]

theorem take_eq (h : CutAt ns n front l x y back) :
    (marked ns).take ((ownText ns).charsBefore n) = marked front ++ x.map (·, l.marks) := by
  obtain ⟨hns, rfl, hxy, -, rfl⟩ := h
  have hfront : AreLeaves front := fun m hm => hns m (List.mem_append_left _ hm)
  rw [charsBefore_cut hfront hxy, marked_append, marked_leaf, hxy, List.map_append,
    List.append_assoc, ← List.append_assoc, List.take_left]

theorem isBoundary (h : CutAt ns n front l x y back) : (ownText ns).isBoundary n = true := by
  obtain ⟨-, rfl, hxy, -, rfl⟩ := h
  refine Text.isBoundary_iff.mpr ⟨ownText front ++ x, y ++ ownText back, ?_, ?_⟩
  · rw [ownText_append, ownText, hxy]
    simp only [List.append_assoc]
  · rw [Text.bytes_append, bytes_ownText]

/-- Behind a character the leaf has the marks of this character. -/
theorem marks_eq (h : CutAt ns n front l x y back) {before : List (Char × Marks)} {marks : Marks}
    (hbefore : (marked ns).take ((ownText ns).charsBefore n) = before ++ a.map (·, marks))
    (ha : a ≠ []) : l.marks = marks := by
  have hx : x ≠ [] := by
    rintro rfl
    have hpos : 0 < n := by
      refine Nat.pos_of_ne_zero ?_
      rintro rfl
      rw [Text.charsBefore_zero, List.take_zero, eq_comm, List.append_eq_nil_iff,
        List.map_eq_nil_iff] at hbefore
      exact ha hbefore.2
    have hle : n ≤ size ns := by
      rw [← bytes_ownText]
      exact Text.le_bytes_of_isBoundary h.isBoundary
    have hfound : 0 < (Node.locate ns n).2 := locateFrom_pos 0 (0, 0) h.areLeaves hpos hle
    rw [h.locate] at hfound
    exact absurd hfound (Nat.lt_irrefl 0)
  have hsame := h.take_eq.symm.trans hbefore
  obtain ⟨x, c, rfl⟩ := (List.eq_nil_or_concat x).resolve_left hx
  obtain ⟨a, c', rfl⟩ := (List.eq_nil_or_concat a).resolve_left ha
  simp only [List.concat_eq_append, List.map_append, List.map_cons, List.map_nil,
    ← List.append_assoc] at hsame
  obtain ⟨-, hlast⟩ := List.append_inj' hsame rfl
  cases hlast
  rfl

/-- The characters where text was put in. -/
theorem marked_set (h : CutAt ns n front l x y back) (t : Text) :
    marked (front ++ .leaf { l with text := x ++ t ++ y } :: back) =
      (marked ns).take ((ownText ns).charsBefore n) ++ t.map (·, l.marks) ++
        (marked ns).drop ((ownText ns).charsBefore n) := by
  have hdrop : (marked ns).drop ((ownText ns).charsBefore n) = y.map (·, l.marks) ++ marked back := by
    have hall := List.take_append_drop ((ownText ns).charsBefore n) (marked ns)
    refine List.append_cancel_left (hall.trans ?_)
    rw [h.take_eq, h.eq, marked_append, marked_leaf, h.text, List.map_append]
    simp only [List.append_assoc]
  rw [h.take_eq, hdrop, marked_append, marked_leaf]
  simp only [List.map_append, List.append_assoc]

end CutAt

end Node

/-! ## Text behind text -/

namespace Block

variable {b : Block} {n : Nat} {t a : Text}

/-- A list that holds leaves is in normal form as it is. -/
theorem normalize_of_isList (hlist : b.kind.isList = true) (hleaves : Node.AreLeaves b.children) :
    b.normalize = b := by
  obtain ⟨id, kind, children⟩ := b
  obtain ⟨hsame, hkept⟩ := Node.normalizeAll_of_settled _ (Node.everywhere_of_areLeaves hleaves)
  rw [Block.normalize, hsame, hkept, if_neg (by simp [show kind.isList = true from hlist])]

/-- Where there are characters they decide the normal form of a block that is no list. -/
theorem normalize_congr (id : BlockId) {kind : Kind} (hlist : kind.isList = false) {ns ms : List Node}
    (hns : Node.AreLeaves ns) (hms : Node.AreLeaves ms) (hmarked : Node.marked ns = Node.marked ms)
    (hne : Node.marked ns ≠ []) :
    (⟨id, kind, ns⟩ : Block).normalize = (⟨id, kind, ms⟩ : Block).normalize := by
  rw [← Node.map_leaf_filterMap_leaf? hns, ← Node.map_leaf_filterMap_leaf? hms,
    normalize_map_leaf id hlist, normalize_map_leaf id hlist]
  rw [Node.marked_of_areLeaves hns] at hmarked hne
  rw [Node.marked_of_areLeaves hms] at hmarked
  rw [Leaf.normalize_congr hmarked hne]

/-- A block with text put in at an offset. -/
def withText (b : Block) (n : Nat) (t : Text) : Block :=
  { b with children := (Node.insertText? b.children n t).getD b.children }

theorem withText_eq {front back : List Node} {l : Leaf} {x y : Text}
    (h : Node.CutAt b.children n front l x y back) (t : Text) :
    b.withText n t = { b with children := front ++ .leaf { l with text := x ++ t ++ y } :: back } := by
  rw [withText, h.insertText? t, Option.getD_some]

/-- Text is put in at a boundary. -/
theorem insertText?_eq (hleaves : Node.AreLeaves b.children) (hne : b.children ≠ [])
    (hn : (Node.ownText b.children).isBoundary n = true) (t : Text) :
    Node.insertText? b.children n t = some (b.withText n t).children ∧
      Node.AreLeaves (b.withText n t).children ∧ (b.withText n t).children ≠ [] := by
  obtain ⟨front, l, x, y, back, hcut⟩ := Node.exists_cutAt hleaves hne hn
  rw [withText_eq hcut]
  exact ⟨hcut.insertText? t, hcut.areLeaves_set _, by simp⟩

/-- Behind a text that was put in there is a boundary. -/
theorem isBoundary_withText (hleaves : Node.AreLeaves b.children) (hne : b.children ≠ [])
    (hn : (Node.ownText b.children).isBoundary n = true) (t : Text) :
    (Node.ownText (b.withText n t).children).isBoundary (n + t.bytes) = true := by
  obtain ⟨front, l, x, y, back, hcut⟩ := Node.exists_cutAt hleaves hne hn
  rw [withText_eq hcut t, hcut.offset]
  refine Text.isBoundary_iff.mpr ⟨Node.ownText front ++ x ++ t, y ++ Node.ownText back, ?_, ?_⟩
  · simp only [Node.ownText_append, Node.ownText, List.append_assoc]
  · simp only [Text.bytes_append, Node.bytes_ownText]

/-- Where a block has the characters of other leaves, text behind a character is put into both in the
same way. -/
theorem normalize_withText_congr (hlist : b.kind.isList = false) (hleaves : Node.AreLeaves b.children)
    (hne : b.children ≠ []) {ns front back : List Node} {l : Leaf} {x y : Text}
    (hcut : Node.CutAt ns n front l x y back) (hx : x ≠ [])
    (hmarked : Node.marked b.children = Node.marked ns) (t : Text) :
    (b.withText n t).normalize =
      (⟨b.id, b.kind, front ++ .leaf { l with text := x ++ t ++ y } :: back⟩ : Block).normalize := by
  have htext := Node.ownText_congr hleaves hcut.areLeaves hmarked
  have hn : (Node.ownText b.children).isBoundary n = true := by
    rw [htext]
    exact hcut.isBoundary
  obtain ⟨front', l', x', y', back', hcut'⟩ := Node.exists_cutAt hleaves hne hn
  have hbefore : (Node.marked b.children).take ((Node.ownText b.children).charsBefore n) =
      Node.marked front ++ x.map (·, l.marks) := by
    rw [hmarked, htext, hcut.take_eq]
  have hchars : Node.marked (front' ++ .leaf { l' with text := x' ++ t ++ y' } :: back') =
      Node.marked (front ++ .leaf { l with text := x ++ t ++ y } :: back) := by
    rw [hcut'.marked_set t, hcut.marked_set t, hcut'.marks_eq hbefore hx, hmarked, htext]
  rw [withText_eq hcut' t]
  refine normalize_congr b.id hlist (hcut'.areLeaves_set _) (hcut.areLeaves_set _) hchars ?_
  rw [hchars, hcut.marked_set t, hcut.take_eq]
  simp [hx]

/-- Behind a text more text is put in where the first one was, whether the block is brought into normal
form in between or not. -/
theorem normalize_withText_withText (hleaves : Node.AreLeaves b.children) (hne : b.children ≠ [])
    (hn : (Node.ownText b.children).isBoundary n = true) (ha : a ≠ []) (t : Text) :
    ((b.withText n a).normalize.withText (n + a.bytes) t).normalize =
      (b.withText n (a ++ t)).normalize := by
  obtain ⟨front, l, x, y, back, hcut⟩ := Node.exists_cutAt hleaves hne hn
  have hbehind : Node.CutAt (b.withText n a).children (n + a.bytes) front
      { l with text := x ++ a ++ y } (x ++ a) y back := by
    rw [withText_eq hcut a]
    exact hcut.behind ha
  have hassoc : x ++ (a ++ t) ++ y = x ++ a ++ t ++ y := by simp only [List.append_assoc]
  rw [withText_eq hcut (a ++ t), hassoc]
  cases hlist : b.kind.isList with
  | true =>
    rw [normalize_of_isList (b := b.withText n a) hlist hbehind.areLeaves, withText_eq hbehind t]
    rfl
  | false =>
    obtain ⟨hleaves', hne'⟩ := areLeaves_normalize (b := b.withText n a)
      (Node.areLeaves_iff.mp hbehind.areLeaves) (insertText?_eq hleaves hne hn a).2.2
    rw [normalize_withText_congr (by rw [kind_normalize]; exact hlist) hleaves' hne' hbehind
      (by simp [ha]) (marked_normalize _) t, id_normalize, kind_normalize]
    rfl

end Block

end BlockNotes
