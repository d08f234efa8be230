import BlockNotes.Proofs.Document.Position

/-!
# The characters of leaves

What the pieces of surgery on leaves do to their characters, each with its marks.
A byte offset at a boundary comes after so many characters
(`Text.charsBefore`), and counted in these the pieces of surgery are those on
lists: deleting text keeps the characters in front of its start and from its end
on, a split cuts the characters in two, and what is put in comes between them
with one set of marks.
-/

namespace BlockNotes.Node

/-! ## Counting -/

theorem map_fst_marked (ns : List Node) : (marked ns).map Prod.fst = textOf ns := by
  rw [marked, Leaf.marked]
  induction ns using textOf.induct (fun b => (Leaf.marked b.allLeaves).map Prod.fst = b.text) with
  | case1 id kind children ih => exact ih
  | case2 => rfl
  | case3 l rest ih =>
    rw [leavesOf, textOf, List.flatMap_cons, List.map_append, ih]
    simp [Function.comp_def]
  | case4 b rest hb ih =>
    rw [leavesOf, textOf, List.flatMap_append, List.map_append, ih]
    exact congrArg (· ++ textOf rest) hb

theorem length_marked (ns : List Node) : (marked ns).length = (textOf ns).length := by
  rw [← map_fst_marked, List.length_map]

/-- Leaves have as many characters as their text. -/
theorem length_marked_of_areLeaves {ns : List Node} (h : AreLeaves ns) :
    (marked ns).length = (ownText ns).length := by
  rw [length_marked, textOf_eq_ownText (areLeaves_iff.mp h)]

/-- Leaves with the same characters have the same text. -/
theorem ownText_congr {ns ms : List Node} (hns : AreLeaves ns) (hms : AreLeaves ms)
    (h : marked ns = marked ms) : ownText ns = ownText ms := by
  rw [← textOf_eq_ownText (areLeaves_iff.mp hns), ← textOf_eq_ownText (areLeaves_iff.mp hms),
    ← map_fst_marked, ← map_fst_marked, h]

/-- The characters before a boundary are as long as its offset. -/
theorem bytes_take_marked {ns : List Node} (h : AreLeaves ns) {offset : Nat}
    (hoffset : (ownText ns).isBoundary offset = true) :
    Text.bytes (((marked ns).take ((ownText ns).charsBefore offset)).map Prod.fst) = offset := by
  obtain ⟨a, b, hab, rfl⟩ := Text.isBoundary_iff.mp hoffset
  rw [List.map_take, map_fst_marked, textOf_eq_ownText (areLeaves_iff.mp h), hab,
    Text.charsBefore_append, List.take_left]

theorem AreLeaves.cons {l : Leaf} {ns : List Node} (h : AreLeaves (.leaf l :: ns)) : AreLeaves ns :=
  fun n hn => h n (List.mem_cons_of_mem _ hn)

/-! ## Deleting -/

/-- The first characters of two parts, where they end in the first part or take it all. -/
theorem take_append_add {α : Type} {xs ys : List α} {i j : Nat} (hi : i ≤ xs.length)
    (h : i = xs.length ∨ j = 0) : (xs ++ ys).take (i + j) = xs.take i ++ ys.take j := by
  rw [List.take_append]
  rcases h with rfl | rfl
  · rw [List.take_of_length_le (Nat.le_add_right _ _), List.take_length, Nat.add_sub_cancel_left]
  · rw [Nat.add_zero, Nat.sub_eq_zero_of_le hi]

/-- The last characters of two parts, where they begin in the first part or take none of it. -/
theorem drop_append_add {α : Type} {xs ys : List α} {i j : Nat} (hi : i ≤ xs.length)
    (h : i = xs.length ∨ j = 0) : (xs ++ ys).drop (i + j) = xs.drop i ++ ys.drop j := by
  rw [List.drop_append]
  rcases h with rfl | rfl
  · rw [List.drop_of_length_le (Nat.le_add_right _ _), List.drop_length, Nat.add_sub_cancel_left]
  · rw [Nat.add_zero, Nat.sub_eq_zero_of_le hi]

/-- The characters before an offset in a text and one behind it. -/
theorem charsBefore_append_cases {s t : Text} {n : Nat} (hn : (s ++ t).isBoundary n = true) :
    (s ++ t).charsBefore n = s.charsBefore (min n s.bytes) + t.charsBefore (n - s.bytes) ∧
      (s.charsBefore (min n s.bytes) = s.length ∨ t.charsBefore (n - s.bytes) = 0) := by
  by_cases hle : n ≤ s.bytes
  · rw [Nat.min_eq_left hle, Nat.sub_eq_zero_of_le hle, Text.charsBefore_zero,
      Text.charsBefore_append_left hn hle]
    exact ⟨rfl, .inr rfl⟩
  · obtain ⟨m, rfl⟩ := Nat.exists_eq_add_of_le (Nat.le_of_not_le hle)
    rw [Nat.min_eq_right (Nat.le_add_right _ _), Nat.add_sub_cancel_left, Text.charsBefore_bytes,
      Text.charsBefore_append_add]
    exact ⟨rfl, .inl rfl⟩

/-- What is left of a leaf when text is deleted. -/
theorem marked_of_eraseText?_leaf {l : Leaf} {text : Text} {start stop : Nat} (hle : start ≤ stop)
    (hstart : l.text.isBoundary (min start l.size) = true)
    (hstop : l.text.isBoundary (min stop l.size) = true)
    (h : (if min start l.size < min stop l.size then
      l.text.erase? (min start l.size) (min stop l.size) else some l.text) = some text) :
    text = l.text.take (l.text.charsBefore (min start l.size)) ++
      l.text.drop (l.text.charsBefore (min stop l.size)) := by
  split at h
  next hlt => exact Text.eq_of_erase? (Nat.le_of_lt hlt) hstart hstop h
  next hge =>
    cases h
    rw [show min start l.size = min stop l.size by omega, List.take_append_drop]

/-- Deleting text keeps the characters before its start and those from its end on. -/
theorem marked_eraseText? {ns ms : List Node} {start stop : Nat} (hns : AreLeaves ns)
    (hle : start ≤ stop) (hstart : (ownText ns).isBoundary start = true)
    (hstop : (ownText ns).isBoundary stop = true) (h : eraseText? start stop ns = some ms) :
    marked ms = (marked ns).take ((ownText ns).charsBefore start) ++
      (marked ns).drop ((ownText ns).charsBefore stop) := by
  induction ns generalizing ms start stop with
  | nil =>
    cases h
    rfl
  | cons n ns ih =>
    cases n with
    | block b => cases hns (.block b) List.mem_cons_self
    | leaf l =>
      rw [eraseText?_leaf] at h
      obtain ⟨text, htext, h⟩ := Option.bind_eq_some_iff.mp h
      obtain ⟨rest, hrest, rfl⟩ := Option.map_eq_some_iff.mp h
      have hbelow : marked rest = _ := ih hns.cons (Nat.sub_le_sub_right hle l.size)
        (Text.isBoundary_sub_of_append hstart) (Text.isBoundary_sub_of_append hstop) hrest
      have hleaf := marked_of_eraseText?_leaf hle (Text.isBoundary_min_of_append hstart)
        (Text.isBoundary_min_of_append hstop) htext
      obtain ⟨hsumstart, hcasestart⟩ := charsBefore_append_cases hstart
      obtain ⟨hsumstop, hcasestop⟩ := charsBefore_append_cases hstop
      have hsize : l.size = l.text.bytes := rfl
      rw [hsize] at hleaf hbelow
      rw [ownText, hsumstart, hsumstop, marked_leaf, marked_leaf, hbelow, hleaf,
        take_append_add (by simpa using Text.charsBefore_le_length _ _) (by simpa using hcasestart),
        drop_append_add (by simpa using Text.charsBefore_le_length _ _) (by simpa using hcasestop),
        List.map_append, List.map_take, List.map_drop]
      -- Either the deletion starts in this leaf, or it leaves the leaf alone.
      by_cases hin : start ≤ l.text.bytes
      · rw [Nat.sub_eq_zero_of_le hin, Text.charsBefore_zero, List.take_zero]
        simp
      · rw [Nat.min_eq_right (show l.text.bytes ≤ stop by omega), Text.charsBefore_bytes,
          List.drop_of_length_le (by simp : ((l.text.map (·, l.marks)).length ≤ l.text.length))]
        simp

/-! ## Splitting and inserting -/

/-- The number of characters before an offset in a leaf. -/
theorem charsBefore_cut {front : List Node} (hfront : AreLeaves front) {l : Leaf} {a b : Text}
    (hab : l.text = a ++ b) (back : List Node) :
    (ownText (front ++ .leaf l :: back)).charsBefore (size front + a.bytes) =
      (marked front ++ a.map (·, l.marks)).length := by
  rw [← bytes_ownText, ownText_append, ownText, hab, Text.charsBefore_append_add,
    List.append_assoc, Text.charsBefore_append, List.length_append,
    length_marked_of_areLeaves hfront, List.length_map]

/-- A boundary among leaves cuts one of them, and so many characters come before it. -/
theorem exists_cut {ns : List Node} {offset : Nat} (hns : AreLeaves ns) (hne : ns ≠ [])
    (h : (ownText ns).isBoundary offset = true) :
    ∃ front l back a b, ns = front ++ .leaf l :: back ∧ l.text = a ++ b ∧
      locate ns offset = (front.length, a.bytes) ∧
      (marked ns).take ((ownText ns).charsBefore offset) =
        marked front ++ a.map (·, l.marks) ∧
      (marked ns).drop ((ownText ns).charsBefore offset) =
        b.map (·, l.marks) ++ marked back := by
  obtain ⟨j, l, m, hloc, hj, hm, hoffset⟩ := exists_locate h (hns.any_isLeaf hne)
  obtain ⟨front, back, rfl, rfl⟩ := exists_split_of_getElem? hj
  obtain ⟨a, b, hab, rfl⟩ := Text.isBoundary_iff.mp hm
  have hfront : AreLeaves front := fun n hn => hns n (List.mem_append_left _ hn)
  have hcount : (ownText (front ++ .leaf l :: back)).charsBefore offset =
      (marked front ++ a.map (·, l.marks)).length := by
    rw [← hoffset, offsetOf, List.take_left]
    exact charsBefore_cut hfront hab back
  refine ⟨front, l, back, a, b, rfl, hab, hloc, ?_, ?_⟩
  · rw [hcount, marked_append, marked_leaf, hab, List.map_append, List.append_assoc,
      ← List.append_assoc, List.take_left]
  · rw [hcount, marked_append, marked_leaf, hab, List.map_append, List.append_assoc,
      ← List.append_assoc, List.drop_left]

/-- A split cuts one leaf in two, and both parts have its marks. -/
theorem exists_leaf_of_splitLeaves? {ns front back : List Node} {offset : Nat} (hns : AreLeaves ns)
    (hne : ns ≠ []) (hoffset : (ownText ns).isBoundary offset = true)
    (h : splitLeaves? ns offset = some (front, back)) :
    ∃ ks l ls a b, ns = (ks ++ l :: ls).map .leaf ∧ l.text = a ++ b ∧
      front = (ks ++ [{ l with text := a }]).map .leaf ∧
      back = ({ l with text := b } :: ls).map .leaf ∧
      marked front = (marked ns).take ((ownText ns).charsBefore offset) ∧
      marked back = (marked ns).drop ((ownText ns).charsBefore offset) := by
  obtain ⟨xs, l, ys, a, b, rfl, hab, hloc, htake, hdrop⟩ := exists_cut hns hne hoffset
  rw [splitLeaves?, hloc] at h
  simp only [List.getElem?_append_right (Nat.le_refl _), Nat.sub_self, List.getElem?_cons_zero,
    hab, Text.splitAt?_append, Option.bind_eq_bind, Option.bind_some, Option.some.injEq,
    Prod.mk.injEq, List.take_left, List.drop_length_add_append] at h
  obtain ⟨rfl, rfl⟩ := h
  rw [areLeaves_append] at hns
  have hxs := map_leaf_filterMap_leaf? hns.1
  have hys := map_leaf_filterMap_leaf? hns.2.cons
  refine ⟨xs.filterMap Node.leaf?, l, ys.filterMap Node.leaf?, a, b, ?_, hab, ?_, ?_, ?_, ?_⟩
  · rw [List.map_append, List.map_cons, hxs, hys]
  · rw [List.map_append, hxs]
    rfl
  · rw [List.map_cons, hys]
    rfl
  · rw [htake]
    simp
  · rw [hdrop, marked_leaf]
    rfl

/-- A split cuts the characters in two. -/
theorem marked_splitLeaves? {ns front back : List Node} {offset : Nat} (hns : AreLeaves ns)
    (hne : ns ≠ []) (hoffset : (ownText ns).isBoundary offset = true)
    (h : splitLeaves? ns offset = some (front, back)) :
    marked front = (marked ns).take ((ownText ns).charsBefore offset) ∧
      marked back = (marked ns).drop ((ownText ns).charsBefore offset) ∧ front ≠ [] := by
  obtain ⟨ks, l, ls, a, b, -, -, rfl, -, hfront, hback⟩ :=
    exists_leaf_of_splitLeaves? hns hne hoffset h
  exact ⟨hfront, hback, by simp⟩

/-- Text that is put in gets one set of marks, and the characters around it stay as they are. -/
theorem marked_insertText? {ns ms : List Node} {offset : Nat} {t : Text} (hns : AreLeaves ns)
    (hne : ns ≠ []) (hoffset : (ownText ns).isBoundary offset = true)
    (h : insertText? ns offset t = some ms) :
    AreLeaves ms ∧ ms ≠ [] ∧ ∃ marks, marked ms =
      (marked ns).take ((ownText ns).charsBefore offset) ++ t.map (·, marks) ++
        (marked ns).drop ((ownText ns).charsBefore offset) := by
  obtain ⟨xs, l, ys, a, b, rfl, hab, hloc, htake, hdrop⟩ := exists_cut hns hne hoffset
  rw [htake, hdrop]
  have hempty : (xs ++ .leaf l :: ys).isEmpty = false := by simp
  rw [insertText?, hempty, if_neg Bool.false_ne_true, hloc] at h
  simp only [List.getElem?_append_right (Nat.le_refl _), Nat.sub_self, List.getElem?_cons_zero,
    hab, Text.insert?_append, Option.bind_eq_bind, Option.bind_some, Option.some.injEq,
    List.set_append_right _ _ (Nat.le_refl _), List.set_cons_zero] at h
  cases h
  rw [areLeaves_append] at hns ⊢
  refine ⟨⟨hns.1, ?_⟩, by simp, l.marks, by simp⟩
  intro n hn
  rcases List.mem_cons.mp hn with rfl | hn
  · rfl
  · exact hns.2 n (List.mem_cons_of_mem _ hn)

end BlockNotes.Node

/-- The text of a block is that of its characters. -/
theorem BlockNotes.Block.map_fst_marked (b : Block) :
    (Node.marked b.children).map Prod.fst = b.text := by
  cases b
  exact Node.map_fst_marked _
