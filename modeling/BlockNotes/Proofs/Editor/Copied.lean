import BlockNotes.Proofs.Document.Clearing
import BlockNotes.Proofs.Document.Filled
import BlockNotes.Proofs.Document.Slice
import BlockNotes.Proofs.Editor.Lost

/-!
# What is copied

The selected text is put together from the blocks where a cursor can stand: each block
has a piece of the selection, or it is outside of it.  The blocks come in document order,
so those with a piece stand next to each other in the list of blocks, from the one with
the start of the selection to the one with its end (`List.exists_infix`).

In the first of them the piece begins at the start of the selection, in the last one it
ends at the end of the selection, and besides it is the whole text of the block
(`Editor.exists_pieceAt?`).
-/

namespace BlockNotes

/-! ## Pieces of lists -/

variable {α β γ : Type}

/-- In a list that is in order, two elements in this order are the ends of a piece of the list. -/
theorem exists_infix {R : α → α → Prop} {l : List α} (hl : l.Pairwise R) {a b : α} (ha : a ∈ l)
    (hb : b ∈ l) (hba : ¬ R b a) :
    ∃ before piece after, l = before ++ piece ++ after ∧ piece.head? = some a ∧
      piece.getLast? = some b ∧ (∀ x ∈ before, R x a) ∧ (∀ x ∈ after, R b x) ∧
      ∀ x ∈ piece, (x = a ∨ R a x) ∧ (x = b ∨ R x b) := by
  obtain ⟨before, rest, rfl⟩ := List.append_of_mem ha
  rw [List.pairwise_append, List.pairwise_cons] at hl
  obtain ⟨-, ⟨hbehind, hrest⟩, hbefore⟩ := hl
  have hfront : ∀ x ∈ before, R x a := fun x hx => hbefore x hx a List.mem_cons_self
  rw [List.mem_append, List.mem_cons] at hb
  rcases hb with hb | rfl | hb
  · exact absurd (hfront b hb) hba
  · exact ⟨before, [b], rest, by simp, rfl, rfl, hfront, hbehind, by simp⟩
  · obtain ⟨middle, after, rfl⟩ := List.append_of_mem hb
    rw [List.pairwise_append, List.pairwise_cons] at hrest
    obtain ⟨-, ⟨hafter, -⟩, hmiddle⟩ := hrest
    refine ⟨before, a :: (middle ++ [b]), after, by simp, rfl, ?_, hfront, hafter, ?_⟩
    · rw [← List.cons_append, List.getLast?_concat]
    · intro x hx
      rw [List.mem_cons, List.mem_append, List.mem_singleton] at hx
      rcases hx with rfl | hx | rfl
      · exact ⟨.inl rfl, .inr (hbehind b hb)⟩
      · exact ⟨.inr (hbehind x (List.mem_append_left _ hx)),
          .inr (hmiddle x hx b List.mem_cons_self)⟩
      · exact ⟨.inr (hbehind x hb), .inl rfl⟩

/-- What is made of all elements of a list belongs to them one by one. -/
theorem forall₂_map_filterMap {f : α → Option β} {g : β → γ} {P : α → γ → Prop} {xs : List α}
    (h : ∀ x ∈ xs, ∃ y, f x = some y ∧ P x (g y)) :
    List.Forall₂ P xs ((xs.filterMap f).map g) := by
  induction xs with
  | nil => exact .nil
  | cons x xs ih =>
    obtain ⟨hx, hxs⟩ := List.forall_mem_cons.mp h
    obtain ⟨y, hy, hP⟩ := hx
    rw [List.filterMap_cons_some hy, List.map_cons]
    exact .cons hP (ih hxs)

namespace Editor

/-! ## The piece of a block -/

variable {τ : Type} {d : Document} {s : Range} {path first last : Path} {b c c' : Block}
  {m n : Nat}

theorem pieceAt?_eq {p q : Point} (hstart : d.startOf path = .ok p) (hstop : d.endOf path = .ok q) :
    pieceAt? d s path = if q < s.start ∨ s.stop < p then none
      else some ⟨if p < s.start then s.start else p, if s.stop < q then s.stop else q⟩ := by
  rw [pieceAt?, hstart, hstop]

/-- A block to the left of the selection has no piece of it. -/
theorem pieceAt?_of_before (hb : d.blockAt? path = some b) (hleaves : Node.AreLeaves b.children)
    (hne : b.children ≠ []) (hstart : d.Site s.start first c m) (h : Path.Before path first) :
    pieceAt? d s path = none := by
  obtain ⟨q, hq, hsite⟩ := Document.exists_endOf hb hleaves hne
  rw [pieceAt?_eq (Document.startOf_eq hb hleaves hne).1 hq,
    if_pos (.inl (hsite.lt_of_before hstart h))]

/-- A block to the right of the selection has no piece of it. -/
theorem pieceAt?_of_behind (hb : d.blockAt? path = some b) (hleaves : Node.AreLeaves b.children)
    (hne : b.children ≠ []) (hstop : d.Site s.stop last c n) (h : Path.Before last path) :
    pieceAt? d s path = none := by
  obtain ⟨q, hq, -⟩ := Document.exists_endOf hb hleaves hne
  obtain ⟨hp, hsite⟩ := Document.startOf_eq hb hleaves hne
  rw [pieceAt?_eq hp hq, if_pos (.inr (hstop.lt_of_before hsite h))]

/-- A block in the selection has a piece of it, which begins at the start of the selection or at the
start of the block, and ends at the end of the selection or at the end of the block. -/
theorem exists_pieceAt? (hb : d.blockAt? path = some b) (hleaves : Node.AreLeaves b.children)
    (hne : b.children ≠ []) (hstart : d.Site s.start first c m) (hstop : d.Site s.stop last c' n)
    (hfirst : path = first ∨ Path.Before first path) (hlast : path = last ∨ Path.Before path last) :
    ∃ r, pieceAt? d s path = some r ∧ d.Site r.start path b (if path = first then m else 0) ∧
      d.Site r.stop path b (if path = last then n else (Node.ownText b.children).bytes) := by
  obtain ⟨q, hq, hback⟩ := Document.exists_endOf hb hleaves hne
  obtain ⟨hp, hfront⟩ := Document.startOf_eq hb hleaves hne
  generalize (⟨path ++ [0], 0⟩ : Point) = p at hp hfront
  have hbegin : ¬ q < s.start ∧
      d.Site (if p < s.start then s.start else p) path b (if path = first then m else 0) := by
    rcases hfirst with rfl | hbefore
    · cases hb.symm.trans hstart.blockAt?
      refine ⟨hstart.le_of_endOf hq, ?_⟩
      rw [if_pos rfl]
      split
      next => exact hstart
      next hle => exact Nat.le_zero.mp (hstart.offset_le hfront hle) ▸ hfront
    · have hlt : s.start < p := hstart.lt_of_before hfront hbefore
      have hlt' : s.start < q := hstart.lt_of_before hback hbefore
      refine ⟨Document.point_le_of_lt hlt', ?_⟩
      rw [if_neg (Document.point_le_of_lt hlt), if_neg (ne_of_gt hbefore.lt)]
      exact hfront
  have hend : ¬ s.stop < p ∧ d.Site (if s.stop < q then s.stop else q) path b
      (if path = last then n else (Node.ownText b.children).bytes) := by
    rcases hlast with rfl | hbefore
    · cases hb.symm.trans hstop.blockAt?
      refine ⟨hstop.le_of_startOf hp, ?_⟩
      rw [if_pos rfl]
      split
      next => exact hstop
      next hle =>
        have hsame := Nat.le_antisymm (Text.le_bytes_of_isBoundary hstop.isBoundary)
          (hback.offset_le hstop hle)
        exact hsame ▸ hback
    · have hlt : p < s.stop := hfront.lt_of_before hstop hbefore
      have hlt' : q < s.stop := hback.lt_of_before hstop hbefore
      refine ⟨Document.point_le_of_lt hlt, ?_⟩
      rw [if_neg (Document.point_le_of_lt hlt'), if_neg (ne_of_lt hbefore.lt)]
      exact hback
  have hle : (if path = first then m else 0) ≤
      if path = last then n else (Node.ownText b.children).bytes := by
    split
    next hfirst =>
      subst hfirst
      cases hb.symm.trans hstart.blockAt?
      split
      next hlast =>
        subst hlast
        cases hb.symm.trans hstop.blockAt?
        exact hstart.offset_le hstop (Document.le_stop s)
      next => exact Text.le_bytes_of_isBoundary hstart.isBoundary
    next => exact Nat.zero_le _
  refine ⟨_, (pieceAt?_eq hp hq).trans (if_neg (not_or.mpr ⟨hbegin.1, hend.1⟩)), ?_⟩
  exact Document.site_start_stop hbegin.2 hend.2 hle

/-! ## The selection -/

theorem pairwise_textBlocks (hids : d.ids.Nodup) :
    d.textBlocks.Pairwise fun x y => Path.Before x.1 y.1 := by
  refine (Document.pairwise_matching_isTextBlock hids).sublist (List.monotone_filter_right _ ?_)
  intro x hx
  exact (Bool.and_eq_true_iff.mp hx).1

theorem of_mem_textBlocks {x : Path × Block} (h : x ∈ d.textBlocks) :
    d.blockAt? x.1 = some x.2 ∧ x.2.isTextBlock = true := by
  obtain ⟨hb, htext, -⟩ := Document.mem_textBlocks.mp h
  exact ⟨hb, htext⟩

/-- A block in the selection has a part in the selected text. -/
theorem exists_part (hids : d.ids.Nodup) (huniform : Node.Uniform d.children)
    (hb : d.blockAt? path = some b) (hleaves : Node.AreLeaves b.children) (hne : b.children ≠ [])
    (hstart : d.Site s.start first c m) (hstop : d.Site s.stop last c' n)
    (hfirst : path = first ∨ Path.Before first path) (hlast : path = last ∨ Path.Before path last) :
    ∃ r, pieceAt? d s path = some r ∧ b.text.slice? (if b.id = c.id then m else 0)
      (if b.id = c'.id then n else b.text.bytes) = some (d.textIn r) := by
  obtain ⟨r, hr, hrstart, hrstop⟩ := exists_pieceAt? hb hleaves hne hstart hstop hfirst hlast
  have hsame : ∀ {q : Path} {x : Block}, d.blockAt? q = some x → (path = q ↔ b.id = x.id) := by
    intro q x hx
    refine ⟨?_, fun h => (Document.eq_of_id_eq hids hb hx h).1⟩
    rintro rfl
    rw [Option.some.inj (hb.symm.trans hx)]
  simp only [hsame hstart.blockAt?] at hrstart
  simp only [hsame hstop.blockAt?] at hrstop
  rw [← Block.text_eq_ownText (Node.areLeaves_iff.mp hleaves)] at hrstop
  exact ⟨r, hr, hrstart.slice?_text huniform hrstop⟩

/-- The selected text has a line for each block from the first one to the last one. -/
theorem exists_selectedText {e : Editor τ} (hids : e.document.ids.Nodup)
    (huniform : Node.Uniform e.document.children) (hfilled : Node.Filled e.document.children)
    (hs : e.document.selection = some s) (hfirst : (first, b) ∈ e.document.textBlocks)
    (hlast : (last, c) ∈ e.document.textBlocks) (hstart : e.document.Site s.start first b m)
    (hstop : e.document.Site s.stop last c n) :
    ∃ before blocks after parts, e.document.textBlocks = before ++ blocks ++ after ∧
      blocks.head? = some (first, b) ∧ blocks.getLast? = some (last, c) ∧
      List.Forall₂ (fun x part => x.2.text.slice? (if x.2.id = b.id then m else 0)
        (if x.2.id = c.id then n else x.2.text.bytes) = some part) blocks parts ∧
      e.selectedText = Text.ofLines parts := by
  have horder : ¬ Path.Before last first :=
    fun h => Document.le_stop s (hstop.lt_of_before hstart h)
  obtain ⟨before, blocks, after, hsplit, hhead, hgetLast, hleft, hright, hinside⟩ :=
    exists_infix (pairwise_textBlocks hids) hfirst hlast horder
  have hall : ∀ x ∈ before ++ blocks ++ after, e.document.blockAt? x.1 = some x.2 ∧
      Node.AreLeaves x.2.children ∧ x.2.children ≠ [] := by
    intro x hx
    obtain ⟨hx, htext⟩ := of_mem_textBlocks (hsplit.symm ▸ hx)
    exact ⟨hx, Node.areLeaves_iff.mpr htext, Node.everywhere_iff.mp hfilled x.1 x.2 hx⟩
  rw [List.forall_mem_append, List.forall_mem_append] at hall
  obtain ⟨⟨hbefore, hblocks⟩, hafter⟩ := hall
  have hparts : ∀ x ∈ blocks, ∃ r, pieceAt? e.document s x.1 = some r ∧
      x.2.text.slice? (if x.2.id = b.id then m else 0)
        (if x.2.id = c.id then n else x.2.text.bytes) = some (e.document.textIn r) := by
    intro x hx
    obtain ⟨hx', hleaves, hne⟩ := hblocks x hx
    exact exists_part hids huniform hx' hleaves hne hstart hstop
      ((hinside x hx).1.imp_left (congrArg Prod.fst))
      ((hinside x hx).2.imp_left (congrArg Prod.fst))
  have hnone : (∀ x ∈ before, pieceAt? e.document s x.1 = none) ∧
      ∀ x ∈ after, pieceAt? e.document s x.1 = none := by
    refine ⟨fun x hx => ?_, fun x hx => ?_⟩
    · obtain ⟨hx', hleaves, hne⟩ := hbefore x hx
      exact pieceAt?_of_before hx' hleaves hne hstart (hleft x hx)
    · obtain ⟨hx', hleaves, hne⟩ := hafter x hx
      exact pieceAt?_of_behind hx' hleaves hne hstop (hright x hx)
  refine ⟨before, blocks, after, _, hsplit, hhead, hgetLast, forall₂_map_filterMap hparts, ?_⟩
  rw [selectedText_eq, selectedPieces, hs]
  dsimp only
  rw [hsplit, List.filterMap_append, List.filterMap_append, List.filterMap_eq_nil_iff.mpr hnone.1,
    List.filterMap_eq_nil_iff.mpr hnone.2, List.nil_append, List.append_nil]

/-- What is copied of a selection with its ends in blocks where a cursor can stand.

* The selected text has a line for each such block from the first one to the last one.  It is the
  text of the block, from the start of the selection in the first block and up to the end of the
  selection in the last one.
* The text in the selection is the piece of the text of the document between its ends, and it is the
  same for the selection in the other direction. -/
theorem copies_selection {e : Editor τ} (hids : e.document.ids.Nodup)
    (huniform : Node.Uniform e.document.children) (hfilled : Node.Filled e.document.children)
    (hs : e.document.selection = some s) (hfirst : (first, b) ∈ e.document.textBlocks)
    (hlast : (last, c) ∈ e.document.textBlocks)
    (hstart : e.document.blockPoint s.start = .ok ⟨b.id, m⟩)
    (hstop : e.document.blockPoint s.stop = .ok ⟨c.id, n⟩) :
    (∃ before blocks after parts, e.document.textBlocks = before ++ blocks ++ after ∧
      blocks.head? = some (first, b) ∧ blocks.getLast? = some (last, c) ∧
      List.Forall₂ (fun x part => x.2.text.slice? (if x.2.id = b.id then m else 0)
        (if x.2.id = c.id then n else x.2.text.bytes) = some part) blocks parts ∧
      e.selectedText = Text.ofLines parts) ∧
    (∃ front back, Node.textOf e.document.children = front ++ e.document.textIn s ++ back ∧
      front.length = e.document.charsBefore s.start ∧
      (front ++ e.document.textIn s).length = e.document.charsBefore s.stop) ∧
    e.document.textIn ⟨s.focus, s.anchor⟩ = e.document.textIn s := by
  obtain ⟨hb, htext⟩ := of_mem_textBlocks hfirst
  obtain ⟨hc, htext'⟩ := of_mem_textBlocks hlast
  have hsite := Document.site_of_blockPoint hids hb htext hstart
  have hsite' := Document.site_of_blockPoint hids hc htext' hstop
  refine ⟨exists_selectedText hids huniform hfilled hs hfirst hlast hsite hsite',
    Document.textIn_between huniform hsite.addresses hsite'.addresses, ?_⟩
  obtain ⟨hstart, hstop⟩ := EditM.start_stop_swap s.focus s.anchor
  rw [Document.textIn, Document.textIn, hstart, hstop]

/-- A paragraph in two leaves, a quotation with an empty paragraph and an image, and a heading. -/
def pasted : Document :=
  { children := [.block ⟨1, .paragraph, [.leaf (.ofText ['é', 'a']), .leaf (.ofText ['b'])]⟩,
      .block ⟨2, .quote, [.block ⟨3, .paragraph, [.leaf (.ofText [])]⟩,
        .block ⟨4, .image "a.png", [.leaf (.ofText ['x'])]⟩]⟩,
      .block ⟨5, .heading 1, [.leaf (.ofText ['c', 'd'])]⟩]
    selection := some ⟨⟨[2, 0], 1⟩, ⟨[0, 0], 2⟩⟩, version := 4, nextId := 6 }

/-- It is selected from the heading back to behind the first letter.  The text of the image is not in
the selected text, but it is in the text of the range. -/
theorem copies_selection_pasted :
    let e := ofDocument pasted Registry.empty {}
    e.document.ids.Nodup ∧ Node.Uniform e.document.children ∧ Node.Filled e.document.children ∧
      e.selectedText = "ab\n\nc".toList ∧
      (∃ front back, Node.textOf e.document.children = front ++ "abxc".toList ++ back ∧
        front.length = 1) ∧
      e.document.textIn ⟨⟨[0, 0], 2⟩, ⟨[2, 0], 1⟩⟩ = "abxc".toList := by
  intro e
  have hids : e.document.ids.Nodup := by decide
  have huniform : Node.Uniform e.document.children := by
    show Node.Uniform pasted.children
    simp [pasted, Node.uniform_block, Node.Homogeneous, Node.AreLeaves, Node.AreBlocks, Node.isLeaf,
      Node.uniform_nil, Node.Everywhere, Block.Everywhere]
  have hfilled : Node.Filled e.document.children := by
    show Node.Filled pasted.children
    simp [pasted, Node.Filled, Node.Everywhere, Block.Everywhere]
  have hlast : ([2], ⟨5, .heading 1, [.leaf (.ofText ['c', 'd'])]⟩) ∈ e.document.textBlocks :=
    .tail _ (.tail _ (.head _))
  obtain ⟨-, ⟨front, back, htext, hfront, -⟩, hflip⟩ := copies_selection
    (s := ⟨⟨[2, 0], 1⟩, ⟨[0, 0], 2⟩⟩) (m := 2) (n := 1) hids huniform hfilled rfl
    List.mem_cons_self hlast rfl rfl
  have hread : e.document.textIn ⟨⟨[2, 0], 1⟩, ⟨[0, 0], 2⟩⟩ = "abxc".toList := by decide +kernel
  refine ⟨hids, huniform, hfilled, by decide +kernel, ⟨front, back, ?_, ?_⟩, hflip.trans hread⟩
  · rw [htext, hread]
  · rw [hfront]
    decide +kernel

end Editor

end BlockNotes
