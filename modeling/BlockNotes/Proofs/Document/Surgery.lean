import BlockNotes.Proofs.Document.Identity
import BlockNotes.Proofs.Text.Boundary

/-!
# Surgery on leaves

When the pieces of surgery on leaves succeed, and what they leave alone.

The text of nodes is here the text of the leaves among them (`Node.ownText`);
offsets in a block are offsets in it.  At a boundary of this text every piece of
surgery succeeds, also where leaves and blocks are mixed.  Deleting text leaves
the offset where it starts a boundary, so text can be put in there afterwards
and the block can be split there.

Surgery does not touch the blocks among the nodes: each place holds the block
that it held before, or a leaf as before.  Identities follow from that.
-/

namespace BlockNotes.Node

/-- The text of the leaves among nodes. -/
def ownText : List Node → Text
  | [] => []
  | .leaf l :: rest => l.text ++ ownText rest
  | .block _ :: rest => ownText rest

theorem bytes_ownText (ns : List Node) : Text.bytes (ownText ns) = size ns := by
  induction ns with
  | nil => rfl
  | cons n ns ih =>
    cases n with
    | leaf l => rw [ownText, Text.bytes_append, ih]; rfl
    | block b => exact ih

theorem ownText_append (ns ms : List Node) : ownText (ns ++ ms) = ownText ns ++ ownText ms := by
  induction ns with
  | nil => rfl
  | cons n ns ih =>
    cases n with
    | leaf l => simp [ownText, ih]
    | block b => exact ih

/-- Where there are only leaves, their text is all the text. -/
theorem textOf_eq_ownText {ns : List Node} (h : ns.all Node.isLeaf = true) :
    textOf ns = ownText ns := by
  induction ns with
  | nil => rfl
  | cons n ns ih =>
    rw [List.all_cons, Bool.and_eq_true] at h
    cases n with
    | leaf l => rw [textOf, ownText, ih h.2]
    | block b => cases h.1

/-- A boundary within a leaf is one among the nodes. -/
theorem isBoundary_offsetOf {ns : List Node} {index offset : Nat} {l : Leaf}
    (hl : ns[index]? = some (.leaf l)) (h : l.text.isBoundary offset = true) :
    (ownText ns).isBoundary (offsetOf ns index offset) = true := by
  obtain ⟨front, back, rfl, rfl⟩ := exists_split_of_getElem? hl
  rw [offsetOf, ← bytes_ownText, List.take_left, ownText_append, ownText,
    Text.isBoundary_append_right, Text.isBoundary_append_left (Text.le_bytes_of_isBoundary h)]
  exact h

/-! ## The same blocks -/

/-- Nodes with equal blocks at equal places have equal identities. -/
theorem idsOf_eq_of_map_block? {ns ms : List Node}
    (h : ns.map Node.block? = ms.map Node.block?) : idsOf ns = idsOf ms := by
  induction ns generalizing ms with
  | nil =>
    cases ms with
    | nil => rfl
    | cons m ms => cases h
  | cons n ns ih =>
    cases ms with
    | nil => cases h
    | cons m ms =>
      simp only [List.map_cons, List.cons.injEq] at h
      cases n with
      | leaf l =>
        cases m with
        | leaf l' =>
          rw [idsOf_leaf, idsOf_leaf]
          exact ih h.2
        | block b => cases h.1
      | block b =>
        cases m with
        | leaf l => cases h.1
        | block b' =>
          cases h.1
          rw [idsOf_block, idsOf_block, ih h.2]

theorem map_isLeaf_eq_of_map_block? {ns ms : List Node}
    (h : ns.map Node.block? = ms.map Node.block?) : ns.map Node.isLeaf = ms.map Node.isLeaf := by
  have hleaf : Node.isLeaf = Option.isNone ∘ Node.block? := by
    funext n
    cases n <;> rfl
  rw [hleaf, ← List.map_map, ← List.map_map, h]

theorem all_isLeaf_eq_of_map_block? {ns ms : List Node}
    (h : ns.map Node.block? = ms.map Node.block?) : ns.all Node.isLeaf = ms.all Node.isLeaf := by
  have hall : ∀ ks : List Node, ks.all Node.isLeaf = (ks.map Node.isLeaf).all id := by
    intro ks
    rw [List.all_map]
    rfl
  rw [hall, hall, map_isLeaf_eq_of_map_block? h]

/-! ## Locating -/

/-- A search for a boundary ends in a leaf, at a boundary of its text, or there are no leaves
and it ends where it was told to. -/
theorem locateFrom_cases {ns : List Node} {offset : Nat} (k : Nat) (last : Nat × Nat)
    (h : (ownText ns).isBoundary offset = true) :
    (∃ j l n, ns[j]? = some (.leaf l) ∧ locateFrom k last offset ns = (k + j, n) ∧
      l.text.isBoundary n = true) ∨
    ((∀ n ∈ ns, n.isLeaf = false) ∧ locateFrom k last offset ns = last) := by
  induction ns generalizing k last offset with
  | nil => exact .inr ⟨by simp, rfl⟩
  | cons n ns ih =>
    cases n with
    | leaf l =>
      rw [locateFrom]
      split
      next hle =>
        refine .inl ⟨0, l, offset, rfl, rfl, ?_⟩
        exact (Text.isBoundary_append_left hle).mp h
      next hlt =>
        rcases ih (k + 1) (k, l.size) (Text.isBoundary_sub_of_append h) with
          ⟨j, l', m, hj, hloc, hm⟩ | ⟨hnone, hloc⟩
        · refine .inl ⟨j + 1, l', m, by simpa using hj, ?_, hm⟩
          exact hloc.trans (by rw [Nat.add_assoc, Nat.add_comm 1])
        · exact .inl ⟨0, l, l.size, rfl, hloc, Text.isBoundary_bytes l.text⟩
    | block b =>
      rw [locateFrom]
      rcases ih (k + 1) last h with ⟨j, l', m, hj, hloc, hm⟩ | ⟨hnone, hloc⟩
      · refine .inl ⟨j + 1, l', m, by simpa using hj, ?_, hm⟩
        exact hloc.trans (by rw [Nat.add_assoc, Nat.add_comm 1])
      · refine .inr ⟨?_, hloc⟩
        intro n hn
        rcases List.mem_cons.mp hn with rfl | hn
        · rfl
        · exact hnone n hn

/-- A leaf that is located for a boundary is located at a boundary of its text. -/
theorem isBoundary_locate {ns : List Node} {offset : Nat} {l : Leaf}
    (h : (ownText ns).isBoundary offset = true)
    (hl : ns[(locate ns offset).1]? = some (.leaf l)) :
    l.text.isBoundary (locate ns offset).2 = true := by
  rcases locateFrom_cases 0 (0, 0) h with ⟨j, l', n, hj, hloc, hn⟩ | ⟨hnone, hloc⟩
  · rw [Nat.zero_add] at hloc
    rw [locate, hloc] at hl ⊢
    rw [hj] at hl
    cases hl
    exact hn
  · cases hnone _ (List.mem_of_getElem? hl)

/-! ## Inserting -/

theorem insertText?_nil (offset : Nat) (t : Text) :
    insertText? [] offset t = insertText? [.leaf {}] offset t :=
  rfl

/-- Among nodes text can be put in at a boundary. -/
theorem exists_insertText?_cons {n : Node} {ns : List Node} {offset : Nat} (t : Text)
    (h : (ownText (n :: ns)).isBoundary offset = true) :
    ∃ ms, insertText? (n :: ns) offset t = some ms ∧
      ms.map Node.block? = (n :: ns).map Node.block? := by
  cases hloc : locate (n :: ns) offset with
  | mk index inner =>
    simp only [insertText?, List.isEmpty_cons, Bool.false_eq_true, if_false, hloc]
    cases hk : (n :: ns)[index]? with
    | none => exact ⟨n :: ns, rfl, rfl⟩
    | some k =>
      cases k with
      | block b => exact ⟨n :: ns, rfl, rfl⟩
      | leaf l =>
        have hk' : (n :: ns)[(locate (n :: ns) offset).1]? = some (.leaf l) := by rw [hloc, hk]
        obtain ⟨a, b, hab, ha⟩ := Text.isBoundary_iff.mp (isBoundary_locate h hk')
        have hinner : inner = a.bytes := by rw [ha, hloc]
        refine ⟨(n :: ns).set index (.leaf { l with text := a ++ t ++ b }), ?_, ?_⟩
        · simp only [hab, hinner, Text.insert?_append, Option.bind_eq_bind, Option.bind_some]
        · obtain ⟨front, back, hks, hlen⟩ := exists_split_of_getElem? hk
          rw [← hlen, hks, List.set_append_right _ _ (Nat.le_refl _), Nat.sub_self]
          simp [Node.block?]

/-- At a boundary text can be put in.  Where there was nothing there is a leaf afterwards. -/
theorem exists_insertText? {ns : List Node} {offset : Nat} (t : Text)
    (h : (ownText ns).isBoundary offset = true) :
    ∃ ms, insertText? ns offset t = some ms ∧
      (ms.map Node.block? = ns.map Node.block? ∨ ns = [] ∧ ms.map Node.block? = [none]) := by
  cases ns with
  | nil =>
    have hzero : offset = 0 := Nat.le_zero.mp (Text.le_bytes_of_isBoundary h)
    have hempty : (ownText [.leaf {}]).isBoundary offset = true := by
      rw [hzero]
      rfl
    obtain ⟨ms, hms, hblocks⟩ := exists_insertText?_cons t hempty
    exact ⟨ms, (insertText?_nil offset t).trans hms, .inr ⟨rfl, hblocks⟩⟩
  | cons n ns =>
    obtain ⟨ms, hms, hblocks⟩ := exists_insertText?_cons t h
    exact ⟨ms, hms, .inl hblocks⟩

/-! ## Deleting -/

theorem eraseText?_leaf (l : Leaf) (ns : List Node) (start stop : Nat) :
    eraseText? start stop (.leaf l :: ns) =
      (if min start l.size < min stop l.size then
        l.text.erase? (min start l.size) (min stop l.size) else some l.text).bind fun text =>
        (eraseText? (start - l.size) (stop - l.size) ns).map (.leaf { l with text } :: ·) := by
  rw [eraseText?]
  split <;> cases eraseText? (start - l.size) (stop - l.size) ns <;> rfl

theorem eraseText?_block (b : Block) (ns : List Node) (start stop : Nat) :
    eraseText? start stop (.block b :: ns) = (eraseText? start stop ns).map (.block b :: ·) := by
  rw [eraseText?]
  cases eraseText? start stop ns <;> rfl

/-- Deleting text leaves the blocks where they are. -/
theorem map_block?_eraseText? {ns ms : List Node} {start stop : Nat}
    (h : eraseText? start stop ns = some ms) : ms.map Node.block? = ns.map Node.block? := by
  induction ns generalizing ms start stop with
  | nil =>
    cases h
    rfl
  | cons n ns ih =>
    cases n with
    | leaf l =>
      rw [eraseText?_leaf] at h
      obtain ⟨text, -, h⟩ := Option.bind_eq_some_iff.mp h
      obtain ⟨rest, hrest, rfl⟩ := Option.map_eq_some_iff.mp h
      rw [List.map_cons, List.map_cons, ih hrest]
      rfl
    | block b =>
      rw [eraseText?_block] at h
      obtain ⟨rest, hrest, rfl⟩ := Option.map_eq_some_iff.mp h
      rw [List.map_cons, List.map_cons, ih hrest]

theorem ne_nil_of_eraseText? {ns ms : List Node} {start stop : Nat}
    (h : eraseText? start stop ns = some ms) (hne : ns ≠ []) : ms ≠ [] := by
  rintro rfl
  have hblocks := map_block?_eraseText? h
  rw [List.map_nil, eq_comm, List.map_eq_nil_iff] at hblocks
  exact hne hblocks

theorem exists_eraseText? {ns : List Node} {start stop : Nat}
    (hstart : (ownText ns).isBoundary start = true) (hstop : (ownText ns).isBoundary stop = true) :
    ∃ ms, eraseText? start stop ns = some ms := by
  induction ns generalizing start stop with
  | nil => exact ⟨[], rfl⟩
  | cons n ns ih =>
    cases n with
    | leaf l =>
      obtain ⟨rest, hrest⟩ :=
        ih (Text.isBoundary_sub_of_append hstart) (Text.isBoundary_sub_of_append hstop)
      have hrest : eraseText? (start - l.size) (stop - l.size) ns = some rest := hrest
      rw [eraseText?_leaf, hrest]
      by_cases hlt : min start l.size < min stop l.size
      · obtain ⟨a, b, c, htext, ha, hab⟩ := Text.exists_parts_of_isBoundary (Nat.le_of_lt hlt)
          (Text.isBoundary_min_of_append hstart) (Text.isBoundary_min_of_append hstop)
        have ha : Text.bytes a = min start l.size := ha
        have hab : Text.bytes (a ++ b) = min stop l.size := hab
        rw [if_pos hlt, htext, ← ha, ← hab, Text.erase?_append]
        exact ⟨_, rfl⟩
      · rw [if_neg hlt]
        exact ⟨_, rfl⟩
    | block b =>
      obtain ⟨rest, hrest⟩ := ih hstart hstop
      rw [eraseText?_block, hrest]
      exact ⟨_, rfl⟩

/-- Where a deletion starts there is a boundary afterwards. -/
theorem isBoundary_of_eraseText? {ns ms : List Node} {start stop : Nat}
    (h : eraseText? start stop ns = some ms) (hstart : (ownText ns).isBoundary start = true) :
    (ownText ms).isBoundary start = true := by
  induction ns generalizing ms start stop with
  | nil =>
    cases h
    exact hstart
  | cons n ns ih =>
    cases n with
    | block b =>
      rw [eraseText?_block] at h
      obtain ⟨rest, hrest, rfl⟩ := Option.map_eq_some_iff.mp h
      rw [ownText]
      exact ih hrest hstart
    | leaf l =>
      rw [eraseText?_leaf] at h
      obtain ⟨text, htext, h⟩ := Option.bind_eq_some_iff.mp h
      obtain ⟨rest, hrest, rfl⟩ := Option.map_eq_some_iff.mp h
      have hbelow := ih hrest (Text.isBoundary_sub_of_append hstart)
      by_cases hlt : min start l.size < min stop l.size
      · -- The deletion starts in this leaf, so what it keeps of it reaches to the start.
        rw [if_pos hlt] at htext
        have hsize : min start l.size = start := by omega
        rw [hsize] at htext
        obtain ⟨⟨x, y⟩, hxy, hkeep⟩ := Option.bind_eq_some_iff.mp htext
        obtain ⟨keep, hkeep, hcat⟩ := Option.bind_eq_some_iff.mp hkeep
        obtain ⟨⟨a, b⟩, hab, rfl⟩ := Option.map_eq_some_iff.mp hkeep
        cases hcat
        have ha : Text.bytes a = start := Text.bytes_of_splitAt? hab
        dsimp only
        rw [ownText, List.append_assoc, Text.isBoundary_append_left (by omega), ← ha]
        exact Text.isBoundary_bytes a
      · rw [if_neg hlt] at htext
        cases htext
        rw [ownText]
        by_cases hle : start ≤ l.size
        · rw [Text.isBoundary_append_left hle]
          exact (Text.isBoundary_append_left hle).mp hstart
        · have hsplit : start = Text.bytes l.text + (start - l.size) := by
            have : l.size = Text.bytes l.text := rfl
            omega
          rw [hsplit, Text.isBoundary_append_right]
          exact hbelow

/-! ## Splitting -/

theorem exists_splitLeaves? {ns : List Node} {offset : Nat}
    (h : (ownText ns).isBoundary offset = true) :
    ∃ front back, splitLeaves? ns offset = some (front, back) := by
  unfold splitLeaves?
  dsimp only
  cases hk : ns[(locate ns offset).1]? with
  | none => exact ⟨_, _, rfl⟩
  | some n =>
    cases n with
    | block b => exact ⟨_, _, rfl⟩
    | leaf l =>
      obtain ⟨a, b, hab, ha⟩ := Text.isBoundary_iff.mp (isBoundary_locate h hk)
      simp only [hab, ← ha, Text.splitAt?_append, Option.bind_eq_bind, Option.bind_some]
      exact ⟨_, _, rfl⟩

theorem all_isLeaf_splitLeaves? {ns front back : List Node} {offset : Nat}
    (h : splitLeaves? ns offset = some (front, back)) (hns : ns.all Node.isLeaf = true) :
    front.all Node.isLeaf = true ∧ back.all Node.isLeaf = true := by
  have hall : ∀ n ∈ ns, n.isLeaf = true := List.all_eq_true.mp hns
  have htake : ∀ k, ∀ n ∈ ns.take k, n.isLeaf = true := fun k n hn =>
    hall n (List.mem_of_mem_take hn)
  have hdrop : ∀ k, ∀ n ∈ ns.drop k, n.isLeaf = true := fun k n hn =>
    hall n (List.mem_of_mem_drop hn)
  unfold splitLeaves? at h
  dsimp only at h
  split at h
  next l hl =>
    simp only [Option.bind_eq_bind, Option.bind_eq_some_iff, Option.some.injEq,
      Prod.mk.injEq] at h
    obtain ⟨⟨a, b⟩, -, rfl, rfl⟩ := h
    constructor
    · rw [List.all_append, Bool.and_eq_true]
      exact ⟨List.all_eq_true.mpr (htake _), rfl⟩
    · rw [List.all_cons, Bool.and_eq_true]
      exact ⟨rfl, List.all_eq_true.mpr (hdrop _)⟩
  next =>
    cases h
    exact ⟨List.all_eq_true.mpr (htake _), List.all_eq_true.mpr (hdrop _)⟩

end BlockNotes.Node

/-- The text of a text block is the text of its leaves. -/
theorem BlockNotes.Block.text_eq_ownText {b : Block} (h : b.isTextBlock = true) :
    b.text = Node.ownText b.children := by
  cases b
  exact Node.textOf_eq_ownText h
