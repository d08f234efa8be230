import BlockNotes.Proofs.Document.Cursor
import BlockNotes.Proofs.Editor.Fresh

/-!
# Where a cursor can stand

The positions where a cursor can stand, in the order in which they stand in the
document (`Document.places`): block after block, and in each block boundary after
boundary.

Each of them cuts the text of one of the blocks in two.  So a list of places with one
of them in the middle is a list of texts with a cut text in the middle
(`Document.exists_cut`), which is what a motion looks at
(`Motion.surroundings_eq`).  Where identities are distinct, no place is twice in the
list, and that makes the two forms the same.

Where a motion lands is a matter of the document and the place (`Motion.Lands`).  The
cursor goes there if it is a place, as long as no block is without children
(`EditorM.moveCursor_of_lands`).
-/

namespace BlockNotes

/-! ## The boundaries of a text -/

namespace Text

/-- The offsets at which the characters of a text start. -/
def starts : Text → List Nat
  | [] => []
  | c :: t => 0 :: (starts t).map (c.utf8Size + ·)

/-- The boundaries of a text in order. -/
def boundaries (t : Text) : List Nat :=
  starts t ++ [bytes t]

theorem starts_append (a b : Text) : starts (a ++ b) = starts a ++ (starts b).map (bytes a + ·) := by
  induction a with
  | nil => simp [starts]
  | cons c a ih => simp [starts, ih, Function.comp_def, Nat.add_assoc]

theorem boundaries_append (a b : Text) :
    boundaries (a ++ b) = starts a ++ (boundaries b).map (bytes a + ·) := by
  simp [boundaries, starts_append]

theorem boundaries_cons (c : Char) (t : Text) :
    boundaries (c :: t) = 0 :: (boundaries t).map (c.utf8Size + ·) := by
  simp [boundaries, starts]

/-- The boundaries are those offsets at which the text can be cut. -/
theorem mem_boundaries {t : Text} {n : Nat} : n ∈ boundaries t ↔ t.isBoundary n = true := by
  induction t generalizing n with
  | nil =>
    rw [isBoundary_iff]
    simp [boundaries, starts, eq_comm]
  | cons c t ih =>
    rw [boundaries_cons, List.mem_cons, List.mem_map, isBoundary_cons_iff]
    refine or_congr_right ⟨?_, ?_⟩
    · rintro ⟨m, hm, rfl⟩
      rw [Nat.add_sub_cancel_left]
      exact ⟨Nat.le_add_right _ _, ih.mp hm⟩
    · rintro ⟨hle, hn⟩
      exact ⟨n - c.utf8Size, ih.mpr hn, Nat.add_sub_cancel' hle⟩

theorem pairwise_boundaries (t : Text) : (boundaries t).Pairwise (· < ·) := by
  induction t with
  | nil => simp [boundaries, starts]
  | cons c t ih =>
    have hc := c.utf8Size_pos
    rw [boundaries_cons, List.pairwise_cons, List.pairwise_map]
    refine ⟨?_, ih.imp fun h => Nat.add_lt_add_left h _⟩
    intro n hn
    obtain ⟨m, -, rfl⟩ := List.mem_map.mp hn
    exact Nat.add_pos_left hc m

end Text

/-! ## The places of a document -/

namespace Document

variable {d : Document} {p q : BlockPoint}

/-- The blocks where a cursor can stand, with their texts. -/
def texts (d : Document) : List (BlockId × Text) :=
  d.textBlocks.map fun (_, b) => (b.id, b.text)

/-- The positions in the text of a block. -/
def placesOf (x : BlockId × Text) : List BlockPoint :=
  (Text.boundaries x.2).map (⟨x.1, ·⟩)

/-- The positions where a cursor can stand, in order. -/
def places (d : Document) : List BlockPoint :=
  d.texts.flatMap placesOf

theorem mem_texts {x : BlockId × Text} : x ∈ d.texts ↔ ∃ path b, d.blockAt? path = some b ∧
    b.isTextBlock = true ∧ b.kind.isVoid = false ∧ x = (b.id, b.text) := by
  simp only [texts, List.mem_map, Prod.exists, mem_textBlocks]
  constructor
  · rintro ⟨path, b, ⟨hb, htext, hvoid⟩, rfl⟩
    exact ⟨path, b, hb, htext, hvoid, rfl⟩
  · rintro ⟨path, b, hb, htext, hvoid, rfl⟩
    exact ⟨path, b, ⟨hb, htext, hvoid⟩, rfl⟩

/-- A place is at a boundary of the text of a block where a cursor can stand. -/
theorem mem_places : p ∈ d.places ↔ ∃ path b, d.blockAt? path = some b ∧ b.isTextBlock = true ∧
    b.kind.isVoid = false ∧ b.id = p.block ∧ b.text.isBoundary p.offset = true := by
  simp only [places, placesOf, List.mem_flatMap, List.mem_map, mem_texts, Text.mem_boundaries]
  constructor
  · rintro ⟨_, ⟨path, b, hb, htext, hvoid, rfl⟩, n, hn, rfl⟩
    exact ⟨path, b, hb, htext, hvoid, rfl, hn⟩
  · rintro ⟨path, b, hb, htext, hvoid, hid, hn⟩
    exact ⟨_, ⟨path, b, hb, htext, hvoid, rfl⟩, p.offset, hn, by rw [hid]⟩

theorem nodup_map_fst_texts (hd : d.ids.Nodup) : (d.texts.map Prod.fst).Nodup := by
  rw [← map_id_walk] at hd
  rw [texts, List.map_map]
  exact hd.sublist (List.filter_sublist.map _)

/-- Where identities are distinct, no place is there twice. -/
theorem nodup_places (hd : d.ids.Nodup) : d.places.Nodup := by
  have hids := nodup_map_fst_texts hd
  rw [List.Nodup, List.pairwise_map] at hids
  rw [places, List.nodup_flatMap]
  refine ⟨?_, hids.imp ?_⟩
  · intro x _
    exact ((Text.pairwise_boundaries x.2).imp Nat.ne_of_lt).map _ fun m n hmn h =>
      hmn (congrArg BlockPoint.offset h)
  · intro x y hne r hx hy
    obtain ⟨_, -, rfl⟩ := List.mem_map.mp hx
    obtain ⟨_, -, h⟩ := List.mem_map.mp hy
    exact hne (congrArg BlockPoint.block h).symm

/-- A place cuts a text in two. -/
theorem exists_cut (hp : p ∈ d.places) : ∃ front before after back,
    d.texts = front ++ (p.block, before ++ after) :: back ∧ before.bytes = p.offset := by
  obtain ⟨⟨id, t⟩, hmem, hp⟩ := List.mem_flatMap.mp hp
  obtain ⟨n, hn, rfl⟩ := List.mem_map.mp hp
  obtain ⟨before, after, rfl, hbytes⟩ := Text.isBoundary_iff.mp (Text.mem_boundaries.mp hn)
  obtain ⟨front, back, htexts⟩ := List.append_of_mem hmem
  exact ⟨front, before, after, back, htexts, hbytes⟩

/-- In a document without childless blocks a cursor can go to every place. -/
theorem finds_of_mem_places (hd : d.ids.Nodup) (hfilled : Node.Filled d.children)
    (hp : p ∈ d.places) : d.Finds p := by
  obtain ⟨path, b, hb, htext, -, hid, hn⟩ := mem_places.mp hp
  have hin : p.In d path b := ⟨hb, hid, by rwa [← Block.text_eq_ownText htext]⟩
  exact exists_resolve? hd hin htext
    ((Node.areLeaves_iff.mpr htext).any_isLeaf (Node.everywhere_iff.mp hfilled path b hb))

/-- The places are a matter of the tree. -/
theorem places_congr {d' : Document} (h : d'.children = d.children) : d'.places = d.places := by
  unfold places texts textBlocks matching
  rw [walk_congr h]

end Document

/-! ## Where a motion lands -/

namespace Motion

variable {d : Document} {p q : BlockPoint} {id : BlockId} {m : Motion} {before after : Text}
  {front back : List (BlockId × Text)}

/-- The surroundings of a place in a text of the document. -/
theorem surroundings_eq (hd : d.ids.Nodup)
    (h : d.texts = front ++ (id, before ++ after) :: back) :
    surroundings d ⟨id, before.bytes⟩ =
      .found ⟨id, before, after, front.getLast?, back.head?⟩ := by
  have hindex : d.texts.findIdx? (fun x => x.1 == id) = some front.length := by
    have hids := Document.nodup_map_fst_texts hd
    rw [h, List.map_append, List.map_cons, List.nodup_append] at hids
    rw [h, List.findIdx?_append, List.findIdx?_eq_none_iff.mpr, Option.none_or, List.findIdx?_cons]
    · simp
    · intro x hx
      exact beq_eq_false_iff_ne.mpr (hids.2.2 _ (List.mem_map_of_mem hx) _ List.mem_cons_self)
  have hprevious : (if front.length = 0 then none else d.texts[front.length - 1]?) =
      front.getLast? := by
    rw [h, List.getLast?_eq_getElem?]
    split
    next hnil => simp [List.length_eq_zero_iff.mp hnil]
    next hne => rw [List.getElem?_append_left (by omega)]
  have hnext : d.texts[front.length + 1]? = back.head? := by
    rw [h, List.getElem?_append_right (Nat.le_add_right _ _), Nat.add_sub_cancel_left,
      List.getElem?_cons_succ, List.head?_eq_getElem?]
  have hhere : d.texts[front.length]? = some (id, before ++ after) := by rw [h]; simp
  rw [surroundings, ← Document.texts]
  simp only [hindex, hhere, Text.splitAt?_append, hprevious, hnext]

/-- From a place a motion leads to another one. -/
def Lands (d : Document) (p : BlockPoint) (m : Motion) (q : BlockPoint) : Prop :=
  ∃ s, surroundings d p = .found s ∧ m.land s = q

theorem lands_of_texts (hd : d.ids.Nodup) (h : d.texts = front ++ (id, before ++ after) :: back)
    (hland : m.land ⟨id, before, after, front.getLast?, back.head?⟩ = q) :
    Lands d ⟨id, before.bytes⟩ m q :=
  ⟨_, surroundings_eq hd h, hland⟩

end Motion

/-! ## Moving the cursor -/

namespace EditorM

variable {τ : Type} [Tokenizer τ] {e : Editor τ} {s : Range} {p q : BlockPoint} {m : Motion}

/-- The cursor goes where the motion lands, if it can. -/
theorem moveCursor_of_lands (hs : e.document.selection = some s)
    (hp : e.document.blockPoint s.focus = .ok p) (hlands : Motion.Lands e.document p m q)
    (hq : e.document.Finds q) : ∃ e', moveCursor m false e = .ok ⟨⟩ e' ∧
      e'.document.children = e.document.children ∧ e'.document.CursorAt q := by
  obtain ⟨around, haround, rfl⟩ := hlands
  obtain ⟨r, hr, hpoint⟩ := hq
  have hselect := DraftM.perform_of_ok (s := e.draft) (Document.apply_select (r := .collapsed r)
    hpoint hpoint)
  obtain ⟨e', hrun, hdraft⟩ := observed_of_ok hselect
  have hdocument : e'.document = { e.document with selection := some (.collapsed r) } :=
    congrArg Draft.document hdraft
  refine ⟨e', ?_, by rw [hdocument], r, by rw [hdocument], ?_⟩
  · rw [moveCursor, get_bind]
    simp only [hs, hp, haround, Document.pointIn?, hr]
    exact hrun
  · rw [hdocument]
    exact hpoint

end EditorM

end BlockNotes
