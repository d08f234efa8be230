import BlockNotes.Proofs.Editor.Places

/-!
# Walking from place to place

The motions by one character go through the places of a document one after another.
Left leads to the place before and right to the one behind, also over the end of a
block, and at the ends of the document they stay (`Motion.lands_left_right`).

So a cursor that walks is an index into the list of places.  One step changes the
index by one within the list (`Editor.exists_moveCursor`), and a run of steps is an
induction on the steps (`Editor.Stands.run`).
-/

namespace BlockNotes

/-! ## One step -/

namespace Motion

variable {d : Document} {p : BlockPoint} {xs ys : List BlockPoint} {front back : List (BlockId × Text)}
  {id : BlockId} {before after : Text}

/-- The places on both sides of a cut. -/
theorem places_eq_of_texts (h : d.texts = front ++ (id, before ++ after) :: back) :
    d.places = (front.flatMap Document.placesOf ++ (Text.starts before).map (⟨id, ·⟩)) ++
      ⟨id, before.bytes⟩ :: ((Text.boundaries after).tail.map (fun n => ⟨id, before.bytes + n⟩) ++
        back.flatMap Document.placesOf) := by
  have hafter : Text.boundaries after = 0 :: (Text.boundaries after).tail := by
    cases after with
    | nil => rfl
    | cons c t => rw [Text.boundaries_cons, List.tail_cons]
  rw [Document.places, h, List.flatMap_append, List.flatMap_cons, Document.placesOf,
    Text.boundaries_append, hafter]
  simp [Function.comp_def]

/-- The last place of the blocks before a block. -/
theorem getLast?_flatMap_placesOf (front : List (BlockId × Text)) :
    (front.flatMap Document.placesOf).getLast? = front.getLast?.map fun x => ⟨x.1, x.2.bytes⟩ := by
  rcases List.eq_nil_or_concat front with rfl | ⟨front, x, rfl⟩
  · rfl
  · simp [Document.placesOf, Text.boundaries]

/-- The first place of the blocks behind a block. -/
theorem head?_flatMap_placesOf (back : List (BlockId × Text)) :
    (back.flatMap Document.placesOf).head? = back.head?.map fun x => ⟨x.1, 0⟩ := by
  cases back with
  | nil => rfl
  | cons x back =>
    obtain ⟨id, t⟩ := x
    cases t <;> simp [Document.placesOf, Text.boundaries, Text.starts]

/-- In front of a cut is the last character before it, or the end of the block before. -/
theorem land_left : land ⟨id, before, after, front.getLast?, back.head?⟩ .left =
    (front.flatMap Document.placesOf ++
      (Text.starts before).map fun n => (⟨id, n⟩ : BlockPoint)).getLast?.getD ⟨id, before.bytes⟩ := by
  rcases List.eq_nil_or_concat before with rfl | ⟨before, c, rfl⟩
  · rw [Text.starts, List.map_nil, List.append_nil, getLast?_flatMap_placesOf]
    cases hlast : front.getLast? <;> simp [land]
  · simp [land, Text.starts_append, Text.starts]

/-- Behind a cut is the next character, or the start of the block behind. -/
theorem land_right : land ⟨id, before, after, front.getLast?, back.head?⟩ .right =
    ((Text.boundaries after).tail.map (fun n => (⟨id, before.bytes + n⟩ : BlockPoint)) ++
      back.flatMap Document.placesOf).head?.getD ⟨id, before.bytes⟩ := by
  cases after with
  | nil =>
    rw [show (Text.boundaries []).tail = [] from rfl, List.map_nil, List.nil_append,
      head?_flatMap_placesOf]
    cases hhead : back.head? <;> simp [land]
  | cons c after =>
    rw [Text.boundaries_cons, List.tail_cons]
    cases after <;> simp [land, Text.boundaries, Text.starts]

/-- To the left is the place before and to the right the place behind, if there is one. -/
theorem lands_left_right (hd : d.ids.Nodup) (h : d.places = xs ++ p :: ys) :
    Lands d p .left (xs.getLast?.getD p) ∧ Lands d p .right (ys.head?.getD p) := by
  have hp : p ∈ d.places := by
    rw [h]
    exact List.mem_append_right _ List.mem_cons_self
  obtain ⟨front, before, after, back, htexts, hbytes⟩ := Document.exists_cut hp
  obtain ⟨id, offset⟩ := p
  cases hbytes
  obtain ⟨rfl, rfl⟩ := Node.eq_of_split_of_nodup (Document.nodup_places hd) h
    (places_eq_of_texts htexts)
  exact ⟨lands_of_texts hd htexts land_left, lands_of_texts hd htexts land_right⟩

end Motion

/-! ## Walks -/

namespace Editor

variable {τ : Type} [Tokenizer τ] {d : Document} {e : Editor τ} {i : Nat}

/-- Where a step leads from the place at an index, among a number of places. -/
def stepFrom (count i : Nat) : Motion → Nat
  | .left => i - 1
  | .right => min (i + 1) (count - 1)
  | _ => i

/-- The document of an editor has the tree of a document, and the cursor stands at the place with an
index. -/
structure Stands (d : Document) (i : Nat) (e : Editor τ) : Prop where
  children : e.document.children = d.children
  cursor : ∃ p, d.places[i]? = some p ∧ e.document.CursorAt p

/-- From a place among others one step leads to the place before or behind it. -/
theorem exists_moveCursor (hd : e.document.ids.Nodup) (hfilled : Node.Filled e.document.children)
    {s : Range} {p : BlockPoint} (hs : e.document.selection = some s)
    (hp : e.document.blockPoint s.focus = .ok p) (hi : e.document.places[i]? = some p) {m : Motion}
    (hm : m = .left ∨ m = .right) : ∃ e', EditorM.moveCursor m false e = .ok ⟨⟩ e' ∧
      e'.Stands e.document (stepFrom e.document.places.length i m) := by
  obtain ⟨hlt, hget⟩ := List.getElem?_eq_some_iff.mp hi
  have hsplit : e.document.places = e.document.places.take i ++ p :: e.document.places.drop (i + 1) := by
    rw [← hget, List.getElem_cons_drop, List.take_append_drop]
  obtain ⟨hleft, hright⟩ := Motion.lands_left_right hd hsplit
  have hland : ∃ q, Motion.Lands e.document p m q ∧
      e.document.places[stepFrom e.document.places.length i m]? = some q := by
    rcases hm with rfl | rfl
    · refine ⟨_, hleft, ?_⟩
      cases i with
      | zero => simpa [stepFrom] using hi
      | succ i => simp [stepFrom, List.getLast?_take, List.getElem?_eq_getElem (Nat.lt_of_succ_lt hlt)]
    · refine ⟨_, hright, ?_⟩
      rw [List.head?_drop]
      by_cases hend : i + 1 < e.document.places.length
      · rw [stepFrom, Nat.min_eq_left (by omega), List.getElem?_eq_getElem hend, Option.getD_some]
      · rw [stepFrom, Nat.min_eq_right (by omega), List.getElem?_eq_none (Nat.not_lt.mp hend),
          Option.getD_none, show e.document.places.length - 1 = i by omega, hi]
  obtain ⟨q, hlands, hq⟩ := hland
  obtain ⟨e', hrun, hchildren, hcursor⟩ := EditorM.moveCursor_of_lands hs hp hlands
    (Document.finds_of_mem_places hd hfilled (List.mem_of_getElem? hq))
  exact ⟨e', hrun, hchildren, q, hq, hcursor⟩

/-- A step from a place among others. -/
theorem stands_act (hd : e.document.ids.Nodup) (hfilled : Node.Filled e.document.children)
    {s : Range} {p : BlockPoint} (hs : e.document.selection = some s)
    (hp : e.document.blockPoint s.focus = .ok p) (hi : e.document.places[i]? = some p) {m : Motion}
    (hm : m = .left ∨ m = .right) : (e.act (.moveCursor m false)).Stands e.document
      (stepFrom e.document.places.length i m) := by
  obtain ⟨e', hrun, hstands⟩ := exists_moveCursor hd hfilled hs hp hi hm
  rw [act, EditorAction.steps, hrun]
  exact hstands

/-- A cursor that stands at a place goes step by step. -/
theorem Stands.run (hd : d.ids.Nodup) (hfilled : Node.Filled d.children) (h : e.Stands d i)
    (ms : List Motion) (hms : ∀ m ∈ ms, m = .left ∨ m = .right) :
    (e.run (ms.map (.moveCursor · false))).Stands d (ms.foldl (stepFrom d.places.length) i) := by
  induction ms generalizing e i with
  | nil => exact h
  | cons m ms ih =>
    obtain ⟨hchildren, p, hi, q, hs, hp⟩ := h
    have hplaces := Document.places_congr hchildren
    have hd' : e.document.ids.Nodup := by
      rw [Document.ids, hchildren]
      exact hd
    rw [List.forall_mem_cons] at hms
    obtain ⟨hchildren', hcursor⟩ :=
      stands_act hd' (hchildren ▸ hfilled) hs hp (hplaces ▸ hi) hms.1
    rw [hplaces] at hcursor
    exact ih ⟨hchildren'.trans hchildren, hcursor⟩ hms.2

theorem foldl_stepFrom_right {count : Nat} (hi : i < count) (n : Nat) :
    (List.replicate n Motion.right).foldl (stepFrom count) i = min (i + n) (count - 1) := by
  induction n generalizing i with
  | zero => rw [List.replicate_zero, List.foldl_nil]; omega
  | succ n ih =>
    rw [List.replicate_succ, List.foldl_cons, stepFrom, ih (by omega)]
    omega

/-- In a document without childless blocks the places where a cursor can stand are all different, and
left and right walk through them.  From each of them right leads to the next one, or stays at the last
one, and left leads to the one before, or stays at the first one.  So left takes back a step to the
right that was none from the last place, right takes back a step to the left that was none from the
first place, and going on to the right meets one place after another and stops at the last one. -/
theorem moveCursor_walks (hd : e.document.ids.Nodup) (hfilled : Node.Filled e.document.children)
    {s : Range} {p : BlockPoint} (hs : e.document.selection = some s)
    (hp : e.document.blockPoint s.focus = .ok p) (hi : e.document.places[i]? = some p) :
    let last := e.document.places.length - 1
    e.document.places.Nodup ∧
      (∃ e', EditorM.moveCursor .right false e = .ok ⟨⟩ e' ∧
        e'.Stands e.document (min (i + 1) last)) ∧
      (∃ e', EditorM.moveCursor .left false e = .ok ⟨⟩ e' ∧ e'.Stands e.document (i - 1)) ∧
      (i < last → (e.run [.moveCursor .right false, .moveCursor .left false]).Stands e.document i) ∧
      (0 < i → (e.run [.moveCursor .left false, .moveCursor .right false]).Stands e.document i) ∧
      ∀ n, (e.run (List.replicate (n + 1) (.moveCursor .right false))).Stands e.document
        (min (i + (n + 1)) last) := by
  intro last
  have hlt : i < e.document.places.length := (List.getElem?_eq_some_iff.mp hi).1
  have hlast : last = e.document.places.length - 1 := rfl
  have hright := stands_act hd hfilled hs hp hi (.inr rfl)
  have hleft := stands_act hd hfilled hs hp hi (.inl rfl)
  refine ⟨Document.nodup_places hd, exists_moveCursor hd hfilled hs hp hi (.inr rfl),
    exists_moveCursor hd hfilled hs hp hi (.inl rfl), ?_, ?_, ?_⟩
  · intro hbefore
    have hback := hright.run hd hfilled [.left] (by simp)
    rwa [List.foldl_cons, List.foldl_nil, show stepFrom e.document.places.length
      (stepFrom e.document.places.length i .right) .left = i by simp only [stepFrom]; omega] at hback
  · intro hpos
    have hback := hleft.run hd hfilled [.right] (by simp)
    rwa [List.foldl_cons, List.foldl_nil, show stepFrom e.document.places.length
      (stepFrom e.document.places.length i .left) .right = i by simp only [stepFrom]; omega] at hback
  · intro n
    have hon := hright.run hd hfilled (List.replicate n .right) (by simp)
    rw [List.map_replicate, foldl_stepFrom_right (by simp only [stepFrom]; omega)] at hon
    rwa [show min (i + (n + 1)) last = min (stepFrom e.document.places.length i .right + n)
      (e.document.places.length - 1) by simp only [stepFrom]; omega]

/-- From the end of a selection, where a bold part and a paragraph end, right leads over an image to
the start of a code block. -/
theorem moveCursor_walks_image :
    let bs := [Block.ofKind .paragraph [.leaf (.ofText ['a']), .leaf ⟨['é'], { bold := true }⟩],
      .ofText (.image "a.png") ['x'], .ofText (.code "text") ['b', '\n']]
    let e := ofDocument ((Document.ofBlocks bs).run [.select ⟨⟨[0, 0], 0⟩, ⟨[0, 1], 2⟩⟩])
      Registry.empty {}
    e.document.places = [⟨1, 0⟩, ⟨1, 1⟩, ⟨1, 3⟩, ⟨3, 0⟩, ⟨3, 1⟩, ⟨3, 2⟩] ∧
      (∃ e', EditorM.moveCursor .right false e = .ok ⟨⟩ e' ∧ e'.document.CursorAt ⟨3, 0⟩) ∧
      (e.run (List.replicate 7 (.moveCursor .right false))).document.CursorAt ⟨3, 2⟩ := by
  intro bs e
  have hd : e.document.ids.Nodup := by decide
  have hfilled : Node.Filled e.document.children :=
    (Document.settled_normalize _).blocks.mono fun _ hb => hb.nonempty
  obtain ⟨-, ⟨e', hrun, -, p, hp, hcursor⟩, -, -, -, hon⟩ :=
    moveCursor_walks hd hfilled rfl (p := ⟨1, 3⟩) (by rfl) (i := 2) (by decide)
  obtain ⟨-, q, hq, hcursor'⟩ := hon 6
  have hplaces : e.document.places = [⟨1, 0⟩, ⟨1, 1⟩, ⟨1, 3⟩, ⟨3, 0⟩, ⟨3, 1⟩, ⟨3, 2⟩] := by decide
  rw [hplaces] at hp hq
  cases hp
  cases hq
  exact ⟨hplaces, ⟨e', hrun, hcursor⟩, hcursor'⟩

end Editor

end BlockNotes
