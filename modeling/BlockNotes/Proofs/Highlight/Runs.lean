import BlockNotes.Highlight.Run
import BlockNotes.Proofs.Text.Boundary

/-!
# Tilings and cuts

Stretches that follow each other to the end of a text make up the text
(`Text.Tiles.flatMap_slice?`).

The cuts of a text under spans ascend, both ends of the text are among them, and all
of them are boundaries, whatever the spans are, overlapping, reversed or out of bounds.
-/

namespace BlockNotes

namespace Text

/-! ## Tilings -/

/-- Stretches follow each other from an offset to the end of a text, and stop at boundaries. -/
def Tiles (t : Text) : (start : Nat) → List (Nat × Nat) → Prop
  | start, [] => start = bytes t
  | start, (a, b) :: rest => a = start ∧ a ≤ b ∧ t.isBoundary b = true ∧ t.Tiles b rest

/-- The first stretch of a tiling cuts a piece out of the text, and the others tile the rest. -/
theorem Tiles.exists_piece {t : Text} {a b : Nat} {xs : List (Nat × Nat)} {before after : Text}
    (h : t.Tiles (bytes before) ((a, b) :: xs)) (ht : t = before ++ after) :
    a = bytes before ∧ ∃ piece rest, after = piece ++ rest ∧ t.slice? a b = some piece ∧
      t.Tiles (bytes (before ++ piece)) xs := by
  obtain ⟨rfl, hle, hstop, hrest⟩ := h
  rw [ht, show b = bytes before + (b - bytes before) by omega] at hstop
  obtain ⟨piece, rest, rfl, hpiece⟩ := isBoundary_iff.mp (isBoundary_append_right.mp hstop)
  have hb : b = bytes (before ++ piece) := by
    rw [bytes_append]
    omega
  rw [hb] at hrest ⊢
  refine ⟨rfl, piece, rest, rfl, ?_, hrest⟩
  rw [ht, ← List.append_assoc, slice?_append]

/-- The pieces of a tiling make up the rest of the text. -/
theorem Tiles.flatMap_slice? {t : Text} {xs : List (Nat × Nat)} {before after : Text}
    (h : t.Tiles (bytes before) xs) (ht : t = before ++ after) :
    xs.flatMap (fun x => (t.slice? x.1 x.2).getD []) = after := by
  induction xs generalizing before after with
  | nil =>
    have hbytes := congrArg bytes ht
    rw [bytes_append, ← h] at hbytes
    exact (bytes_eq_zero.mp (by omega)).symm
  | cons x xs ih =>
    obtain ⟨a, b⟩ := x
    obtain ⟨-, piece, rest, rfl, hslice, hrest⟩ := h.exists_piece ht
    rw [← List.append_assoc] at ht
    rw [List.flatMap_cons, ih hrest ht, hslice, Option.getD_some]

end Text

/-! ## Cuts -/

namespace Run

theorem mem_placeCut {n x : Nat} {l : List Nat} : x ∈ placeCut n l ↔ x = n ∨ x ∈ l := by
  induction l with
  | nil => simp [placeCut]
  | cons m rest ih => grind [placeCut]

theorem pairwise_placeCut {n : Nat} {l : List Nat} (h : l.Pairwise (· < ·)) :
    (placeCut n l).Pairwise (· < ·) := by
  induction l with
  | nil => simp [placeCut]
  | cons m rest ih =>
    obtain ⟨hm, hrest⟩ := List.pairwise_cons.mp h
    unfold placeCut
    split
    next hn =>
      refine .cons (fun x hx => ?_) h
      rcases List.mem_cons.mp hx with rfl | hx
      · exact hn
      · exact Nat.lt_trans hn (hm x hx)
    next hn =>
      split
      next => exact h
      next hne =>
        refine .cons (fun x hx => ?_) (ih hrest)
        rcases mem_placeCut.mp hx with rfl | hx
        · omega
        · exact hm x hx

theorem mem_cuts {text : Text} {pieces : List Run} {x : Nat} : x ∈ cuts text pieces ↔
    x = 0 ∨ x = text.bytes ∨ ∃ p ∈ pieces, x = p.start ∨ x = p.stop := by
  have hfold : ∀ l : List Nat, x ∈ l.foldr placeCut [] ↔ x ∈ l := by
    intro l
    induction l with
    | nil => rfl
    | cons n l ih => rw [List.foldr_cons, mem_placeCut, ih, List.mem_cons]
  rw [cuts, hfold]
  simp

theorem pairwise_cuts (text : Text) (pieces : List Run) :
    (cuts text pieces).Pairwise (· < ·) := by
  have hfold : ∀ l : List Nat, (l.foldr placeCut []).Pairwise (· < ·) := by
    intro l
    induction l with
    | nil => exact .nil
    | cons n l ih => exact pairwise_placeCut ih
  exact hfold _

/-- The first cut is the start of the text. -/
theorem exists_cuts_eq (text : Text) (pieces : List Run) :
    ∃ rest, cuts text pieces = 0 :: rest := by
  have hzero : 0 ∈ cuts text pieces := mem_cuts.mpr (.inl rfl)
  have hsorted := pairwise_cuts text pieces
  cases hcuts : cuts text pieces with
  | nil =>
    rw [hcuts] at hzero
    cases hzero
  | cons a rest =>
    rw [hcuts] at hzero hsorted
    rcases List.mem_cons.mp hzero with rfl | hmem
    · exact ⟨rest, rfl⟩
    · exact absurd ((List.pairwise_cons.mp hsorted).1 0 hmem) (Nat.not_lt_zero a)

theorem isBoundary_of_clamp? {text : Text} {s : Span} {p : Run} (h : clamp? text s = some p) :
    text.isBoundary p.start = true ∧ text.isBoundary p.stop = true := by
  dsimp only [clamp?] at h
  split at h
  next =>
    cases h
    exact ⟨Text.isBoundary_ceilBoundary text _, Text.isBoundary_floorBoundary text _⟩
  next => cases h

theorem isBoundary_of_mem_cuts (text : Text) (spans : List Span) :
    ∀ x ∈ cuts text (spans.filterMap (clamp? text)), text.isBoundary x = true := by
  intro x hx
  rcases mem_cuts.mp hx with rfl | rfl | ⟨p, hp, hx⟩
  · exact Text.isBoundary_zero text
  · exact Text.isBoundary_bytes text
  · obtain ⟨s, -, hs⟩ := List.mem_filterMap.mp hp
    obtain ⟨hstart, hstop⟩ := isBoundary_of_clamp? hs
    rcases hx with rfl | rfl
    · exact hstart
    · exact hstop

end Run

end BlockNotes
