import BlockNotes.Proofs.Document.Seam

/-!
# Reading a range

The text in a range is put together from parts of leaves.  A part that could not be
cut out would be missing without a word, so what is read is all there only if each
part can be cut out (`Document.Reads`).

That takes less than a range whose ends address a place.  An end that is in no leaf
cuts nothing, and one at offset zero cuts wherever it is.  So it is enough for each end
to fit: if it is in a leaf, then it is at a boundary (`Document.reads_of_fits`).  The
selection of a usable document fits also where it is the fixed point that addresses
nothing.

In a regular document a range within one block is read in this block alone, and what is
read from its start to a point is the text before the point
(`Document.Regular.textIn_start`).
-/

namespace BlockNotes.Document

variable {d : Document} {p : Point} {r : Range} {path : Path} {b : Block}

/-! ## Points -/

/-- If a point is in a leaf, it is at a boundary of the text of the leaf. -/
def Fits (d : Document) (p : Point) : Prop :=
  ∀ path index b l, p.path = path ++ [index] → d.blockAt? path = some b →
    b.children[index]? = some (.leaf l) → l.text.isBoundary p.offset = true

theorem fits_of_offset_eq_zero (h : p.offset = 0) : d.Fits p := by
  intro path index b l _ _ _
  rw [h]
  exact Text.isBoundary_zero _

theorem Addresses.fits (h : d.Addresses p) : d.Fits p := by
  obtain ⟨path, index, b, l, hpath, hb, hl, -, hoffset⟩ := h
  intro path' index' b' l' hpath' hb' hl'
  obtain ⟨rfl, hindex⟩ := List.append_inj' (hpath.symm.trans hpath') rfl
  cases hindex
  cases hb.symm.trans hb'
  cases hl.symm.trans hl'
  exact hoffset

/-- The start of a block fits. -/
theorem fits_of_startOf (h : d.startOf path = .ok p) : d.Fits p := by
  unfold startOf at h
  split at h
  next => cases h
  next =>
    split at h
    next =>
      cases h
      exact fits_of_offset_eq_zero rfl
    next => cases h

/-- The end of a text block addresses a place. -/
theorem addresses_of_endOf (hb : d.blockAt? path = some b) (htext : b.isTextBlock = true)
    (h : d.endOf path = .ok p) : d.Addresses p := by
  by_cases hne : b.children = []
  · obtain ⟨id, kind, children⟩ := b
    cases hne
    rw [endOf, hb] at h
    cases h
  · obtain ⟨e, hend, hsite⟩ := exists_endOf hb (Node.areLeaves_iff.mpr htext) hne
    cases hend.symm.trans h
    exact hsite.addresses

/-! ## Ranges -/

/-- The part of a leaf that lies between two points, if it can be cut out. -/
def leafPart? (start stop : Point) (path : Path) (l : Leaf) : Option Text :=
  if path < start.path ∨ stop.path < path then some []
  else
    let a := if path = start.path then start.offset else 0
    let b := if path = stop.path then stop.offset else l.size
    l.text.slice? (min a b) (min b l.size)

theorem leafPart_eq (start stop : Point) (path : Path) (l : Leaf) :
    leafPart start stop path l = (leafPart? start stop path l).getD [] := by
  unfold leafPart leafPart?
  split <;> rfl

/-- Each part of a leaf in a range can be cut out. -/
def Reads (d : Document) (r : Range) : Prop :=
  ∀ path index b l, d.blockAt? path = some b → b.children[index]? = some (.leaf l) →
    leafPart? r.start r.stop (path ++ [index]) l =
      some (leafPart r.start r.stop (path ++ [index]) l)

theorem fits_start (hanchor : d.Fits r.anchor) (hfocus : d.Fits r.focus) : d.Fits r.start := by
  unfold Range.start
  split
  next => exact hanchor
  next => exact hfocus

theorem fits_stop (hanchor : d.Fits r.anchor) (hfocus : d.Fits r.focus) : d.Fits r.stop := by
  unfold Range.stop
  split
  next => exact hfocus
  next => exact hanchor

theorem reads_of_fits (hanchor : d.Fits r.anchor) (hfocus : d.Fits r.focus) : d.Reads r := by
  intro path index b l hb hl
  suffices h : ∃ t, leafPart? r.start r.stop (path ++ [index]) l = some t by
    obtain ⟨t, ht⟩ := h
    rw [leafPart_eq, ht, Option.getD_some]
  unfold leafPart?
  split
  next => exact ⟨[], rfl⟩
  next =>
    have hstart : l.text.isBoundary
        (if path ++ [index] = r.start.path then r.start.offset else 0) = true := by
      split
      next hpath => exact fits_start hanchor hfocus path index b l hpath.symm hb hl
      next => exact Text.isBoundary_zero _
    have hstop : l.text.isBoundary
        (if path ++ [index] = r.stop.path then r.stop.offset else l.size) = true := by
      split
      next hpath => exact fits_stop hanchor hfocus path index b l hpath.symm hb hl
      next => exact Text.isBoundary_bytes _
    exact Text.exists_slice?_min hstart hstop

/-! ## The selection -/

theorem Usable.fits (hd : d.Usable) (hr : d.selection = some r) : d.Fits r.anchor ∧ d.Fits r.focus := by
  rcases hd.selection r hr with ⟨hanchor, hfocus⟩ | ⟨-, rfl⟩
  · exact ⟨hanchor.fits, hfocus.fits⟩
  · exact ⟨fits_of_offset_eq_zero rfl, fits_of_offset_eq_zero rfl⟩

end BlockNotes.Document
