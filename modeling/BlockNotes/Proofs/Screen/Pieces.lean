import BlockNotes.Proofs.Screen.Drawn
import BlockNotes.Proofs.Text.Lines

/-!
# Pieces of a text with the cursor

The cursor is drawn by reversing one part of one line.

*Pieces.*  They follow each other without gaps, a line feed is a piece of its own, and so is
the character at the cursor (`StyledText.InOrder`).  So where the cursor stands at a
character, the pieces fall apart into those before it, its own, and those behind it
(`StyledText.InOrder.exists_split`).  Away from the cursor nothing is reversed.

*Lines.*  What is drawn of the pieces is broken at the line feeds.  That is undone by putting
the lines together again (`StyledText.ofLines_breakLines`), and the line with the cursor has
as many lines above it as there are line feeds before it
(`StyledText.cursorOn_breakLines`).
-/

namespace BlockNotes

/-! ## What the cursor shows -/

/-- The character that stands at an offset. -/
def Text.charAt? (t : Text) (offset : Nat) : Option Char := (t.drop? offset).bind List.head?

/-- Whether no character but a line feed stands at an offset. -/
def Text.endsLine (t : Text) (offset : Nat) : Bool := (t.charAt? offset).all (· = '\n')

/-- What the cursor shows at an offset: the character there, or a blank where a line ends. -/
def Text.cell (t : Text) (offset : Nat) : Text :=
  if t.endsLine offset then [' '] else (t.charAt? offset).toList

theorem Text.charAt?_append (a b : Text) : (a ++ b).charAt? (bytes a) = b.head? := by
  rw [charAt?, drop?, splitAt?_append, Option.map_some, Option.bind_some]

theorem Text.endsLine_bytes (a : Text) : a.endsLine (bytes a) = true := by
  have hend := charAt?_append a []
  rw [List.append_nil] at hend
  rw [endsLine, hend]
  rfl

theorem Text.endsLine_append_cons (a b : Text) (c : Char) :
    (a ++ c :: b).endsLine (bytes a) = decide (c = '\n') := by
  rw [endsLine, charAt?_append, List.head?_cons, Option.all_some]

theorem Text.cell_append_cons (a b : Text) (c : Char) :
    (a ++ c :: b).cell (bytes a) = if c = '\n' then [' '] else [c] := by
  rw [cell, endsLine_append_cons, charAt?_append, List.head?_cons, Option.toList_some]
  simp

/-- Whether the cursor stands where a line ends, so that there is a blank for it. -/
def Overlay.hasBlank (o : Overlay) (t : Text) : Bool := o.cursor.any t.endsLine

namespace StyledText

/-! ## Pieces -/

/-- A piece of text that starts at an offset is not cut any further: a line feed in it is the
whole piece, and so is a character at the cursor. -/
structure Whole (o : Overlay) (offset : Nat) (piece : Text) : Prop where
  ne_nil : piece ≠ []
  feed : '\n' ∈ piece → piece = ['\n']
  cursor : ∀ a c b, piece = a ++ c :: b → o.cursor = some (offset + Text.bytes a) →
    a = [] ∧ b = []

/-- Whole pieces follow each other from an offset on, in styles that are not reversed. -/
def InOrder (o : Overlay) : (offset : Nat) → List (Style × Nat × Text) → Prop
  | _, [] => True
  | offset, (style, start, piece) :: rest => start = offset ∧ style.reversed = false ∧
      Whole o offset piece ∧ InOrder o (offset + Text.bytes piece) rest

/-- The text of pieces. -/
def pieceText (ps : List (Style × Nat × Text)) : Text := ps.flatMap fun p => p.2.2

@[simp] theorem pieceText_cons (p : Style × Nat × Text) (ps : List (Style × Nat × Text)) :
    pieceText (p :: ps) = p.2.2 ++ pieceText ps := List.flatMap_cons

@[simp] theorem pieceText_append (ps qs : List (Style × Nat × Text)) :
    pieceText (ps ++ qs) = pieceText ps ++ pieceText qs := List.flatMap_append

theorem whole_singleton (o : Overlay) (offset : Nat) (c : Char) : Whole o offset [c] where
  ne_nil := List.cons_ne_nil _ _
  feed h := by rw [List.mem_singleton.mp h]
  cursor a x b h _ := by
    cases a with
    | nil => exact ⟨rfl, (List.cons.inj h).2.symm⟩
    | cons y a => simp at h

/-- A character is joined to the piece behind it unless one of them has to stay alone. -/
theorem Whole.cons {o : Overlay} {offset : Nat} {c : Char} {piece : Text}
    (h : Whole o (offset + c.utf8Size) piece) (hparts : o.parts offset (offset + c.utf8Size) = false)
    (hc : c ≠ '\n') (hpiece : piece.head? ≠ some '\n') : Whole o offset (c :: piece) := by
  simp only [Overlay.parts, Bool.or_eq_false_iff, decide_eq_false_iff_not] at hparts
  refine ⟨List.cons_ne_nil _ _, fun hmem => ?_, fun a x b hab hcursor => ?_⟩
  · rcases List.mem_cons.mp hmem with heq | hmem
    · exact absurd heq.symm hc
    · rw [h.feed hmem] at hpiece
      exact absurd rfl hpiece
  · cases a with
    | nil => exact absurd hcursor hparts.1.1
    | cons y a =>
      obtain ⟨rfl, htail⟩ := List.cons.inj hab
      rw [Text.bytes_cons, ← Nat.add_assoc] at hcursor
      obtain ⟨rfl, -⟩ := h.cursor a x b htail hcursor
      exact absurd hcursor hparts.1.2

/-- The pieces of a text are in order. -/
theorem inOrder_pieces (o : Overlay) {style : Style} (hstyle : style.reversed = false)
    (offset : Nat) (t : Text) : InOrder o offset ((pieces o offset t).map fun p => (style, p)) := by
  induction t generalizing offset with
  | nil => trivial
  | cons c t ih =>
    have hrest := ih (offset + c.utf8Size)
    dsimp only [pieces]
    split
    next => exact ⟨rfl, hstyle, whole_singleton o offset c, trivial⟩
    next start piece more hpieces =>
      rw [hpieces, List.map_cons] at hrest
      split
      next =>
        refine ⟨rfl, hstyle, whole_singleton o offset c, ?_⟩
        exact hrest
      next hjoin =>
        obtain ⟨-, -, hwhole, hmore⟩ := hrest
        simp only [Bool.or_eq_true, decide_eq_true_eq, not_or, Bool.not_eq_true] at hjoin
        refine ⟨rfl, hstyle, hwhole.cons hjoin.1.1 hjoin.1.2 (by simpa using hjoin.2), ?_⟩
        rw [Text.bytes_cons, ← Nat.add_assoc]
        exact hmore

theorem inOrder_append {o : Overlay} {offset : Nat} {ps qs : List (Style × Nat × Text)} :
    InOrder o offset (ps ++ qs) ↔
      InOrder o offset ps ∧ InOrder o (offset + Text.bytes (pieceText ps)) qs := by
  induction ps generalizing offset with
  | nil => simp [InOrder, pieceText]
  | cons p ps ih =>
    rw [List.cons_append, InOrder, InOrder, ih, pieceText_cons, Text.bytes_append, Nat.add_assoc]
    simp only [and_assoc]

/-- Each piece starts where there is text left. -/
theorem InOrder.bounds {o : Overlay} {offset : Nat} {ps : List (Style × Nat × Text)}
    (h : InOrder o offset ps) :
    ∀ p ∈ ps, offset ≤ p.2.1 ∧ p.2.1 < offset + Text.bytes (pieceText ps) := by
  induction ps generalizing offset with
  | nil => simp
  | cons p ps ih =>
    obtain ⟨style, start, piece⟩ := p
    obtain ⟨rfl, -, hwhole, hrest⟩ := h
    have hpiece : Text.bytes piece ≠ 0 := fun h => hwhole.ne_nil (Text.bytes_eq_zero.mp h)
    rw [pieceText_cons, Text.bytes_append]
    refine List.forall_mem_cons.mpr ⟨⟨Nat.le_refl _, by dsimp only; omega⟩, fun q hq => ?_⟩
    have hbounds := ih hrest q hq
    dsimp only
    exact ⟨by omega, by omega⟩

/-- The character at the cursor is a piece, between the pieces before it and those behind it. -/
theorem InOrder.exists_split {o : Overlay} {offset : Nat} {ps : List (Style × Nat × Text)}
    (h : InOrder o offset ps) {u v : Text} {c : Char} (htext : pieceText ps = u ++ c :: v)
    (hcursor : o.cursor = some (offset + Text.bytes u)) :
    ∃ style qs rs, ps = qs ++ (style, offset + Text.bytes u, [c]) :: rs ∧ pieceText qs = u := by
  induction ps generalizing offset u with
  | nil => simp [pieceText] at htext
  | cons p ps ih =>
    obtain ⟨style, start, piece⟩ := p
    obtain ⟨rfl, -, hwhole, hrest⟩ := h
    rw [pieceText_cons] at htext
    -- The text before the cursor goes beyond this piece, or the cursor is in it.
    have hcases : (∃ u', u = piece ++ u' ∧ pieceText ps = u' ++ c :: v) ∨
        ∃ w, piece = u ++ c :: w := by
      rcases List.append_eq_append_iff.mp htext with ⟨u', hu, hv⟩ | ⟨w, hpiece, hv⟩
      · exact .inl ⟨u', hu, hv⟩
      · cases w with
        | nil => exact .inl ⟨[], by simpa using hpiece.symm, hv.symm⟩
        | cons x w =>
          cases (List.cons.inj hv).1
          exact .inr ⟨w, hpiece⟩
    rcases hcases with ⟨u', rfl, htext'⟩ | ⟨w, rfl⟩
    · rw [Text.bytes_append, ← Nat.add_assoc] at hcursor ⊢
      obtain ⟨style', qs, rs, rfl, hqs⟩ := ih hrest htext' hcursor
      exact ⟨style', (style, start, piece) :: qs, rs, rfl, by rw [pieceText_cons, hqs]⟩
    · obtain ⟨rfl, rfl⟩ := hwhole.cursor u c w rfl hcursor
      exact ⟨style, [], ps, rfl, rfl⟩

/-- The pieces of the runs of a text, each in the style of its run. -/
def runPieces (t : Text) (runs : List StyledRange) (o : Overlay) : List (Style × Nat × Text) :=
  runs.flatMap fun r =>
    (pieces o r.start ((t.slice? r.start r.stop).getD [])).map fun p => (r.style, p)

theorem inOrder_runPieces {t u v : Text} {runs : List StyledRange}
    (hruns : t.Tiles u.bytes (runs.map fun r => (r.start, r.stop))) (ht : t = u ++ v)
    (hstyles : ∀ r ∈ runs, r.style.reversed = false) (o : Overlay) :
    InOrder o u.bytes (runPieces t runs o) ∧ pieceText (runPieces t runs o) = v := by
  induction runs generalizing u v with
  | nil => exact ⟨trivial, hruns.flatMap_slice? ht⟩
  | cons r runs ih =>
    obtain ⟨hstyle, hstyles⟩ := List.forall_mem_cons.mp hstyles
    obtain ⟨hstart, piece, rest, rfl, hslice, hrest⟩ := hruns.exists_piece ht
    rw [← List.append_assoc] at ht
    obtain ⟨horder, htext⟩ := ih hrest ht hstyles
    have hfirst : runPieces t (r :: runs) o =
        ((pieces o u.bytes piece).map fun p => (r.style, p)) ++ runPieces t runs o := by
      rw [runPieces, List.flatMap_cons, hslice, hstart]
      rfl
    have hpiece : pieceText ((pieces o u.bytes piece).map fun p => (r.style, p)) = piece := by
      rw [pieceText, List.flatMap_map]
      exact flatMap_pieces o u.bytes piece
    rw [hfirst, inOrder_append, pieceText_append, hpiece, htext, ← Text.bytes_append]
    exact ⟨⟨inOrder_pieces o hstyle _ piece, horder⟩, rfl⟩

/-! ## What is drawn of pieces -/

/-- A part without the blank that is there for the cursor. -/
def ink (blank : Bool) (s : StyledText) : Text := if blank && s.style.reversed then [] else s.text

/-- What is written by something that may be an end of line. -/
def inkOrFeed (blank : Bool) : Option StyledText → Text
  | none => ['\n']
  | some s => s.ink blank

/-- No part is reversed. -/
def Plain (parts : List StyledText) : Prop := ∀ s ∈ parts, s.style.reversed = false

/-- What is drawn of a text in runs of styles, before it is broken into lines. -/
def drawn (t : Text) (runs : List StyledRange) (o : Overlay) : List (Option StyledText) :=
  (runPieces t runs o).flatMap (fun p => ofPiece o p.1 p.2) ++
    if o.cursor = some t.bytes then [some caret] else []

theorem lines_eq (t : Text) (runs : List StyledRange) (o : Overlay) :
    lines t runs o = breakLines (drawn t runs o) := by
  simp only [lines, drawn, runPieces, List.flatMap_assoc, List.flatMap_map]

/-- Away from the cursor a text is drawn as it is. -/
theorem InOrder.drawn_of_ne {o : Overlay} {offset : Nat} {ps : List (Style × Nat × Text)}
    (h : InOrder o offset ps) (hne : ∀ p ∈ ps, o.cursor ≠ some p.2.1) (blank : Bool) :
    let xs := ps.flatMap fun p => ofPiece o p.1 p.2
    xs.flatMap (inkOrFeed blank) = pieceText ps ∧ (∀ s, some s ∈ xs → s.style.reversed = false) ∧
      xs.count none = (pieceText ps).count '\n' := by
  induction ps generalizing offset with
  | nil => exact ⟨rfl, by simp, rfl⟩
  | cons p ps ih =>
    obtain ⟨style, start, piece⟩ := p
    obtain ⟨-, hstyle, hwhole, hrest⟩ := h
    obtain ⟨hstart, hne⟩ := List.forall_mem_cons.mp hne
    obtain ⟨htext, hplain, hfeeds⟩ := ih hrest hne
    dsimp only at hstart ⊢
    rw [List.flatMap_cons, List.flatMap_append, pieceText_cons, htext, List.count_append, hfeeds,
      List.count_append]
    simp only [List.mem_append, or_imp, forall_and]
    by_cases hfeed : piece = ['\n']
    · have hdrawn : ofPiece o style (start, piece) = [none] := by
        rw [ofPiece, if_pos hfeed, if_neg hstart, List.nil_append]
      rw [hdrawn, hfeed]
      exact ⟨rfl, ⟨by simp, hplain⟩, rfl⟩
    · have hstyle' : (o.apply start style).reversed = false := by
        rw [Overlay.apply, if_neg hstart]
        split <;> exact hstyle
      have hdrawn : ofPiece o style (start, piece) = [some ⟨piece, o.apply start style⟩] := by
        rw [ofPiece, if_neg hfeed]
      have hcount : piece.count '\n' = 0 :=
        List.count_eq_zero.mpr fun hmem => hfeed (hwhole.feed hmem)
      rw [hdrawn, hcount]
      refine ⟨by simp [inkOrFeed, ink, hstyle'], ⟨?_, hplain⟩, rfl⟩
      rintro s hs
      cases List.mem_singleton.mp hs
      exact hstyle'

/-- What is drawn writes a text, the blank of the cursor aside.  One part is reversed and shows the
cursor behind a first part of the text. -/
def DrawsCursor (t u : Text) (xs : List (Option StyledText)) : Prop :=
  xs.flatMap (inkOrFeed (t.endsLine (Text.bytes u))) = t ∧
    ∃ before s after, xs = before ++ some s :: after ∧ s.style.reversed = true ∧
      s.text = t.cell (Text.bytes u) ∧ before.count none = u.count '\n' ∧
      ∀ r, some r ∈ before ++ after → r.style.reversed = false

/-- Behind all pieces the cursor is a blank. -/
theorem InOrder.drawsCursor_end {o : Overlay} {t : Text} {ps : List (Style × Nat × Text)}
    (h : InOrder o 0 ps) (htext : pieceText ps = t) (hcursor : o.cursor = some t.bytes) :
    DrawsCursor t t (ps.flatMap (fun p => ofPiece o p.1 p.2) ++ [some caret]) := by
  have haway : ∀ p ∈ ps, o.cursor ≠ some p.2.1 := by
    intro p hp heq
    have hbound := (h.bounds p hp).2
    rw [htext, ← Option.some_inj.mp (hcursor.symm.trans heq), Nat.zero_add] at hbound
    exact Nat.lt_irrefl _ hbound
  obtain ⟨hink, hplain, hfeeds⟩ := h.drawn_of_ne haway true
  refine ⟨?_, _, caret, [], rfl, rfl, ?_, htext ▸ hfeeds, by rwa [List.append_nil]⟩
  · rw [Text.endsLine_bytes, List.flatMap_append, hink, htext]
    exact List.append_nil t
  · rw [Text.cell, Text.endsLine_bytes]
    rfl

/-- The piece at the cursor is one reversed part, with the end of its line if it is a line feed. -/
theorem exists_ofPiece_cursor {o : Overlay} {n : Nat} (hcursor : o.cursor = some n) (style : Style)
    (c : Char) : ∃ s feeds, ofPiece o style (n, [c]) = some s :: feeds ∧ s.style.reversed = true ∧
      s.text = (if c = '\n' then [' '] else [c]) ∧ (∀ r, some r ∉ feeds) ∧
      (some s :: feeds).flatMap (inkOrFeed (decide (c = '\n'))) = [c] := by
  by_cases hfeed : c = '\n'
  · refine ⟨caret, [none], ?_, rfl, by rw [if_pos hfeed]; rfl, by simp, by rw [hfeed]; rfl⟩
    rw [ofPiece, if_pos (by rw [hfeed]), if_pos hcursor]
    rfl
  · refine ⟨⟨[c], o.apply n style⟩, [], ?_, ?_, by rw [if_neg hfeed], by simp, ?_⟩
    · rw [ofPiece, if_neg (by simpa using hfeed)]
    · rw [Overlay.apply, if_pos hcursor]
    · simp [inkOrFeed, ink, hfeed]

/-- Between pieces the cursor is at the character of one of them. -/
theorem InOrder.drawsCursor_char {o : Overlay} {u v : Text} {c : Char}
    {ps : List (Style × Nat × Text)} (h : InOrder o 0 ps) (htext : pieceText ps = u ++ c :: v)
    (hcursor : o.cursor = some (Text.bytes u)) :
    DrawsCursor (u ++ c :: v) u (ps.flatMap fun p => ofPiece o p.1 p.2) := by
  obtain ⟨style, qs, rs, rfl, hqs⟩ := h.exists_split htext (hcursor.trans (by rw [Nat.zero_add]))
  have hrs : pieceText rs = v := by simpa [hqs] using htext
  rw [Nat.zero_add] at h ⊢
  obtain ⟨hbefore, -, -, -, hbehind⟩ := inOrder_append.mp h
  have haway : ∀ p ∈ qs, o.cursor ≠ some p.2.1 := by
    intro p hp heq
    have hbound := (hbefore.bounds p hp).2
    rw [hqs, ← Option.some_inj.mp (hcursor.symm.trans heq), Nat.zero_add] at hbound
    exact Nat.lt_irrefl _ hbound
  have haway' : ∀ p ∈ rs, o.cursor ≠ some p.2.1 := by
    intro p hp heq
    have hbound := (hbehind.bounds p hp).1
    have hc := c.utf8Size_pos
    rw [hqs, ← Option.some_inj.mp (hcursor.symm.trans heq), Text.bytes_cons] at hbound
    omega
  obtain ⟨hink, hplain, hfeeds⟩ := hbefore.drawn_of_ne haway (decide (c = '\n'))
  obtain ⟨hink', hplain', -⟩ := hbehind.drawn_of_ne haway' (decide (c = '\n'))
  obtain ⟨s, feeds, hpiece, hs, hcell, hnone, hwritten⟩ := exists_ofPiece_cursor hcursor style c
  rw [DrawsCursor, List.flatMap_append, List.flatMap_cons, hpiece, Text.endsLine_append_cons,
    Text.cell_append_cons]
  refine ⟨?_, _, s, _, rfl, hs, hcell, hqs ▸ hfeeds, fun r hr => ?_⟩
  · rw [List.flatMap_append, List.flatMap_append, hink, hwritten, hink', hqs, hrs]
    rfl
  · rcases List.mem_append.mp hr with hr | hr
    · exact hplain r hr
    · exact hplain' r ((List.mem_append.mp hr).resolve_left (hnone r))

/-- With the cursor at a boundary of a text, one part of what is drawn is reversed. -/
theorem drawsCursor_drawn {runs : List StyledRange} {o : Overlay} {u v : Text}
    (hruns : (u ++ v).Tiles 0 (runs.map fun r => (r.start, r.stop)))
    (hstyles : ∀ r ∈ runs, r.style.reversed = false) (hcursor : o.cursor = some (Text.bytes u)) :
    DrawsCursor (u ++ v) u (drawn (u ++ v) runs o) := by
  obtain ⟨horder, htext⟩ :=
    inOrder_runPieces (u := []) hruns (List.nil_append (u ++ v)).symm hstyles o
  cases v with
  | nil =>
    rw [List.append_nil] at htext horder ⊢
    rw [drawn, if_pos hcursor]
    exact horder.drawsCursor_end htext hcursor
  | cons c v =>
    have hend : o.cursor ≠ some (u ++ c :: v).bytes := by
      have hc := c.utf8Size_pos
      rw [hcursor, Text.bytes_append, Text.bytes_cons, Ne, Option.some_inj]
      omega
    rw [drawn, if_neg hend, List.append_nil]
    exact horder.drawsCursor_char htext hcursor

/-! ## Lines -/

theorem breakLines_ne_nil (xs : List (Option StyledText)) : breakLines xs ≠ [] := by
  cases xs with
  | nil => exact List.cons_ne_nil _ _
  | cons x xs =>
    cases x with
    | none => exact List.cons_ne_nil _ _
    | some s => rw [breakLines]; split <;> exact List.cons_ne_nil _ _

/-- A part comes to the first line. -/
theorem breakLines_some (s : StyledText) (xs : List (Option StyledText)) :
    ∃ line more, breakLines xs = line :: more ∧ breakLines (some s :: xs) = (s :: line) :: more := by
  obtain ⟨line, more, hlines⟩ := List.exists_cons_of_ne_nil (breakLines_ne_nil xs)
  exact ⟨line, more, hlines, by rw [breakLines, hlines]⟩

/-- Lines put together are what they were made of. -/
theorem ofLines_breakLines (blank : Bool) (xs : List (Option StyledText)) :
    Text.ofLines ((breakLines xs).map (List.flatMap (ink blank))) =
      xs.flatMap (inkOrFeed blank) := by
  induction xs with
  | nil => rfl
  | cons x xs ih =>
    rw [List.flatMap_cons, ← ih]
    cases x with
    | none =>
      have hne : (breakLines xs).map (List.flatMap (ink blank)) ≠ [] := by
        simpa using breakLines_ne_nil xs
      rw [breakLines, List.map_cons, Text.ofLines_cons _ hne]
      rfl
    | some s =>
      obtain ⟨line, more, hlines, hsome⟩ := breakLines_some s xs
      rw [hlines, hsome]
      cases more <;> simp [Text.ofLines, inkOrFeed]

theorem plain_breakLines {xs : List (Option StyledText)}
    (h : ∀ s, some s ∈ xs → s.style.reversed = false) : ∀ line ∈ breakLines xs, Plain line := by
  induction xs with
  | nil => simp [breakLines, Plain]
  | cons x xs ih =>
    have hrest := ih fun s hs => h s (List.mem_cons_of_mem _ hs)
    cases x with
    | none => exact List.forall_mem_cons.mpr ⟨List.forall_mem_nil _, hrest⟩
    | some s =>
      obtain ⟨line, more, hlines, hsome⟩ := breakLines_some s xs
      rw [hlines, List.forall_mem_cons] at hrest
      rw [hsome, List.forall_mem_cons]
      exact ⟨List.forall_mem_cons.mpr ⟨h s List.mem_cons_self, hrest.1⟩, hrest.2⟩

/-- Of all the parts of lines just one is reversed.  It is on the line with an index and shows a
text. -/
def CursorOn (lines : List (List StyledText)) (index : Nat) (t : Text) : Prop :=
  ∃ above line below, lines = above ++ line :: below ∧ above.length = index ∧
    (∀ l ∈ above ++ below, Plain l) ∧
    ∃ front s back, line = front ++ s :: back ∧ s.style.reversed = true ∧ s.text = t ∧
      Plain (front ++ back)

namespace CursorOn

variable {first : List StyledText} {lines rest : List (List StyledText)} {index : Nat} {t : Text}

/-- Other lines around the lines with the cursor. -/
theorem around (h : CursorOn lines index t) {above below : List (List StyledText)}
    (habove : ∀ l ∈ above, Plain l) (hbelow : ∀ l ∈ below, Plain l) :
    CursorOn (above ++ lines ++ below) (above.length + index) t := by
  obtain ⟨front, line, back, rfl, rfl, hplain, hline⟩ := h
  refine ⟨above ++ front, line, back ++ below, by simp, by simp, ?_, hline⟩
  simp only [List.mem_append] at hplain ⊢
  rintro l ((hl | hl) | hl | hl)
  · exact habove l hl
  · exact hplain l (.inl hl)
  · exact hplain l (.inr hl)
  · exact hbelow l hl

/-- Something else in front of the lines with the cursor. -/
theorem framed (h : CursorOn (first :: rest) index t) {front : List StyledText}
    (hfront : Plain front) {front' : List StyledText} (hfront' : Plain front') :
    CursorOn ((front ++ first) :: rest.map (front' ++ ·)) index t := by
  have hwith : ∀ {xs ys : List StyledText}, Plain xs → Plain ys → Plain (xs ++ ys) :=
    fun hxs hys => List.forall_mem_append.mpr ⟨hxs, hys⟩
  obtain ⟨above, line, below, hlines, rfl, hplain, fs, s, bs, rfl, hs, ht, hparts⟩ := h
  rw [List.forall_mem_append] at hplain
  have hbelow : ∀ l ∈ below.map (front' ++ ·), Plain l :=
    List.forall_mem_map.mpr fun l hl => hwith hfront' (hplain.2 l hl)
  cases above with
  | nil =>
    cases hlines
    refine ⟨[], _, _, rfl, rfl, hbelow, front ++ fs, s, bs, by simp, hs, ht, ?_⟩
    rw [List.append_assoc]
    exact hwith hfront hparts
  | cons l above =>
    cases hlines
    rw [List.forall_mem_cons] at hplain
    refine ⟨(front ++ first) :: above.map (front' ++ ·), front' ++ (fs ++ s :: bs),
      below.map (front' ++ ·), by simp, by simp, ?_, front' ++ fs, s, bs, by simp, hs, ht, ?_⟩
    · refine List.forall_mem_append.mpr ⟨List.forall_mem_cons.mpr ⟨hwith hfront hplain.1.1, ?_⟩,
        hbelow⟩
      exact List.forall_mem_map.mpr fun l hl => hwith hfront' (hplain.1.2 l hl)
    · rw [List.append_assoc]
      exact hwith hfront' hparts

end CursorOn

theorem cursorOn_breakLines {before after : List (Option StyledText)} {s : StyledText}
    (hs : s.style.reversed = true)
    (hplain : ∀ r, some r ∈ before ++ after → r.style.reversed = false) :
    CursorOn (breakLines (before ++ some s :: after)) (before.count none) s.text := by
  induction before with
  | nil =>
    obtain ⟨line, more, hlines, hsome⟩ := breakLines_some s after
    have hrest := plain_breakLines hplain
    rw [List.nil_append, hlines, List.forall_mem_cons] at hrest
    exact ⟨[], s :: line, more, hsome, rfl, hrest.2, [], s, line, rfl, hs, rfl, hrest.1⟩
  | cons x before ih =>
    have hcursor := ih fun r hr => hplain r (List.mem_cons_of_mem _ hr)
    have hempty : Plain [] := List.forall_mem_nil _
    cases x with
    | none =>
      have hbelow := hcursor.around (List.forall_mem_singleton.mpr hempty) (List.forall_mem_nil _)
      rwa [List.append_nil, List.length_singleton, Nat.add_comm, ← List.count_cons_self] at hbelow
    | some r =>
      obtain ⟨line, more, hlines, hsome⟩ := breakLines_some r (before ++ some s :: after)
      rw [hlines] at hcursor
      have hr : Plain [r] := by
        simpa [Plain] using hplain r List.mem_cons_self
      rw [List.cons_append, hsome, List.count_cons_of_ne (by simp)]
      simpa using hcursor.framed hr hempty

/-- The cursor is on one line of a text, with as many lines above it as there are line feeds before
it. -/
theorem cursorOn_lines {t : Text} {runs : List StyledRange}
    (hruns : t.Tiles 0 (runs.map fun r => (r.start, r.stop)))
    (hstyles : ∀ r ∈ runs, r.style.reversed = false) {o : Overlay} {n : Nat}
    (hn : t.isBoundary n = true) (hcursor : o.cursor = some n) :
    CursorOn (lines t runs o) (((t.take? n).getD []).count '\n') (t.cell n) := by
  obtain ⟨u, v, rfl, rfl⟩ := Text.isBoundary_iff.mp hn
  obtain ⟨-, before, s, after, hdrawn, hs, htext, hfeeds, hplain⟩ :=
    drawsCursor_drawn hruns hstyles hcursor
  rw [Text.take?, Text.splitAt?_append, lines_eq, hdrawn, ← htext]
  exact hfeeds ▸ cursorOn_breakLines hs hplain

/-- Without a cursor nothing is reversed. -/
theorem drawn_of_none {t : Text} {runs : List StyledRange}
    (hruns : t.Tiles 0 (runs.map fun r => (r.start, r.stop)))
    (hstyles : ∀ r ∈ runs, r.style.reversed = false) {o : Overlay} (hcursor : o.cursor = none) :
    (drawn t runs o).flatMap (inkOrFeed (o.hasBlank t)) = t ∧
      ∀ s, some s ∈ drawn t runs o → s.style.reversed = false := by
  obtain ⟨horder, htext⟩ := inOrder_runPieces (u := []) hruns (List.nil_append t).symm hstyles o
  have haway : ∀ p ∈ runPieces t runs o, o.cursor ≠ some p.2.1 := by simp [hcursor]
  obtain ⟨hink, hplain, -⟩ := horder.drawn_of_ne haway (o.hasBlank t)
  rw [drawn, hcursor, if_neg nofun, List.append_nil]
  exact ⟨hink.trans htext, hplain⟩

/-- A text is its lines with line feeds between them, the blank of the cursor aside. -/
theorem ofLines_lines {t : Text} {runs : List StyledRange}
    (hruns : t.Tiles 0 (runs.map fun r => (r.start, r.stop)))
    (hstyles : ∀ r ∈ runs, r.style.reversed = false) {o : Overlay}
    (hcursor : ∀ n, o.cursor = some n → t.isBoundary n = true) :
    Text.ofLines ((lines t runs o).map (List.flatMap (ink (o.hasBlank t)))) = t := by
  rw [lines_eq, ofLines_breakLines]
  cases ho : o.cursor with
  | none => exact (drawn_of_none hruns hstyles ho).1
  | some n =>
    obtain ⟨u, v, rfl, rfl⟩ := Text.isBoundary_iff.mp (hcursor n ho)
    rw [Overlay.hasBlank, ho, Option.any_some]
    exact (drawsCursor_drawn hruns hstyles ho).1

end StyledText

end BlockNotes
