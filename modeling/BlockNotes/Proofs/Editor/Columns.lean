import BlockNotes.Proofs.Editor.Places
import BlockNotes.Proofs.Text.Lines

/-!
# Lines and columns

The lines of a document are those of the texts where a cursor can stand, one text after
another (`Document.lines`).  A place is at a column of a line, and the columns of the
lines, line after line, are the places of the document (`Document.places_eq_columns`).

The motions by line go from line to line at the same column, or to the end of a line
that is shorter.  A line in the middle of the list is a cut in the middle of a text
(`Document.exists_columnCut`), with the lines of the texts on both sides of the cut.
These are what the motions search for (`Motion.land_up`, `Motion.land_down`).
-/

namespace BlockNotes

/-! ## Lines -/

/-- A line in the text of a block. -/
structure Line where
  /-- The block. -/
  block : BlockId
  /-- The offset where the line starts. -/
  start : Nat
  /-- The characters of the line, without the line feed. -/
  text : Text
deriving DecidableEq, Repr

namespace Line

variable {l : Line} {block : BlockId} {start c : Nat} {t : Text} {ts us vs : List Text}
  {above below : List Line}

/-- The lines that start at an offset, one behind another. -/
def ofTexts (block : BlockId) : (start : Nat) → List Text → List Line
  | _, [] => []
  | start, t :: ts => ⟨block, start, t⟩ :: ofTexts block (start + t.bytes + 1) ts

/-- The lines of a block. -/
def ofText (x : BlockId × Text) : List Line :=
  ofTexts x.1 0 x.2.lines

/-- The place at a column, which is counted in characters. -/
def atColumn (l : Line) (column : Nat) : BlockPoint :=
  ⟨l.block, l.start + Text.bytes (l.text.take column)⟩

/-- The places at the columns of a line. -/
def columns (l : Line) : List BlockPoint :=
  (List.range (l.text.length + 1)).map l.atColumn

theorem mem_columns {p : BlockPoint} : p ∈ l.columns ↔ ∃ c ≤ l.text.length, l.atColumn c = p := by
  simp only [columns, List.mem_map, List.mem_range, Nat.lt_succ_iff]

/-- A column behind the end of a line is its end. -/
theorem atColumn_min (l : Line) (c : Nat) : l.atColumn (min c l.text.length) = l.atColumn c := by
  rw [atColumn, ← List.take_eq_take_min, ← atColumn]

theorem ofTexts_append (block : BlockId) (start : Nat) (us vs : List Text) :
    ofTexts block start (us ++ vs) = ofTexts block start us ++
      ofTexts block (start + Text.lineBytes us) vs := by
  induction us generalizing start with
  | nil => rfl
  | cons u us ih => simp [ofTexts, ih, Nat.add_assoc]

/-- A line among the lines of a block. -/
theorem ofTexts_eq_append_cons (h : ofTexts block start ts = above ++ l :: below) :
    ∃ us vs, ts = us ++ l.text :: vs ∧ l.block = block ∧
      l.start = start + Text.lineBytes us ∧ above = ofTexts block start us ∧
      below = ofTexts block (l.start + l.text.bytes + 1) vs := by
  induction ts generalizing start above with
  | nil => simp [ofTexts] at h
  | cons t ts ih =>
    cases above with
    | nil =>
      obtain ⟨rfl, rfl⟩ := List.cons.inj h
      exact ⟨[], ts, rfl, rfl, rfl, rfl, rfl⟩
    | cons x above =>
      rw [ofTexts, List.cons_append, List.cons.injEq] at h
      obtain ⟨rfl, h⟩ := h
      obtain ⟨us, vs, rfl, hblock, hstart, rfl, rfl⟩ := ih h
      refine ⟨t :: us, vs, rfl, hblock, ?_, rfl, rfl⟩
      rw [hstart, Text.lineBytes_cons]
      omega

theorem getLast?_ofTexts_concat (block : BlockId) (us : List Text) (u : Text) :
    (ofTexts block 0 (us ++ [u])).getLast? =
      some ⟨block, Text.lineBytes us, u⟩ := by
  rw [ofTexts_append, ofTexts, ofTexts, List.getLast?_concat, Nat.zero_add]

end Line

/-! ## The boundaries of a text in its lines -/

namespace Text

theorem boundaries_eq_map (t : Text) :
    t.boundaries = (List.range (t.length + 1)).map fun c => bytes (t.take c) := by
  induction t with
  | nil => rfl
  | cons c t ih =>
    rw [boundaries_cons, ih, List.length_cons, List.range_succ_eq_map (n := t.length + 1)]
    simp [Function.comp_def]

theorem boundaries_newline (p t : Text) :
    boundaries (p ++ '\n' :: t) = p.boundaries ++ (boundaries t).map (p.bytes + 1 + ·) := by
  have hnewline : Char.utf8Size '\n' = 1 := by decide
  simp [boundaries, starts_append, starts, hnewline, Function.comp_def, Nat.add_assoc]

/-- The boundaries of lines that are put together, line after line. -/
theorem boundaries_ofLines {ts : List Text} (hts : ts ≠ []) (block : BlockId) (start : Nat) :
    (ofLines ts).boundaries.map (fun n => (⟨block, start + n⟩ : BlockPoint)) =
      (Line.ofTexts block start ts).flatMap Line.columns := by
  induction ts generalizing start with
  | nil => exact absurd rfl hts
  | cons t ts ih =>
    have hline : t.boundaries.map (fun n => (⟨block, start + n⟩ : BlockPoint)) =
        (Line.mk block start t).columns := by
      rw [boundaries_eq_map, List.map_map]
      rfl
    rw [Line.ofTexts, List.flatMap_cons, ← hline]
    by_cases hrest : ts = []
    · simp [hrest, ofLines, Line.ofTexts]
    · rw [ofLines_cons t hrest, boundaries_newline, ← ih hrest]
      simp [Function.comp_def, Nat.add_assoc]

end Text

/-! ## The lines of a document -/

namespace Document

variable {d : Document} {l : Line} {above below : List Line}

/-- The lines where a cursor can stand, in order. -/
def lines (d : Document) : List Line :=
  d.texts.flatMap Line.ofText

/-- The places of a document are the columns of its lines. -/
theorem places_eq_columns (d : Document) : d.places = d.lines.flatMap Line.columns := by
  rw [places, lines, List.flatMap_assoc]
  refine congrArg (List.flatMap · d.texts) (funext fun x => ?_)
  rw [Line.ofText, ← Text.boundaries_ofLines (Text.lines_ne_nil x.2), Text.ofLines_lines, placesOf]
  simp

/-- A text cut at a column of a line, with the lines on both sides. -/
structure ColumnCut (d : Document) (above : List Line) (l : Line) (below : List Line) (c : Nat)
    (front : List (BlockId × Text)) (before after : Text) (back : List (BlockId × Text))
    (us vs : List Text) : Prop where
  texts : d.texts = front ++ (l.block, before ++ after) :: back
  place : ⟨l.block, before.bytes⟩ = l.atColumn c
  start : l.start = Text.lineBytes us
  before_lines : before.lines = us ++ [l.text.take c]
  after_lines : after.lines = l.text.drop c :: vs
  above : above = front.flatMap Line.ofText ++ Line.ofTexts l.block 0 us
  below : below = Line.ofTexts l.block (l.start + l.text.bytes + 1) vs ++ back.flatMap Line.ofText

/-- A line among those of some texts is one of the lines of a text. -/
theorem exists_ofText_of_flatMap {xs : List (BlockId × Text)}
    (h : xs.flatMap Line.ofText = above ++ l :: below) : ∃ front x back above' below',
      xs = front ++ x :: back ∧ Line.ofText x = above' ++ l :: below' ∧
      above = front.flatMap Line.ofText ++ above' ∧ below = below' ++ back.flatMap Line.ofText := by
  induction xs generalizing above with
  | nil => simp at h
  | cons x xs ih =>
    rw [List.flatMap_cons, List.append_eq_append_iff] at h
    rcases h with ⟨above', rfl, hrest⟩ | ⟨rest, hx, hrest⟩
    · obtain ⟨front, y, back, above'', below', rfl, hy, rfl, rfl⟩ := ih hrest
      exact ⟨x :: front, y, back, above'', below', rfl, hy, by simp, rfl⟩
    · cases rest with
      | nil =>
        have hxs : xs.flatMap Line.ofText = [] ++ l :: below := hrest.symm
        obtain ⟨front, y, back, above', below', rfl, hy, habove, rfl⟩ := ih hxs
        refine ⟨x :: front, y, back, above', below', rfl, hy, ?_, rfl⟩
        rw [List.flatMap_cons, List.append_assoc, ← habove, hx, List.append_nil, List.append_nil]
      | cons line rest =>
        obtain ⟨rfl, rfl⟩ := List.cons.inj hrest
        exact ⟨[], x, xs, above, rest, rfl, hx, rfl, rfl⟩

theorem exists_columnCut (h : d.lines = above ++ l :: below) (c : Nat) :
    ∃ front before after back us vs, d.ColumnCut above l below c front before after back us vs := by
  obtain ⟨front, ⟨id, t⟩, back, above', below', htexts, hlines, rfl, rfl⟩ :=
    exists_ofText_of_flatMap h
  obtain ⟨us, vs, ht, rfl, hstart, rfl, rfl⟩ := Line.ofTexts_eq_append_cons hlines
  have hpart : ∀ p ∈ us ++ l.text :: vs, '\n' ∉ p := fun p hp =>
    Text.newline_not_mem_lines (ht ▸ hp)
  simp only [List.forall_mem_append, List.forall_mem_cons] at hpart
  obtain ⟨hus, hl, hvs⟩ := hpart
  refine ⟨front, Text.ofLines (us ++ [l.text.take c]), Text.ofLines (l.text.drop c :: vs), back, us, vs,
    ?_, ?_, by rw [hstart, Nat.zero_add], Text.lines_ofLines ?_ (by simp),
    Text.lines_ofLines ?_ (by simp), rfl, rfl⟩
  · rw [htexts, Text.ofLines_append, List.take_append_drop, ← ht, Text.ofLines_lines]
  · rw [Text.bytes_ofLines_concat, Line.atColumn, hstart, Nat.zero_add]
  · simpa [List.forall_mem_append, or_imp, forall_and] using
      ⟨hus, fun hin => hl (List.mem_of_mem_take hin)⟩
  · simpa using ⟨fun hin => hl (List.mem_of_mem_drop hin), hvs⟩

end Document

/-! ## Going from line to line -/

namespace Motion

open Document (ColumnCut)

variable {d : Document} {l : Line} {above below : List Line} {c : Nat} {us vs : List Text}
  {before after t : Text} {front back : List (BlockId × Text)}

theorem inLastLine_of_lines {u : Text} (h : t.lines = us ++ [u]) (c : Nat) :
    inLastLine t c = Text.lineBytes us + Text.bytes (u.take c) := by
  have hbytes := Text.bytes_ofLines_concat us u
  rw [← h, Text.ofLines_lines] at hbytes
  rw [inLastLine, Text.lastLine_of_lines h, columnOffset, hbytes, Nat.add_sub_cancel]

/-- In the lines before a cut, up leads to the last one. -/
theorem land_up (h : d.ColumnCut above l below c front before after back us vs)
    (hc : c ≤ l.text.length) : land ⟨l.block, before, after, front.getLast?, back.head?⟩ .up =
      (above.getLast?.map (·.atColumn c)).getD (l.atColumn 0) := by
  have hcolumn : before.lastLine.length = c := by
    rw [Text.lastLine_of_lines h.before_lines, List.length_take_of_le hc]
  have hcut := Text.cutLast?_newline h.before_lines
  rw [h.above]
  rcases List.eq_nil_or_concat us with rfl | ⟨us, u, rfl⟩
  · rw [if_pos rfl] at hcut
    rcases List.eq_nil_or_concat front with rfl | ⟨front, x, rfl⟩
    · simp [land, hcut, Line.ofTexts, Line.atColumn, h.start]
    · obtain ⟨id, t⟩ := x
      obtain ⟨-, ts, -, -, hlines⟩ := Text.exists_append_lastLine_lines t
      simp [land, hcut, hcolumn, Line.ofText, Line.ofTexts, Line.atColumn, hlines,
        Line.getLast?_ofTexts_concat, inLastLine_of_lines hlines]
  · rw [if_neg (by simp)] at hcut
    have hlines : (Text.ofLines (us ++ [u])).lines = us ++ [u] := by
      refine Text.lines_ofLines_of_subset (t := before) ?_ (by simp)
      rw [h.before_lines, List.concat_eq_append]
      exact List.subset_append_left _ _
    simp [land, hcut, hcolumn, Line.atColumn, inLastLine_of_lines hlines,
      Line.getLast?_ofTexts_concat]

/-- In the lines behind a cut, down leads to the first one. -/
theorem land_down (h : d.ColumnCut above l below c front before after back us vs)
    (hc : c ≤ l.text.length) : land ⟨l.block, before, after, front.getLast?, back.head?⟩ .down =
      (below.head?.map (·.atColumn c)).getD (l.atColumn l.text.length) := by
  have hcolumn : before.lastLine.length = c := by
    rw [Text.lastLine_of_lines h.before_lines, List.length_take_of_le hc]
  have hcut := Text.cutFirst?_newline h.after_lines
  have hend : before.bytes + Text.bytes (l.text.drop c) = l.start + l.text.bytes := by
    have hplace := congrArg BlockPoint.offset h.place
    have hbytes := congrArg Text.bytes (List.take_append_drop c l.text)
    rw [Text.bytes_append] at hbytes
    simp only [Line.atColumn] at hplace
    omega
  rw [h.below]
  cases vs with
  | nil =>
    rw [if_pos rfl] at hcut
    have hafter : after = l.text.drop c := by
      rw [← Text.ofLines_lines after, h.after_lines]
      rfl
    cases back with
    | nil => simp [land, hcut, Line.ofTexts, Line.atColumn, ← hend, ← hafter]
    | cons x back =>
      obtain ⟨id, t⟩ := x
      obtain ⟨v, vs, hlines⟩ := Text.exists_lines_eq_cons t
      simp [land, hcut, hcolumn, columnOffset, Line.ofText, Line.ofTexts, Line.atColumn, hlines,
        Text.firstLine_of_lines hlines]
  | cons v vs =>
    rw [if_neg (by simp)] at hcut
    have hlines : (Text.ofLines (v :: vs)).lines = v :: vs := by
      refine Text.lines_ofLines_of_subset (t := after) ?_ (by simp)
      rw [h.after_lines]
      exact List.subset_cons_self _ _
    simp [land, hcut, hcolumn, hend, columnOffset, Line.ofTexts, Line.atColumn,
      Text.firstLine_of_lines hlines]

/-- From a line up leads to the line before and down to the line behind, at the same column. -/
theorem lands_up_down (hd : d.ids.Nodup) (h : d.lines = above ++ l :: below)
    (hc : c ≤ l.text.length) :
    Lands d (l.atColumn c) .up ((above.getLast?.map (·.atColumn c)).getD (l.atColumn 0)) ∧
      Lands d (l.atColumn c) .down
        ((below.head?.map (·.atColumn c)).getD (l.atColumn l.text.length)) := by
  obtain ⟨front, before, after, back, us, vs, hcut⟩ := Document.exists_columnCut h c
  rw [← hcut.place]
  exact ⟨lands_of_texts hd hcut.texts (land_up hcut hc),
    lands_of_texts hd hcut.texts (land_down hcut hc)⟩

/-- The places where a cursor can stand are the columns of the lines, line after line.  From a column
of a line up leads to the line before it and down to the line behind it, at the same column or at the
end of a line that is shorter.  From the first line up leads to its start, and from the last line down
leads to its end.  Each of these is a place where a cursor can stand. -/
theorem lands_line_by_line (hd : d.ids.Nodup) :
    d.places = d.lines.flatMap Line.columns ∧
      ∀ {k : Nat} {l : Line} {c : Nat}, d.lines[k]? = some l → c ≤ l.text.length →
        (∃ q ∈ d.places, Lands d (l.atColumn c) .up q ∧
          if k = 0 then q = l.atColumn 0
          else ∃ l', d.lines[k - 1]? = some l' ∧ q = l'.atColumn (min c l'.text.length)) ∧
        ∃ q ∈ d.places, Lands d (l.atColumn c) .down q ∧
          if k + 1 = d.lines.length then q = l.atColumn l.text.length
          else ∃ l', d.lines[k + 1]? = some l' ∧ q = l'.atColumn (min c l'.text.length) := by
  have hplaces := d.places_eq_columns
  have hmem : ∀ {k : Nat} {l : Line} {c : Nat}, d.lines[k]? = some l → c ≤ l.text.length →
      l.atColumn c ∈ d.places := by
    intro k l c hl hc
    rw [hplaces]
    exact List.mem_flatMap.mpr ⟨l, List.mem_of_getElem? hl, Line.mem_columns.mpr ⟨c, hc, rfl⟩⟩
  refine ⟨hplaces, ?_⟩
  intro k l c hk hc
  obtain ⟨hlt, hget⟩ := List.getElem?_eq_some_iff.mp hk
  have hsplit : d.lines = d.lines.take k ++ l :: d.lines.drop (k + 1) := by
    rw [← hget, List.getElem_cons_drop, List.take_append_drop]
  obtain ⟨hup, hdown⟩ := lands_up_down hd hsplit hc
  constructor
  · cases k with
    | zero => exact ⟨_, hmem hk (Nat.zero_le _), by simpa using hup, by simp⟩
    | succ k =>
      have hl' : d.lines[k]? = some d.lines[k] := List.getElem?_eq_getElem (Nat.lt_of_succ_lt hlt)
      refine ⟨_, hmem hl' (Nat.min_le_right c _), ?_, by simp [hl']⟩
      rw [Line.atColumn_min]
      simpa [List.getLast?_take, hl'] using hup
  · by_cases hend : k + 1 = d.lines.length
    · refine ⟨_, hmem hk (Nat.le_refl _), ?_, by simp [hend]⟩
      simpa [hend] using hdown
    · have hl' : d.lines[k + 1]? = some d.lines[k + 1] := List.getElem?_eq_getElem (by omega)
      refine ⟨_, hmem hl' (Nat.min_le_right c _), ?_, by simp [hl', hend]⟩
      rw [Line.atColumn_min]
      simpa [List.head?_drop, hl'] using hdown

/-- From the second column of a code block's first line up leads to the paragraph before it, over an
image, and behind a character of two bytes.  From the end of its second line down leads to the empty
line behind the last line feed. -/
theorem lands_line_by_line_code :
    let d := Document.ofBlocks [.ofText .paragraph ['é', 'b'], .ofText (.image "a.png") ['x'],
      .ofText (.code "text") ['x', '\n', 'ñ', 'o', '\n']]
    d.lines = [⟨1, 0, ['é', 'b']⟩, ⟨3, 0, ['x']⟩, ⟨3, 2, ['ñ', 'o']⟩, ⟨3, 6, []⟩] ∧
      Lands d ⟨3, 1⟩ .up ⟨1, 2⟩ ∧ Lands d ⟨3, 5⟩ .down ⟨3, 6⟩ ∧ Lands d ⟨1, 2⟩ .up ⟨1, 0⟩ := by
  intro d
  have hlines : d.lines = [⟨1, 0, ['é', 'b']⟩, ⟨3, 0, ['x']⟩, ⟨3, 2, ['ñ', 'o']⟩, ⟨3, 6, []⟩] := by
    decide
  obtain ⟨-, hlands⟩ := lands_line_by_line (d := d) (by decide)
  rw [hlines] at hlands
  obtain ⟨⟨_, -, hup, l, hl, rfl⟩, -⟩ := hlands (k := 1) (c := 1) rfl (by decide)
  obtain ⟨-, _, -, hdown, l', hl', rfl⟩ := hlands (k := 2) (c := 2) rfl (by decide)
  obtain ⟨⟨_, -, htop, rfl⟩, -⟩ := hlands (k := 0) (c := 1) rfl (by decide)
  cases hl
  cases hl'
  exact ⟨hlines, hup, hdown, htop⟩

end Motion

end BlockNotes
