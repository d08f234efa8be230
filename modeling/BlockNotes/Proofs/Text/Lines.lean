import BlockNotes.Proofs.Text.Boundary

/-!
# Splitting a text

The parts of a text between the occurrences of a character, and its lines, which line feeds separate.

A text is its lines with line feeds between them (`Text.ofLines_lines`), and there is one more of
them than there are line feeds (`Text.length_lines`).  Where two texts are put together the last line
of the first one goes on in the first line of the second, on both sides: the lines of the whole
(`Text.lines_append`) and the whole of the lines (`Text.ofLines_append`).  So a change of some lines
of a text is read off its parts.
-/

namespace BlockNotes.Text

/-! ## Splitting at a character -/

section

variable {sep : Char} {a b : Text}

theorem split_ne_nil (sep : Char) (t : Text) : split sep t ≠ [] := by
  cases t with
  | nil => exact List.cons_ne_nil _ _
  | cons c t =>
    rw [split]
    split
    next => exact List.cons_ne_nil _ _
    next => split <;> exact List.cons_ne_nil _ _

theorem split_of_not_mem (h : sep ∉ a) : split sep a = [a] := by
  induction a with
  | nil => rfl
  | cons c a ih =>
    rw [List.mem_cons, not_or] at h
    rw [split, if_neg (Ne.symm h.1), ih h.2]

theorem cutFirst?_of_not_mem (h : sep ∉ a) : a.cutFirst? sep = none := by
  induction a with
  | nil => rfl
  | cons c a ih =>
    rw [List.mem_cons, not_or] at h
    rw [cutFirst?, if_neg (Ne.symm h.1), ih h.2]
    rfl

theorem split_append_cons (sep : Char) (a b : Text) :
    split sep (a ++ sep :: b) = split sep a ++ split sep b := by
  induction a with
  | nil =>
    rw [List.nil_append, split.eq_2, if_pos rfl]
    rfl
  | cons c a ih =>
    rw [List.cons_append, split, split]
    split
    next => rw [ih, List.cons_append]
    next =>
      rw [ih]
      cases hsplit : split sep a with
      | nil => exact absurd hsplit (split_ne_nil sep a)
      | cons part more => rfl

theorem not_mem_of_cutLast?_eq_none (h : a.cutLast? sep = none) : sep ∉ a := by
  induction a with
  | nil => exact List.not_mem_nil
  | cons c a ih =>
    rw [cutLast?] at h
    split at h
    next => cases h
    next hnone =>
      split at h
      next => cases h
      next hc =>
        rw [List.mem_cons, not_or]
        exact ⟨Ne.symm hc, ih hnone⟩

theorem not_mem_of_cutLast? {x : Text} (h : x.cutLast? sep = some (a, b)) : sep ∉ b := by
  induction x generalizing a with
  | nil => cases h
  | cons c x ih =>
    rw [cutLast?] at h
    split at h
    next hcut =>
      cases h
      exact ih hcut
    next hnone =>
      split at h
      next =>
        cases h
        exact not_mem_of_cutLast?_eq_none hnone
      next => cases h

end

/-! ## Lines -/

variable {s t p r : Text} {front back : List Text}

theorem lines_newline (t : Text) : lines ('\n' :: t) = [] :: t.lines :=
  split_append_cons '\n' [] t

theorem lines_cons_of_ne {c : Char} (hc : c ≠ '\n') (h : t.lines = r :: back) :
    lines (c :: t) = (c :: r) :: back := by
  rw [lines, split, if_neg hc, show split '\n' t = r :: back from h]

theorem lines_ne_nil (t : Text) : t.lines ≠ [] :=
  split_ne_nil '\n' t

theorem exists_lines_eq_cons (t : Text) : ∃ r back, t.lines = r :: back :=
  List.exists_cons_of_ne_nil (lines_ne_nil t)

/-- The last line stands behind what ends in a line feed, if anything stands before it. -/
theorem exists_append_lastLine_lines (t : Text) : ∃ head above, t = head ++ t.lastLine ∧
    head.lines = above ++ [[]] ∧ t.lines = above ++ [t.lastLine] := by
  unfold lastLine
  split
  next a line hcut =>
    have ht := append_of_cutLast? hcut
    refine ⟨a ++ ['\n'], a.lines, by simpa using ht, split_append_cons '\n' a [], ?_⟩
    rw [ht, lines, split_append_cons, split_of_not_mem (not_mem_of_cutLast? hcut)]
    rfl
  next hnone =>
    exact ⟨[], [], rfl, rfl, split_of_not_mem (not_mem_of_cutLast?_eq_none hnone)⟩

/-- The last line of one text goes on in the first line of the next one. -/
theorem lines_append (hs : s.lines = front ++ [p]) (ht : t.lines = r :: back) :
    (s ++ t).lines = front ++ (p ++ r) :: back := by
  induction s generalizing front p with
  | nil =>
    have hnil : ([] : List Text) ++ [[]] = front ++ [p] := hs
    obtain ⟨rfl, hp⟩ := List.append_inj' hnil rfl
    cases hp
    exact ht
  | cons c s ih =>
    obtain ⟨x, xs, hx⟩ := exists_lines_eq_cons s
    rw [List.cons_append]
    by_cases hc : c = '\n'
    · rw [hc, lines_newline] at hs ⊢
      cases front with
      | nil =>
        rw [hx] at hs
        cases hs
      | cons y front =>
        obtain ⟨rfl, hs'⟩ := List.cons.inj hs
        rw [ih hs', List.cons_append]
    · rw [lines_cons_of_ne hc hx] at hs
      cases front with
      | nil =>
        obtain ⟨rfl, rfl⟩ := List.cons.inj hs
        exact lines_cons_of_ne hc (ih (show lines s = [] ++ [x] from hx))
      | cons y front =>
        obtain ⟨rfl, rfl⟩ := List.cons.inj hs
        exact lines_cons_of_ne hc (ih (show lines s = (x :: front) ++ [p] from hx))

/-- There is one more line than there are line feeds. -/
theorem length_lines (t : Text) : t.lines.length = t.count '\n' + 1 := by
  induction t with
  | nil => rfl
  | cons c t ih =>
    by_cases hc : c = '\n'
    · rw [hc, lines_newline, List.length_cons, ih, List.count_cons_self]
    · obtain ⟨r, back, hlines⟩ := exists_lines_eq_cons t
      rw [lines_cons_of_ne hc hlines, List.count_cons_of_ne hc, ← ih, hlines, List.length_cons,
        List.length_cons]

/-! ## Lines put together -/

theorem ofLines_cons (p : Text) (h : back ≠ []) : ofLines (p :: back) = p ++ '\n' :: ofLines back := by
  cases back with
  | nil => exact absurd rfl h
  | cons x back => rfl

theorem ofLines_append (front : List Text) (p r : Text) (back : List Text) :
    ofLines (front ++ [p]) ++ ofLines (r :: back) = ofLines (front ++ (p ++ r) :: back) := by
  induction front with
  | nil => cases back <;> simp [ofLines]
  | cons x front ih =>
    rw [List.cons_append, List.cons_append, ofLines_cons x (by simp), ofLines_cons x (by simp), ← ih,
      List.append_assoc, List.cons_append]

/-- A text is its lines with line feeds between them. -/
theorem ofLines_lines (t : Text) : ofLines t.lines = t := by
  induction t with
  | nil => rfl
  | cons c t ih =>
    obtain ⟨r, back, hlines⟩ := exists_lines_eq_cons t
    by_cases hc : c = '\n'
    · rw [hc, lines_newline, ofLines_cons [] (lines_ne_nil t), ih, List.nil_append]
    · rw [lines_cons_of_ne hc hlines, ← ih, hlines]
      cases back <;> rfl

theorem newline_not_mem_lines (h : p ∈ t.lines) : '\n' ∉ p := by
  induction t generalizing p with
  | nil =>
    rw [List.mem_singleton.mp h]
    exact List.not_mem_nil
  | cons c t ih =>
    obtain ⟨r, back, hlines⟩ := exists_lines_eq_cons t
    by_cases hc : c = '\n'
    · rw [hc, lines_newline, List.mem_cons] at h
      rcases h with rfl | h
      · exact List.not_mem_nil
      · exact ih h
    · rw [lines_cons_of_ne hc hlines, List.mem_cons] at h
      rcases h with rfl | h
      · have hr : '\n' ∉ r := ih (by simp [hlines])
        simpa [hr] using Ne.symm hc
      · exact ih (by simp [hlines, h])

/-- The lines of lines put together are these lines. -/
theorem lines_ofLines (h : ∀ p ∈ front, '\n' ∉ p) (hne : front ≠ []) :
    (ofLines front).lines = front := by
  induction front with
  | nil => exact absurd rfl hne
  | cons p front ih =>
    rw [List.forall_mem_cons] at h
    by_cases hfront : front = []
    · rw [hfront]
      exact split_of_not_mem h.1
    · rw [ofLines_cons p hfront, lines, split_append_cons, split_of_not_mem h.1,
        show split '\n' (ofLines front) = front from ih h.2 hfront]
      rfl

theorem lines_ofLines_of_subset (h : front ⊆ t.lines) (hne : front ≠ []) :
    (ofLines front).lines = front :=
  lines_ofLines (fun _ hp => newline_not_mem_lines (h hp)) hne

/-- The number of bytes of lines with a line feed behind each of them. -/
def lineBytes : List Text → Nat
  | [] => 0
  | p :: front => bytes p + 1 + lineBytes front

@[simp]
theorem lineBytes_nil : lineBytes [] = 0 :=
  rfl

@[simp]
theorem lineBytes_cons (p : Text) (front : List Text) :
    lineBytes (p :: front) = bytes p + 1 + lineBytes front :=
  rfl

/-- The last line starts behind the other ones and their line feeds. -/
theorem bytes_ofLines_concat (front : List Text) (p : Text) :
    bytes (ofLines (front ++ [p])) = lineBytes front + bytes p := by
  induction front with
  | nil => simp [ofLines]
  | cons x front ih =>
    have hnewline : Char.utf8Size '\n' = 1 := by decide
    rw [List.cons_append, ofLines_cons x (by simp), bytes_append, bytes_cons, ih, lineBytes_cons,
      hnewline]
    omega

theorem cutFirst?_newline (h : t.lines = r :: back) :
    t.cutFirst? '\n' = if back = [] then none else some (r, ofLines back) := by
  induction t generalizing r back with
  | nil =>
    obtain ⟨rfl, rfl⟩ := List.cons.inj (show [[]] = r :: back from h)
    rfl
  | cons c t ih =>
    by_cases hc : c = '\n'
    · rw [hc, lines_newline] at h
      obtain ⟨rfl, rfl⟩ := List.cons.inj h
      simp [cutFirst?, hc, lines_ne_nil, ofLines_lines]
    · obtain ⟨r', back', hlines⟩ := exists_lines_eq_cons t
      rw [lines_cons_of_ne hc hlines] at h
      obtain ⟨rfl, rfl⟩ := List.cons.inj h
      rw [cutFirst?, if_neg hc, ih hlines]
      split <;> rfl

theorem cutLast?_newline (h : t.lines = front ++ [p]) :
    t.cutLast? '\n' = if front = [] then none else some (ofLines front, p) := by
  cases hcut : t.cutLast? '\n' with
  | none =>
    rw [lines, split_of_not_mem (not_mem_of_cutLast?_eq_none hcut)] at h
    obtain ⟨rfl, -⟩ := List.append_inj' (show [] ++ [t] = front ++ [p] from h) rfl
    rfl
  | some parts =>
    obtain ⟨a, b⟩ := parts
    rw [append_of_cutLast? hcut, lines, split_append_cons,
      split_of_not_mem (not_mem_of_cutLast? hcut)] at h
    obtain ⟨rfl, hb⟩ := List.append_inj' h rfl
    rw [if_neg (split_ne_nil '\n' a), show ofLines (split '\n' a) = a from ofLines_lines a,
      (List.cons.inj hb).1]

theorem firstLine_of_lines (h : t.lines = r :: back) : t.firstLine = r := by
  rw [firstLine, cutFirst?_newline h]
  by_cases hback : back = []
  · rw [if_pos hback, ← ofLines_lines t, h, hback]
    rfl
  · rw [if_neg hback]

theorem lastLine_of_lines (h : t.lines = front ++ [p]) : t.lastLine = p := by
  rw [lastLine, cutLast?_newline h]
  by_cases hfront : front = []
  · rw [if_pos hfront, ← ofLines_lines t, h, hfront]
    rfl
  · rw [if_neg hfront]

/-! ## The lines between two offsets -/

/-- The index of the line that an offset is in. -/
def lineAt (t : Text) (n : Nat) : Nat :=
  (t.take (t.charsBefore n)).count '\n'

/-- The offset from the start of this line. -/
def columnAt (t : Text) (n : Nat) : Nat :=
  bytes (lastLine (t.take (t.charsBefore n)))

/-- The lines of a text, with those from the one with an offset to the one with another offset in the
middle. -/
structure Touches (t : Text) (m n : Nat) (above touched below : List Text) : Prop where
  lines_eq : t.lines = above ++ touched ++ below
  first : above.length = t.lineAt m
  last : above.length + touched.length = t.lineAt n + 1

/-- A text cut at the start of the line with an offset, and at another offset. -/
structure LineCut (t : Text) (m n : Nat) (head slice tail : Text) (above front : List Text)
    (p r : Text) (below : List Text) : Prop where
  text : t = head ++ slice ++ tail
  start : bytes head = m - t.columnAt m
  stop : bytes (head ++ slice) = n
  head_lines : head.lines = above ++ [[]]
  slice_lines : slice.lines = front ++ [p]
  tail_lines : tail.lines = r :: below
  first : above.length = t.lineAt m

theorem exists_lineCut {m n : Nat} (hmn : m ≤ n) (hm : t.isBoundary m = true)
    (hn : t.isBoundary n = true) :
    ∃ head slice tail above front p r below, t.LineCut m n head slice tail above front p r below := by
  obtain ⟨a, b, c, rfl, rfl, rfl⟩ := exists_parts_of_isBoundary hmn hm hn
  obtain ⟨head, above, ha, hhead, hlines⟩ := exists_append_lastLine_lines a
  obtain ⟨-, front, -, -, hslice⟩ := exists_append_lastLine_lines (a.lastLine ++ b)
  obtain ⟨r, below, htail⟩ := exists_lines_eq_cons c
  have htake : (a ++ b ++ c).take ((a ++ b ++ c).charsBefore (bytes a)) = a := by
    rw [List.append_assoc, charsBefore_append, List.take_left]
  have hbytes := congrArg bytes ha
  rw [bytes_append] at hbytes
  refine ⟨head, a.lastLine ++ b, c, above, front, _, r, below, ?_, ?_, ?_, hhead, hslice, htail, ?_⟩
  · rw [← List.append_assoc head, ← ha]
  · rw [columnAt, htake]
    omega
  · rw [← List.append_assoc, ← ha]
  · rw [lineAt, htake]
    have hlength := length_lines a
    rw [hlines, List.length_append, List.length_singleton] at hlength
    omega

namespace LineCut

variable {m n : Nat} {head slice tail : Text} {above below : List Text}

theorem take_eq (h : t.LineCut m n head slice tail above front p r below) :
    t.take (t.charsBefore n) = head ++ slice := by
  rw [h.text, ← h.stop, charsBefore_append, List.take_left]

theorem lines_take (h : t.LineCut m n head slice tail above front p r below) :
    (head ++ slice).lines = above ++ front ++ [p] := by
  obtain ⟨x, xs, hx⟩ := exists_lines_eq_cons slice
  rw [lines_append h.head_lines hx, List.nil_append, ← hx, h.slice_lines, List.append_assoc]

theorem touches (h : t.LineCut m n head slice tail above front p r below) :
    t.Touches m n above (front ++ [p ++ r]) below := by
  refine ⟨?_, h.first, ?_⟩
  · rw [h.text, lines_append h.lines_take h.tail_lines]
    simp
  · have hlength := length_lines (head ++ slice)
    rw [h.lines_take] at hlength
    rw [lineAt, h.take_eq, ← hlength]
    simp

theorem columnAt_eq (h : t.LineCut m n head slice tail above front p r below) :
    t.columnAt n = bytes p := by
  obtain ⟨-, _, -, -, hlast⟩ := exists_append_lastLine_lines (head ++ slice)
  rw [h.lines_take] at hlast
  obtain ⟨-, hp⟩ := List.append_inj' hlast rfl
  rw [columnAt, h.take_eq, (List.cons.inj hp).1]

/-- Other lines in the place of the slice. -/
theorem append_ofLines (h : t.LineCut m n head slice tail above front p r below) (front' : List Text)
    (p' : Text) :
    head ++ ofLines (front' ++ [p']) ++ tail = ofLines (above ++ (front' ++ [p' ++ r]) ++ below) := by
  obtain ⟨x, xs, hx⟩ := List.exists_cons_of_ne_nil
    (List.append_ne_nil_of_right_ne_nil front' (List.cons_ne_nil p' []))
  rw [← ofLines_lines head, ← ofLines_lines tail, h.head_lines, h.tail_lines, hx, ofLines_append,
    List.nil_append, ← hx, ← List.append_assoc, ofLines_append]
  simp

/-- From the start of a line to an offset in it. -/
theorem line (h : t.LineCut n n head slice tail above front p r below) :
    front = [] ∧ slice = p ∧ (head ++ slice).lastLine = slice := by
  have hfront : front = [] := by
    have hlast := h.touches.last
    rw [h.first, List.length_append, List.length_singleton] at hlast
    exact List.length_eq_zero_iff.mp (by omega)
  have hslice : slice = p := by
    rw [← ofLines_lines slice, h.slice_lines, hfront]
    rfl
  obtain ⟨-, _, -, -, hlast⟩ := exists_append_lastLine_lines (head ++ slice)
  rw [h.lines_take] at hlast
  exact ⟨hfront, hslice, ((List.cons.inj (List.append_inj' hlast rfl).2).1.symm.trans hslice.symm)⟩

end LineCut

end BlockNotes.Text
