import BlockNotes.Text.Basic

/-!
# Boundaries

An offset is a boundary of a text exactly if the text is made of two parts of
which the first is that long (`Text.isBoundary_iff`).  In this form boundaries
move through concatenations: a boundary of a text in two parts is one of the
first part, or one of the second part behind the first.

At boundaries the pieces of surgery on a text succeed.  What they do to its
characters is said with the number of characters before an offset.
-/

namespace BlockNotes.Text

theorem bytes_eq_zero {t : Text} : bytes t = 0 ↔ t = [] := by
  constructor
  · intro h
    cases t with
    | nil => rfl
    | cons c t =>
      have := c.utf8Size_pos
      rw [bytes_cons] at h
      omega
  · rintro rfl
    rfl

theorem bytes_reverse (t : Text) : bytes t.reverse = bytes t := by
  induction t with
  | nil => rfl
  | cons c t ih =>
    rw [List.reverse_cons, bytes_append, ih, bytes_cons, bytes_cons, bytes_nil, Nat.add_zero,
      Nat.add_comm]

/-! ## Boundaries as cuts -/

theorem isBoundary_iff {t : Text} {n : Nat} :
    t.isBoundary n = true ↔ ∃ a b, t = a ++ b ∧ bytes a = n := by
  rw [isBoundary, Option.isSome_iff_exists]
  constructor
  · rintro ⟨⟨a, b⟩, h⟩
    exact ⟨a, b, (append_of_splitAt? h).symm, bytes_of_splitAt? h⟩
  · rintro ⟨a, b, rfl, rfl⟩
    exact ⟨(a, b), splitAt?_append a b⟩

@[simp] theorem isBoundary_zero (t : Text) : t.isBoundary 0 = true :=
  isBoundary_iff.mpr ⟨[], t, rfl, rfl⟩

@[simp] theorem isBoundary_bytes (t : Text) : t.isBoundary (bytes t) = true :=
  isBoundary_iff.mpr ⟨t, [], by simp, rfl⟩

theorem le_bytes_of_isBoundary {t : Text} {n : Nat} (h : t.isBoundary n = true) :
    n ≤ bytes t := by
  obtain ⟨a, b, rfl, rfl⟩ := isBoundary_iff.mp h
  rw [bytes_append]
  omega

/-! ## Boundaries of a concatenation -/

theorem isBoundary_append_left {s t : Text} {n : Nat} (hn : n ≤ bytes s) :
    (s ++ t).isBoundary n = true ↔ s.isBoundary n = true := by
  rw [isBoundary_iff, isBoundary_iff]
  constructor
  · rintro ⟨a, b, h, rfl⟩
    rcases List.append_eq_append_iff.mp h with ⟨c, rfl, rfl⟩ | ⟨c, rfl, rfl⟩
    · rw [bytes_append] at hn
      have hc : c = [] := bytes_eq_zero.mp (by omega)
      exact ⟨s, [], by simp, by simp [hc]⟩
    · exact ⟨a, c, rfl, rfl⟩
  · rintro ⟨a, b, rfl, rfl⟩
    exact ⟨a, b ++ t, by simp, rfl⟩

theorem isBoundary_append_right {s t : Text} {n : Nat} :
    (s ++ t).isBoundary (bytes s + n) = true ↔ t.isBoundary n = true := by
  rw [isBoundary_iff, isBoundary_iff]
  constructor
  · rintro ⟨a, b, h, hn⟩
    rcases List.append_eq_append_iff.mp h with ⟨c, rfl, rfl⟩ | ⟨c, rfl, rfl⟩
    · rw [bytes_append] at hn
      exact ⟨c, b, rfl, by omega⟩
    · rw [bytes_append] at hn
      have hc : c = [] := bytes_eq_zero.mp (by omega)
      have h0 : n = 0 := by omega
      exact ⟨[], t, rfl, by simp [h0]⟩
  · rintro ⟨a, b, rfl, rfl⟩
    exact ⟨s ++ a, b, by simp, by simp⟩

theorem isBoundary_min_of_append {s t : Text} {n : Nat} (h : (s ++ t).isBoundary n = true) :
    s.isBoundary (min n (bytes s)) = true := by
  by_cases hn : n ≤ bytes s
  · rw [Nat.min_eq_left hn]
    exact (isBoundary_append_left hn).mp h
  · rw [Nat.min_eq_right (by omega)]
    exact isBoundary_bytes s

theorem isBoundary_sub_of_append {s t : Text} {n : Nat} (h : (s ++ t).isBoundary n = true) :
    t.isBoundary (n - bytes s) = true := by
  by_cases hn : n ≤ bytes s
  · rw [Nat.sub_eq_zero_of_le hn]
    exact isBoundary_zero t
  · rw [show n = bytes s + (n - bytes s) by omega] at h
    exact isBoundary_append_right.mp h

/-- Without some characters at its end, the first part ends at a boundary.  The characters are
given last first. -/
theorem isBoundary_sub_of_prefix {a b taken : Text} (h : taken <+: a.reverse) :
    (a ++ b).isBoundary (bytes a - bytes taken) = true := by
  obtain ⟨keep, hkeep⟩ := h
  have ha : a = keep.reverse ++ taken.reverse := by
    rw [← List.reverse_append, hkeep, List.reverse_reverse]
  have hbytes : bytes a - bytes taken = bytes keep.reverse := by
    rw [ha, bytes_append, bytes_reverse taken, Nat.add_sub_cancel]
  rw [hbytes, ha, List.append_assoc]
  exact isBoundary_iff.mpr ⟨_, _, rfl, rfl⟩

/-! ## Nearby boundaries -/

theorem isBoundary_cons {c : Char} {t : Text} {n : Nat} (h : t.isBoundary n = true) :
    isBoundary (c :: t) (c.utf8Size + n) = true := by
  obtain ⟨a, b, rfl, rfl⟩ := isBoundary_iff.mp h
  exact isBoundary_iff.mpr ⟨c :: a, b, rfl, rfl⟩

theorem isBoundary_floorBoundary (t : Text) (n : Nat) : t.isBoundary (t.floorBoundary n) = true := by
  fun_induction floorBoundary t n with
  | case1 => exact isBoundary_zero []
  | case2 => exact isBoundary_zero _
  | case3 c t n hn ih => exact isBoundary_cons ih

theorem isBoundary_ceilBoundary (t : Text) (n : Nat) : t.isBoundary (t.ceilBoundary n) = true := by
  fun_induction ceilBoundary t n with
  | case1 => exact isBoundary_zero []
  | case2 => exact isBoundary_zero _
  | case3 c t n hn ih => exact isBoundary_cons ih

/-- A later character moves boundaries up by its length. -/
theorem isBoundary_cons_iff {c : Char} {t : Text} {n : Nat} :
    isBoundary (c :: t) n = true ↔
      n = 0 ∨ c.utf8Size ≤ n ∧ t.isBoundary (n - c.utf8Size) = true := by
  constructor
  · intro h
    obtain ⟨a, b, hab, rfl⟩ := isBoundary_iff.mp h
    cases a with
    | nil => exact .inl rfl
    | cons x a =>
      cases hab
      refine .inr ⟨Nat.le_add_right _ _, isBoundary_iff.mpr ⟨a, b, rfl, ?_⟩⟩
      rw [bytes_cons, Nat.add_sub_cancel_left]
  · rintro (rfl | ⟨hle, h⟩)
    · exact isBoundary_zero _
    · rw [show n = c.utf8Size + (n - c.utf8Size) by omega]
      exact isBoundary_cons h

theorem floorBoundary_le (t : Text) (n : Nat) : t.floorBoundary n ≤ n := by
  fun_induction floorBoundary t n with
  | case1 => exact Nat.zero_le _
  | case2 => exact Nat.zero_le _
  | case3 c t n hn ih => omega

/-- No boundary up to an offset comes after the one to which the offset is moved down. -/
theorem le_floorBoundary {t : Text} {m n : Nat} (hm : t.isBoundary m = true) (hmn : m ≤ n) :
    m ≤ t.floorBoundary n := by
  fun_induction floorBoundary t n generalizing m with
  | case1 => exact le_bytes_of_isBoundary hm
  | case2 c t n hn =>
    rcases isBoundary_cons_iff.mp hm with rfl | ⟨hle, -⟩ <;> omega
  | case3 c t n hn ih =>
    rcases isBoundary_cons_iff.mp hm with rfl | ⟨hle, hm⟩
    · exact Nat.zero_le _
    · have := ih hm (by omega)
      omega

theorem le_ceilBoundary {t : Text} {n : Nat} (hn : n ≤ bytes t) : n ≤ t.ceilBoundary n := by
  fun_induction ceilBoundary t n with
  | case1 => exact hn
  | case2 => exact Nat.zero_le _
  | case3 c t n h ih =>
    rw [bytes_cons] at hn
    have := ih (by omega)
    omega

/-- No boundary from an offset on comes before the one to which the offset is moved up. -/
theorem ceilBoundary_le {t : Text} {m n : Nat} (hm : t.isBoundary m = true) (hnm : n ≤ m) :
    t.ceilBoundary n ≤ m := by
  fun_induction ceilBoundary t n generalizing m with
  | case1 => exact Nat.zero_le _
  | case2 => exact Nat.zero_le _
  | case3 c t n h ih =>
    rcases isBoundary_cons_iff.mp hm with rfl | ⟨hle, hm⟩
    · omega
    · have := ih hm (by omega)
      omega

/-- A boundary is brought to itself. -/
theorem floorBoundary_of_isBoundary {t : Text} {n : Nat} (h : t.isBoundary n = true) :
    t.floorBoundary n = n := by
  obtain ⟨a, b, rfl, rfl⟩ := isBoundary_iff.mp h
  induction a with
  | nil =>
    cases b with
    | nil => rfl
    | cons c b => rw [List.nil_append, floorBoundary, bytes_nil, if_pos c.utf8Size_pos]
  | cons c a ih =>
    rw [List.cons_append, floorBoundary, bytes_cons, if_neg (by omega), Nat.add_sub_cancel_left,
      ih (isBoundary_iff.mpr ⟨a, b, rfl, rfl⟩)]

/-! ## Counting characters -/

/-- The number of characters that end at an offset or before it. -/
def charsBefore : Text → (offset : Nat) → Nat
  | [], _ => 0
  | c :: rest, n => if n < c.utf8Size then 0 else charsBefore rest (n - c.utf8Size) + 1

@[simp] theorem charsBefore_zero (t : Text) : charsBefore t 0 = 0 := by
  cases t with
  | nil => rfl
  | cons c t => rw [charsBefore, if_pos c.utf8Size_pos]

/-- Up to the end of a first part there are its characters. -/
@[simp] theorem charsBefore_append (a b : Text) : charsBefore (a ++ b) (bytes a) = a.length := by
  induction a with
  | nil => exact charsBefore_zero b
  | cons c a ih =>
    rw [List.cons_append, charsBefore, bytes_cons, if_neg (by omega), Nat.add_sub_cancel_left, ih,
      List.length_cons]

@[simp] theorem charsBefore_bytes (t : Text) : charsBefore t (bytes t) = t.length := by
  simpa using charsBefore_append t []

/-- In a text in two parts the characters of the second part come after those of the first. -/
theorem charsBefore_append_add (s t : Text) (n : Nat) :
    charsBefore (s ++ t) (bytes s + n) = s.length + charsBefore t n := by
  induction s with
  | nil => rw [List.nil_append, bytes_nil, Nat.zero_add, List.length_nil, Nat.zero_add]
  | cons c s ih =>
    rw [List.cons_append, charsBefore, bytes_cons, if_neg (by omega), List.length_cons,
      show c.utf8Size + bytes s + n - c.utf8Size = bytes s + n by omega, ih]
    omega

theorem charsBefore_append_left {s t : Text} {n : Nat} (hn : (s ++ t).isBoundary n = true)
    (hle : n ≤ bytes s) : charsBefore (s ++ t) n = charsBefore s n := by
  obtain ⟨a, b, rfl, rfl⟩ := isBoundary_iff.mp ((isBoundary_append_left hle).mp hn)
  rw [charsBefore_append, List.append_assoc, charsBefore_append]

theorem charsBefore_le_length (t : Text) (n : Nat) : charsBefore t n ≤ t.length := by
  fun_induction charsBefore t n with
  | case1 => exact Nat.zero_le _
  | case2 => exact Nat.zero_le _
  | case3 c t n hn ih => exact Nat.succ_le_succ ih

theorem charsBefore_mono (t : Text) {m n : Nat} (h : m ≤ n) : charsBefore t m ≤ charsBefore t n := by
  induction t generalizing m n with
  | nil => exact Nat.le_refl _
  | cons c t ih =>
    rw [charsBefore, charsBefore]
    split
    next => exact Nat.zero_le _
    next hm =>
      rw [if_neg (by omega)]
      exact Nat.succ_le_succ (ih (Nat.sub_le_sub_right h _))

/-! ## Surgery at boundaries -/

theorem insert?_append (a b new : Text) : (a ++ b).insert? (bytes a) new = some (a ++ new ++ b) := by
  rw [insert?, splitAt?_append, Option.map_some]

theorem erase?_append (a b c : Text) :
    (a ++ b ++ c).erase? (bytes a) (bytes (a ++ b)) = some (a ++ c) := by
  simp only [erase?, splitAt?_append, take?, Option.map_some, Option.bind_eq_bind,
    Option.bind_some]

theorem slice?_append (a b c : Text) :
    (a ++ b ++ c).slice? (bytes a) (bytes (a ++ b)) = some b := by
  rw [slice?, take?, splitAt?_append, Option.map_some, Option.bind_some, drop?, splitAt?_append,
    Option.map_some]

/-- Leaving out a part takes its bytes away. -/
theorem bytes_erase? {t t' : Text} {m n : Nat} (h : t.erase? m n = some t') :
    bytes t' + (n - m) = bytes t := by
  obtain ⟨⟨front, back⟩, hsplit, h⟩ := Option.bind_eq_some_iff.mp h
  obtain ⟨keep, hkeep, h⟩ := Option.bind_eq_some_iff.mp h
  obtain ⟨⟨_, rest⟩, htake, rfl⟩ := Option.map_eq_some_iff.mp hkeep
  cases h
  have hn := bytes_of_splitAt? hsplit
  have hm := bytes_of_splitAt? htake
  obtain rfl := append_of_splitAt? htake
  obtain rfl := append_of_splitAt? hsplit
  simp only [bytes_append] at hn ⊢
  omega

/-- Of two cuts of a text the one with fewer bytes before it comes first. -/
theorem exists_between_of_append_eq {a b a' b' : Text} (h : a ++ b = a' ++ b')
    (hle : bytes a ≤ bytes a') : ∃ c, a' = a ++ c ∧ b = c ++ b' := by
  rcases List.append_eq_append_iff.mp h with hc | ⟨c, rfl, rfl⟩
  · exact hc
  · have hc : c = [] := bytes_eq_zero.mp (by rw [bytes_append] at hle; omega)
    exact ⟨[], by simp [hc], by simp [hc]⟩

/-- Between two boundaries in order a text has three parts. -/
theorem exists_parts_of_isBoundary {t : Text} {m n : Nat} (hmn : m ≤ n)
    (hm : t.isBoundary m = true) (hn : t.isBoundary n = true) :
    ∃ a b c, t = a ++ b ++ c ∧ bytes a = m ∧ bytes (a ++ b) = n := by
  obtain ⟨x, c, rfl, rfl⟩ := isBoundary_iff.mp hn
  obtain ⟨a, b, rfl, rfl⟩ := isBoundary_iff.mp ((isBoundary_append_left hmn).mp hm)
  exact ⟨a, b, c, rfl, rfl, rfl⟩

/-- A cut between two boundaries in any order, with the first one moved back if it has to be. -/
theorem exists_slice?_min {t : Text} {m n : Nat} (hm : t.isBoundary m = true)
    (hn : t.isBoundary n = true) : ∃ s, t.slice? (min m n) (min n (bytes t)) = some s := by
  rw [Nat.min_eq_left (le_bytes_of_isBoundary hn)]
  have hmin : t.isBoundary (min m n) = true := by
    rcases Nat.le_total m n with hle | hle
    · rw [Nat.min_eq_left hle]
      exact hm
    · rw [Nat.min_eq_right hle]
      exact hn
  obtain ⟨a, b, c, rfl, ha, hb⟩ := exists_parts_of_isBoundary (Nat.min_le_right m n) hmin hn
  exact ⟨b, by rw [← ha, ← hb, slice?_append]⟩

/-- Leaving out what lies between two boundaries takes the characters away that lie between. -/
theorem eq_of_erase? {t t' : Text} {m n : Nat} (hmn : m ≤ n) (hm : t.isBoundary m = true)
    (hn : t.isBoundary n = true) (h : t.erase? m n = some t') :
    t' = t.take (t.charsBefore m) ++ t.drop (t.charsBefore n) := by
  obtain ⟨a, b, c, rfl, rfl, rfl⟩ := exists_parts_of_isBoundary hmn hm hn
  rw [erase?_append] at h
  cases h
  have ha : charsBefore (a ++ b ++ c) (bytes a) = a.length := by
    rw [List.append_assoc, charsBefore_append]
  rw [charsBefore_append, ha, List.drop_left, List.append_assoc, List.take_left]

/-! ## Lines -/

theorem append_of_cutLast? {sep : Char} {t a b : Text} (h : t.cutLast? sep = some (a, b)) :
    t = a ++ sep :: b := by
  induction t generalizing a with
  | nil => cases h
  | cons c t ih =>
    rw [cutLast?] at h
    split at h
    next x y hcut =>
      cases h
      rw [ih hcut, List.cons_append]
    next =>
      split at h
      next hc =>
        cases h
        rw [hc, List.nil_append]
      next => cases h

/-- A text ends in its last line. -/
theorem exists_append_lastLine (t : Text) : ∃ front, t = front ++ t.lastLine := by
  unfold lastLine
  split
  next front line hcut => exact ⟨front ++ ['\n'], by simpa using append_of_cutLast? hcut⟩
  next => exact ⟨[], rfl⟩

/-- The start of the last line before a cut is where the text before a later cut can be cut. -/
theorem exists_splitAt?_lineStart {t before after upTo rest : Text} {m n : Nat}
    (hm : t.splitAt? m = some (before, after)) (hn : t.splitAt? n = some (upTo, rest))
    (hle : m ≤ n) : ∃ x, upTo.splitAt? (m - before.lastLine.bytes) = some x := by
  have hbytes := bytes_of_splitAt? hm
  have hbytes' := bytes_of_splitAt? hn
  have hboundary : (upTo ++ rest).isBoundary (bytes before) = true := by
    rw [append_of_splitAt? hn, ← append_of_splitAt? hm]
    exact isBoundary_iff.mpr ⟨before, after, rfl, rfl⟩
  obtain ⟨a, b, hupTo, ha⟩ := isBoundary_iff.mp ((isBoundary_append_left (by omega)).mp hboundary)
  have hcuts : a ++ (b ++ rest) = before ++ after := by
    rw [append_of_splitAt? hm, ← append_of_splitAt? hn, hupTo, List.append_assoc]
  have hsame : a = before := by
    have hsplit := splitAt?_append a (b ++ rest)
    rw [hcuts, ha, splitAt?_append] at hsplit
    cases hsplit
    rfl
  obtain ⟨front, hfront⟩ := exists_append_lastLine before
  have hstart : m - before.lastLine.bytes = bytes front := by
    have hsum := congrArg bytes hfront
    rw [bytes_append] at hsum
    omega
  refine ⟨(front, before.lastLine ++ b), ?_⟩
  rw [hstart, hupTo, hsame]
  calc splitAt? (before ++ b) (bytes front)
      = splitAt? (front ++ (before.lastLine ++ b)) (bytes front) := by
        rw [← List.append_assoc, ← hfront]
    _ = some (front, before.lastLine ++ b) := splitAt?_append _ _

end BlockNotes.Text
