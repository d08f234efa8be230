import BlockNotes.Proofs.Text.Lines
import BlockNotes.Storage.DocumentFile
import BlockNotes.Storage.FileSystem
import Mathlib.Data.List.TakeWhile

/-!
# The name of the markdown file

A name is written as what leads to a directory, and a last part in it
(`FileName.exists_last`).  The name of the markdown file differs from the name of
the document in that last part only (`FileName.markdown_cases`), and the place that
a name leads to depends on its parts alone (`FileSystem.placeOf`).  So the two
names lead to different places as soon as they are different
(`FileSystem.placeOf_markdown_ne`).
-/

namespace BlockNotes

namespace FileName

/-! ## The last part of a name -/

/-- Nothing, or a text with a slash at its end: what may stand before the last part of a name. -/
def IsFront (front : Text) : Prop :=
  front = [] ∨ ∃ f, front = f ++ ['/']

/-- The last part of a name, if it counts. -/
structure IsLast (n : Text) : Prop where
  slash : '/' ∉ n
  nonempty : n ≠ []
  ne_dot : n ≠ ['.']

variable {name front n : Text}

theorem getLast?_split (hfront : IsFront front) (hn : '/' ∉ n) :
    ((front ++ n).split '/').getLast? = some n := by
  rcases hfront with rfl | ⟨f, rfl⟩
  · rw [List.nil_append, Text.split_of_not_mem hn, List.getLast?_singleton]
  · rw [List.append_assoc, List.singleton_append, Text.split_append_cons, Text.split_of_not_mem hn,
      List.getLast?_concat]

/-- A name that may name a file has a last part that counts. -/
theorem exists_last (h : isDirectoryName name = false) :
    ∃ front n, name = front ++ n ∧ IsFront front ∧ IsLast n := by
  have hslash : '/' ∉ (name.reverse.takeWhile (· ≠ '/')).reverse := by
    intro hmem
    have hkept := List.mem_takeWhile_imp (List.mem_reverse.mp hmem)
    simp at hkept
  have hfront : IsFront (name.reverse.dropWhile (· ≠ '/')).reverse := by
    cases hdrop : name.reverse.dropWhile (· ≠ '/') with
    | nil => exact .inl rfl
    | cons c rest =>
      have hc : c = '/' := by
        have hhead := List.head?_dropWhile_not (· ≠ '/') name.reverse
        rw [hdrop] at hhead
        simpa using hhead
      exact .inr ⟨rest.reverse, by rw [hc, List.reverse_cons]⟩
  have hname : name = (name.reverse.dropWhile (· ≠ '/')).reverse ++
      (name.reverse.takeWhile (· ≠ '/')).reverse := by
    rw [← List.reverse_append, List.takeWhile_append_dropWhile, List.reverse_reverse]
  have hlast := getLast?_split hfront hslash
  rw [← hname] at hlast
  unfold isDirectoryName at h
  rw [hlast] at h
  refine ⟨_, _, hname, hfront, hslash, ?_, ?_⟩
  · intro hnil
    rw [hnil] at h
    cases h
  · intro hdot
    rw [hdot] at h
    cases h

theorem parts_append (hfront : IsFront front) (hn : IsLast n) :
    parts (front ++ n) = parts front ++ [n] := by
  have hkept : (([n] : List Text).filter fun p => p ≠ [] ∧ p ≠ ['.']) = [n] := by
    simp [hn.nonempty, hn.ne_dot]
  rcases hfront with rfl | ⟨f, rfl⟩
  · rw [List.nil_append, parts, Text.split_of_not_mem hn.slash, hkept]
    rfl
  · rw [parts, parts, List.append_assoc, List.singleton_append, Text.split_append_cons,
      Text.split_append_cons, Text.split_of_not_mem hn.slash, List.filter_append, hkept]
    simp [Text.split]

theorem isAbsolute_append (hfront : IsFront front) (hn : IsLast n) :
    isAbsolute (front ++ n) = isAbsolute front := by
  rcases hfront with rfl | ⟨f, rfl⟩
  · cases n with
    | nil => rfl
    | cons c n =>
      have hc : c ≠ '/' := fun h => hn.slash (h ▸ List.mem_cons_self)
      simp [isAbsolute, Text.startsWith, List.isPrefixOf, Ne.symm hc]
  · cases f with
    | nil => rfl
    | cons c f => rfl

/-! ## Extensions -/

theorem dropTail_reverse (hn : IsLast n) (rest : Text) :
    dropTail (n.reverse ++ rest) = n.reverse ++ rest := by
  have hmem : ∀ c, c ∈ n.reverse → c ≠ '/' := by
    rintro _ hc rfl
    exact hn.slash (List.mem_reverse.mp hc)
  have hdot : n.reverse ≠ ['.'] := fun h => hn.ne_dot (List.reverse_eq_iff.mp h)
  cases hrev : n.reverse with
  | nil => exact absurd (List.reverse_eq_nil_iff.mp hrev) hn.nonempty
  | cons c cs =>
    rw [hrev] at hmem hdot
    have hc := hmem c List.mem_cons_self
    cases cs with
    | nil =>
      have hc' : c ≠ '.' := fun h => hdot (by rw [h])
      simp [dropTail, hc, hc']
    | cons c' cs =>
      have hc' := hmem c' (List.mem_cons_of_mem _ List.mem_cons_self)
      simp [dropTail, hc, hc']

theorem split?_append (hfront : IsFront front) (hn : IsLast n) :
    split? (front ++ n) = if n = ['.', '.'] then none else some (front, n) := by
  have hall : ∀ c ∈ n.reverse, decide (c ≠ '/') = true := by
    intro c hc
    have hne : c ≠ '/' := fun h => hn.slash (List.mem_reverse.mp (h ▸ hc))
    simpa using hne
  have htake : (n.reverse ++ front.reverse).takeWhile (· ≠ '/') = n.reverse := by
    rw [List.takeWhile_append_of_pos hall]
    rcases hfront with rfl | ⟨f, rfl⟩ <;> simp
  have hdrop : (n.reverse ++ front.reverse).dropWhile (· ≠ '/') = front.reverse := by
    rw [List.dropWhile_append_of_pos hall]
    rcases hfront with rfl | ⟨f, rfl⟩ <;> simp
  unfold split?
  rw [List.reverse_append, dropTail_reverse hn]
  dsimp only
  rw [htake, hdrop, List.reverse_reverse, List.reverse_reverse]
  simp only [hn.nonempty, hn.ne_dot, false_or]

/-- Without its extension a last part is still a last part. -/
theorem isLast_dropExtension (hn : IsLast n) :
    (extension n).length ≤ n.length ∧ IsLast (n.take (n.length - (extension n).length)) := by
  unfold extension
  split
  next c cs ext hcut =>
    have hsplit : n = c :: cs ++ ['.'] ++ ext := by
      rw [Text.append_of_cutLast? hcut, List.append_assoc]
      rfl
    rw [hsplit, List.length_append, Nat.add_sub_cancel, List.take_left]
    refine ⟨Nat.le_add_left _ _, ?_, by simp, by simp⟩
    intro hmem
    refine hn.slash ?_
    rw [hsplit]
    exact List.mem_append_left _ hmem
  next =>
    rw [List.length_nil, Nat.sub_zero, List.take_length]
    exact ⟨Nat.zero_le _, hn⟩

theorem isLast_stem_append (hn : IsLast n) : IsLast (stem n ++ ['.', 'm', 'd']) := by
  refine ⟨?_, by simp, ?_⟩
  · intro hmem
    rw [List.mem_append] at hmem
    rcases hmem with hmem | hmem
    · refine hn.slash ?_
      unfold stem at hmem
      split at hmem
      next c cs _ hcut =>
        rw [Text.append_of_cutLast? hcut]
        exact List.mem_append_left _ hmem
      next => exact hmem
    · simp at hmem
  · intro heq
    have hlen := congrArg List.length heq
    simp at hlen

/-- The name of the markdown file has another last part, or the same one. -/
theorem markdown_cases (hfront : IsFront front) (hn : IsLast n) :
    ∃ m, IsLast m ∧ markdown (front ++ n) = front ++ m := by
  unfold markdown withExtension
  rw [split?_append hfront hn]
  by_cases hup : n = ['.', '.']
  · rw [if_pos hup]
    dsimp only
    rw [List.length_nil, Nat.sub_zero, List.take_length, split?_append hfront hn, if_pos hup]
    exact ⟨n, hn, rfl⟩
  · rw [if_neg hup]
    dsimp only
    obtain ⟨hle, hlast⟩ := isLast_dropExtension hn
    have htake : (front ++ n).take ((front ++ n).length - (extension n).length) =
        front ++ n.take (n.length - (extension n).length) := by
      rw [List.length_append, Nat.add_sub_assoc hle, List.take_length_add_append]
    rw [htake, split?_append hfront hlast]
    by_cases hup' : n.take (n.length - (extension n).length) = ['.', '.']
    · rw [if_pos hup']
      exact ⟨_, hlast, rfl⟩
    · rw [if_neg hup']
      exact ⟨_, isLast_stem_append hlast, List.append_assoc _ _ _⟩

end FileName

/-! ## Places -/

namespace FileSystem

open FileName

variable {p : Place} {name a b : Text}

/-- The place that a name leads to, if it leads anywhere. -/
def placeOf (name : Text) : Place :=
  (parts name).foldl enter (origin name)

/-- Going up is not going anywhere else. -/
theorem enter_up_ne (p : Place) (hb : b ≠ up) : enter p up ≠ p ++ [b] := by
  intro h
  unfold enter at h
  rw [if_pos rfl] at h
  split at h
  next => exact hb (List.cons.inj (List.append_cancel_left h)).1.symm
  next =>
    split at h
    next => exact hb (List.cons.inj (List.append_cancel_left h)).1.symm
    next =>
      split at h
      next => exact absurd (congrArg List.length h) (by simp)
      next =>
        have hlen := congrArg List.length h
        rw [List.length_dropLast, List.length_append, List.length_singleton] at hlen
        omega

/-- From one place, different parts lead to different places. -/
theorem eq_of_enter_eq (h : enter p a = enter p b) : a = b := by
  have henter : ∀ {c}, c ≠ up → enter p c = p ++ [c] := fun hc => if_neg hc
  by_cases ha : a = up
  · by_cases hb : b = up
    · rw [ha, hb]
    · rw [ha, henter hb] at h
      exact absurd h (enter_up_ne p hb)
  · by_cases hb : b = up
    · rw [hb, henter ha] at h
      exact absurd h.symm (enter_up_ne p ha)
    · rw [henter ha, henter hb] at h
      exact (List.cons.inj (List.append_cancel_left h)).1

/-- The markdown file of a document is another file, unless it has the same name. -/
theorem placeOf_markdown_ne (h : isDirectoryName name = false) (hne : markdown name ≠ name) :
    placeOf (markdown name) ≠ placeOf name := by
  obtain ⟨front, n, rfl, hfront, hn⟩ := exists_last h
  obtain ⟨m, hm, hmarkdown⟩ := markdown_cases hfront hn
  rw [hmarkdown] at hne ⊢
  have hplace : ∀ {n}, IsLast n →
      placeOf (front ++ n) = enter ((parts front).foldl enter (origin front)) n := by
    intro n hn
    unfold placeOf origin
    rw [parts_append hfront hn, isAbsolute_append hfront hn, List.foldl_append]
    rfl
  rw [hplace hn, hplace hm]
  exact fun heq => hne (congrArg (front ++ ·) (eq_of_enter_eq heq))

end FileSystem

end BlockNotes
