import BlockNotes.Proofs.Document.Characters
import Mathlib.Data.List.SplitBy

/-!
# Characters and their normal leaves

Normal leaves are not only one way to set their characters: they are the only one.  Where
there are characters, the leaves are the runs of characters with equal marks
(`Leaf.AreNormal.eq_ofRuns`), so normal leaves with the same characters are the same
(`Leaf.AreNormal.eq_of_marked_eq`).  Where there are none, one empty leaf is left, and its
marks are all that remains of what was there.

So a leaf that was cut in two is whole again when both parts of the list, each brought
into normal form by itself, are put together (`Leaf.AreNormal.normalize_cut`): at the
start and at the end of the list and between two leaves as well as within one.
-/

namespace BlockNotes

namespace Leaf

variable {ls ks xs ys : List Leaf} {l : Leaf} {a b : Text}

/-! ## Runs of characters -/

/-- The characters of a leaf, each with its marks. -/
def run (l : Leaf) : List (Char × Marks) :=
  l.text.map (·, l.marks)

/-- The leaf with given characters, which have the same marks. -/
def ofRun (r : List (Char × Marks)) : Leaf :=
  ⟨r.map Prod.fst, (r.head?.map Prod.snd).getD {}⟩

/-- The marks of two characters are the same. -/
def sameMarks (x y : Char × Marks) : Bool :=
  decide (x.2 = y.2)

theorem marks_of_mem_run {x : Char × Marks} (h : x ∈ l.run) : x.2 = l.marks := by
  obtain ⟨c, -, rfl⟩ := List.mem_map.mp h
  rfl

theorem run_ne_nil (h : l.text ≠ []) : l.run ≠ [] := by
  rwa [run, Ne, List.map_eq_nil_iff]

theorem ofRun_run (h : l.text ≠ []) : ofRun l.run = l := by
  obtain ⟨text, marks⟩ := l
  obtain ⟨c, text, rfl⟩ := List.exists_cons_of_ne_nil h
  simp [ofRun, run, Function.comp_def]

/-- Normal leaves with text are the runs of their characters with equal marks. -/
theorem AreNormal.splitBy_marked (h : AreNormal ls) (hne : ∀ l ∈ ls, l.text ≠ []) :
    (marked ls).splitBy sameMarks = ls.map run := by
  have hflatten : marked ls = (ls.map run).flatten := List.flatMap_def
  rw [hflatten]
  refine List.splitBy_flatten ?_ ?_ ?_
  · intro hnil
    obtain ⟨l, hl, hrun⟩ := List.mem_map.mp hnil
    exact run_ne_nil (hne l hl) hrun
  · intro r hr
    obtain ⟨l, -, rfl⟩ := List.mem_map.mp hr
    refine List.Pairwise.isChain (List.pairwise_of_forall_mem_list fun x hx y hy => ?_)
    exact decide_eq_true ((marks_of_mem_run hx).trans (marks_of_mem_run hy).symm)
  · rw [List.isChain_map]
    refine h.marks_ne.imp_of_mem_imp fun l k hl hk hmarks => ?_
    refine ⟨run_ne_nil (hne l hl), run_ne_nil (hne k hk), decide_eq_false ?_⟩
    rwa [marks_of_mem_run (List.getLast_mem _), marks_of_mem_run (List.head_mem _)]

theorem AreNormal.eq_ofRuns (h : AreNormal ls) (hne : marked ls ≠ []) :
    ls = ((marked ls).splitBy sameMarks).map ofRun := by
  have htext : ∀ l ∈ ls, l.text ≠ [] := by
    intro l hl hempty
    rw [h.alone l hl hempty, marked_cons, hempty] at hne
    exact hne rfl
  rw [h.splitBy_marked htext, List.map_map]
  exact ((List.map_congr_left fun l hl => ofRun_run (htext l hl)).trans (List.map_id ls)).symm

/-- Normal leaves with the same characters are the same, if there are any characters. -/
theorem AreNormal.eq_of_marked_eq (h : AreNormal ls) (hk : AreNormal ks)
    (hmarked : marked ls = marked ks) (hne : marked ls ≠ []) : ls = ks := by
  rw [h.eq_ofRuns hne, hk.eq_ofRuns (hmarked ▸ hne), hmarked]

/-! ## The canonical form -/

/-- Leaves with the same characters have the same normal form, if there are any characters. -/
theorem normalize_congr (hmarked : marked ls = marked ks) (hne : marked ls ≠ []) :
    normalize ls = normalize ks := by
  refine (areNormal_normalize ls).1.eq_of_marked_eq (areNormal_normalize ks).1 ?_ ?_
  · rw [marked_normalize, marked_normalize, hmarked]
  · rwa [marked_normalize]

/-- The normal form of leaves has their characters and is normal, and it is its own normal form.
Leaves with characters have the normal form of others exactly if they have the characters of them. -/
theorem normalize_canonical (ls : List Leaf) :
    marked (normalize ls) = marked ls ∧
      normalize ls ≠ [] ∧
      (∀ l ∈ normalize ls, l.text = [] → normalize ls = [l]) ∧
      (normalize ls).IsChain (fun a b => a.marks ≠ b.marks) ∧
      normalize (normalize ls) = normalize ls ∧
      ∀ ks, marked ls ≠ [] → (normalize ls = normalize ks ↔ marked ls = marked ks) := by
  obtain ⟨hnormal, hne⟩ := areNormal_normalize ls
  refine ⟨marked_normalize ls, hne, hnormal.alone, hnormal.marks_ne, hnormal.normalize_eq hne, ?_⟩
  intro ks hchars
  refine ⟨fun heq => ?_, fun hmarked => normalize_congr hmarked hchars⟩
  rw [← marked_normalize ls, heq, marked_normalize]

/-- An empty bold leaf between two leaves goes away, and so does an empty one in front: what is left
is the same leaf. -/
theorem normalize_canonical_joined :
    let ls : List Leaf := [⟨['a'], {}⟩, ⟨[], { bold := true }⟩, ⟨['b'], {}⟩]
    let ks : List Leaf := [⟨[], { code := true }⟩, ⟨['a', 'b'], {}⟩]
    marked ls ≠ [] ∧ marked ls = marked ks ∧ normalize ls = normalize ks ∧
      normalize ks = [⟨['a', 'b'], {}⟩] ∧ normalize (normalize ls) = normalize ls := by
  intro ls ks
  have hne : marked ls ≠ [] := by decide
  have hmarked : marked ls = marked ks := by decide
  obtain ⟨-, -, -, -, hidem, hunique⟩ := normalize_canonical ls
  exact ⟨hne, hmarked, (hunique ks hne).mpr hmarked, by decide, hidem⟩

/-! ## Cuts -/

/-- Normal leaves without characters are a single leaf. -/
theorem AreNormal.eq_singleton (h : AreNormal (xs ++ l :: ys))
    (hempty : marked (xs ++ l :: ys) = []) : xs = [] ∧ ys = [] ∧ l.text = [] := by
  rw [marked_append, marked_cons, List.append_eq_nil_iff, List.append_eq_nil_iff,
    List.map_eq_nil_iff] at hempty
  have halone := congrArg List.length (h.alone l (by simp) hempty.2.1)
  rw [List.length_append, List.length_cons, List.length_singleton] at halone
  exact ⟨List.length_eq_zero_iff.mp (by omega), List.length_eq_zero_iff.mp (by omega), hempty.2.1⟩

/-- Normal leaves of which one was cut in two are what they were when both parts, each in normal
form, are put together. -/
theorem AreNormal.normalize_cut (h : AreNormal (xs ++ l :: ys)) (hab : l.text = a ++ b) :
    normalize (normalize (xs ++ [{ l with text := a }]) ++ normalize ({ l with text := b } :: ys)) =
      xs ++ l :: ys := by
  have hmarked : marked (normalize (normalize (xs ++ [{ l with text := a }]) ++
      normalize ({ l with text := b } :: ys))) = marked (xs ++ l :: ys) := by
    simp [marked_normalize, hab]
  by_cases hempty : marked (xs ++ l :: ys) = []
  · -- The marks of the one leaf are kept on both sides of the cut.
    obtain ⟨rfl, rfl, htext⟩ := h.eq_singleton hempty
    obtain ⟨rfl, rfl⟩ := List.append_eq_nil_iff.mp (hab.symm.trans htext)
    obtain ⟨text, marks⟩ := l
    cases htext
    simp [normalize, Leaf.append]
  · have hnormal := (areNormal_normalize (normalize (xs ++ [{ l with text := a }]) ++
      normalize ({ l with text := b } :: ys))).1
    exact hnormal.eq_of_marked_eq h hmarked (hmarked ▸ hempty)

end Leaf

end BlockNotes
