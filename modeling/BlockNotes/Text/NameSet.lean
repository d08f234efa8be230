/-!
# Sets of names

A finite set of strings, kept as an ascending list without repetition.  The
order is that of the UTF-8 forms, which is also the order of code points.

The order is part of the type, so equal sets are equal values: `NameSet.ext`.
-/

namespace BlockNotes

/-- A finite set of strings. -/
structure NameSet where
  /-- The members in ascending order. -/
  toList : List String
  /-- The order is strict. -/
  ascending : toList.Pairwise (· < ·)
deriving DecidableEq

namespace NameSet

/-- The empty set. -/
def empty : NameSet := ⟨[], .nil⟩

instance : EmptyCollection NameSet := ⟨empty⟩

instance : Inhabited NameSet := ⟨empty⟩

instance : Repr NameSet := ⟨fun s n => reprPrec s.toList n⟩

instance : Membership String NameSet := ⟨fun s n => n ∈ s.toList⟩

instance (n : String) (s : NameSet) : Decidable (n ∈ s) :=
  inferInstanceAs (Decidable (n ∈ s.toList))

/-! ## Insertion -/

/-- Puts a name into an ascending list, unless it is there. -/
def place (n : String) : List String → List String
  | [] => [n]
  | m :: rest => if n < m then n :: m :: rest else if n = m then m :: rest else m :: place n rest

theorem mem_place {n x : String} {l : List String} : x ∈ place n l ↔ x = n ∨ x ∈ l := by
  induction l with
  | nil => simp [place]
  | cons m rest ih => grind [place]

theorem ascending_place {n : String} {l : List String} (h : l.Pairwise (· < ·)) :
    (place n l).Pairwise (· < ·) := by
  induction l with
  | nil => simp [place]
  | cons m rest ih =>
    rw [List.pairwise_cons] at h
    unfold place
    split
    · next hn =>
      refine .cons (fun x hx => ?_) (.cons h.1 h.2)
      rcases List.mem_cons.1 hx with rfl | hx
      · exact hn
      · exact String.lt_trans hn (h.1 x hx)
    · split
      · exact .cons h.1 h.2
      · refine .cons (fun x hx => ?_) (ih h.2)
        rcases mem_place.1 hx with rfl | hx
        · grind
        · exact h.1 x hx

/-- The set with one more name. -/
def insert (s : NameSet) (n : String) : NameSet :=
  ⟨place n s.toList, ascending_place s.ascending⟩

/-- The set of the names of a list. -/
def ofList (ns : List String) : NameSet :=
  ns.foldl insert empty

/-- Whether the set has no members. -/
def isEmpty (s : NameSet) : Bool :=
  s.toList.isEmpty

@[simp] theorem mem_insert {s : NameSet} {n x : String} : x ∈ s.insert n ↔ x = n ∨ x ∈ s :=
  mem_place

theorem not_mem_empty {x : String} : x ∉ empty :=
  List.not_mem_nil

@[simp] theorem mem_ofList {ns : List String} {x : String} : x ∈ ofList ns ↔ x ∈ ns := by
  have hfold : ∀ s : NameSet, x ∈ ns.foldl insert s ↔ x ∈ s ∨ x ∈ ns := by
    induction ns with
    | nil => simp
    | cons n ns ih =>
      intro s
      rw [List.foldl_cons, ih, mem_insert, List.mem_cons, or_comm (a := x = n), or_assoc]
  rw [ofList, hfold, or_iff_right not_mem_empty]

/-! ## Equality -/

theorem eq_of_ascending {a b : List String} (ha : a.Pairwise (· < ·)) (hb : b.Pairwise (· < ·))
    (h : ∀ x, x ∈ a ↔ x ∈ b) : a = b := by
  induction a generalizing b with
  | nil => exact (List.eq_nil_iff_forall_not_mem.2 fun x hx => by simpa using (h x).2 hx).symm
  | cons m a ih =>
    cases b with
    | nil => exact absurd ((h m).1 List.mem_cons_self) (by simp)
    | cons k b =>
      rw [List.pairwise_cons] at ha hb
      have hmk : m = k := by
        have h1 := (h m).1 List.mem_cons_self
        have h2 := (h k).2 List.mem_cons_self
        grind
      subst hmk
      congr 1
      refine ih ha.2 hb.2 fun x => ⟨fun hx => ?_, fun hx => ?_⟩
      · have h1 := (h x).1 (List.mem_cons_of_mem _ hx)
        have h2 := ha.1 x hx
        grind
      · have h1 := (h x).2 (List.mem_cons_of_mem _ hx)
        have h2 := hb.1 x hx
        grind

/-- Sets with the same members are equal. -/
theorem ext {s t : NameSet} (h : ∀ x, x ∈ s ↔ x ∈ t) : s = t := by
  cases s with
  | mk a ha =>
    cases t with
    | mk b hb =>
      congr 1
      exact eq_of_ascending ha hb h

example : (ofList ["b", "a", "b"]).toList = ["a", "b"] := by decide

end NameSet

end BlockNotes
