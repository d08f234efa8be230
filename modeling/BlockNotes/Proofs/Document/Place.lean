import BlockNotes.Document.Tree

/-!
# Places in a tree

What it means to change the tree at one place and to look at it at another.

*Focus.*  `Node.Focus ns p cs put` says that `p` leads from the nodes `ns` to a
block whose children are `cs`, and that `put` puts other children there.  It has
one constructor for the end of a path and one for a step of it, so everything
about `Node.setChildren` is an induction on the path in which both sides are
lists with a block in the middle (`Node.focus_setChildren`).

*Frame.*  A path that branches off to the left of a place does not see what is
done at that place (`Node.blockAt?_setChildren_of_before`).  Most edits only need
this direction: they change a document from its end to its start.  A path to the
right does not see a change inside of the block at the place
(`Node.blockAt?_setChildren_of_after`).
-/

namespace BlockNotes

/-! ## The last index of a path -/

namespace Path

@[simp] theorem split?_concat (p : Path) (i : Nat) : split? (p ++ [i]) = some (p, i) := by
  induction p with
  | nil => rfl
  | cons j p ih =>
    cases p with
    | nil => rfl
    | cons k p =>
      rw [List.cons_append, List.cons_append, split?, ← List.cons_append, ih]
      · rfl
      · intro h
        cases h

theorem eq_concat_of_split? {path parent : Path} {i : Nat} (h : path.split? = some (parent, i)) :
    path = parent ++ [i] := by
  rcases List.eq_nil_or_concat path with rfl | ⟨p, j, rfl⟩
  · cases h
  · rw [List.concat_eq_append] at h ⊢
    rw [split?_concat] at h
    cases h
    rfl

/-- One path branches off to the left of another. -/
def Before (p q : Path) : Prop :=
  ∃ (common : Path) (i j : Nat) (p' q' : Path),
    i < j ∧ p = common ++ i :: p' ∧ q = common ++ j :: q'

theorem Before.cons {p q : Path} (h : Before p q) (k : Nat) : Before (k :: p) (k :: q) := by
  obtain ⟨common, i, j, p', q', hij, rfl, rfl⟩ := h
  exact ⟨k :: common, i, j, p', q', hij, rfl, rfl⟩

theorem before_of_lt {i j : Nat} (h : i < j) (p q : Path) : Before (i :: p) (j :: q) :=
  ⟨[], i, j, p, q, h, rfl, rfl⟩

theorem Before.append_right {p q : Path} (h : Before p q) (r : Path) : Before p (q ++ r) := by
  obtain ⟨common, i, j, p', q', hij, rfl, rfl⟩ := h
  exact ⟨common, i, j, p', q' ++ r, hij, rfl, by simp⟩

theorem Before.append_left {p q : Path} (h : Before p q) (r : Path) : Before (p ++ r) q := by
  obtain ⟨common, i, j, p', q', hij, rfl, rfl⟩ := h
  exact ⟨common, i, j, p' ++ r, q', hij, by simp, rfl⟩

theorem Before.lt {p q : Path} (h : Before p q) : p < q := by
  obtain ⟨common, i, j, p', q', hij, rfl, rfl⟩ := h
  exact List.append_left_lt (List.cons_lt_cons_iff.mpr (.inl hij))

theorem concat_lt_concat_iff {p : Path} {i j : Nat} : p ++ [i] < p ++ [j] ↔ i < j := by
  induction p with
  | nil => simp [List.cons_lt_cons_iff]
  | cons k p ih => simpa [List.cons_lt_cons_iff] using ih

theorem before_cons_cons {i j : Nat} {p q : Path} :
    Before (i :: p) (j :: q) ↔ i < j ∨ i = j ∧ Before p q := by
  constructor
  · rintro ⟨common, a, b, p', q', hab, hp, hq⟩
    cases common with
    | nil =>
      cases hp
      cases hq
      exact .inl hab
    | cons k common =>
      cases hp
      cases hq
      exact .inr ⟨rfl, common, a, b, p', q', hab, rfl, rfl⟩
  · rintro (h | ⟨rfl, h⟩)
    · exact before_of_lt h p q
    · exact h.cons i

theorem not_before_nil (p : Path) : ¬ Before p [] := by
  rintro ⟨common, i, j, p', q', -, -, hq⟩
  cases common <;> cases hq

theorem Before.ne_nil {p q : Path} (h : Before p q) : p ≠ [] := by
  obtain ⟨common, i, j, p', q', -, rfl, -⟩ := h
  cases common <;> simp

end Path

namespace Node

/-! ## Looking at a place -/

theorem blockAt?_cons (ns : List Node) (i : Nat) (p : Path) :
    blockAt? ns (i :: p) =
      (ns[i]?.bind Node.block?).bind fun b => if p = [] then some b else blockAt? b.children p := by
  rw [blockAt?]
  cases ns[i]? with
  | none => rfl
  | some n =>
    cases n with
    | leaf l => rfl
    | block b => cases p <;> rfl

theorem childrenAt?_cons (ns : List Node) (i : Nat) (p : Path) :
    childrenAt? ns (i :: p) = (ns[i]?.bind Node.block?).bind fun b => childrenAt? b.children p := by
  rw [childrenAt?, blockAt?_cons]
  · cases ns[i]?.bind Node.block? with
    | none => rfl
    | some b => cases p <;> rfl
  · intro h
    cases h

theorem childrenAt?_of_blockAt? {ns : List Node} {p : Path} {b : Block}
    (h : blockAt? ns p = some b) : childrenAt? ns p = some b.children := by
  cases p with
  | nil => cases h
  | cons i p => rw [childrenAt?, h, Option.map_some]; intro h; cases h

theorem exists_blockAt?_of_childrenAt? {ns cs : List Node} {p : Path}
    (h : childrenAt? ns p = some cs) (hp : p ≠ []) :
    ∃ b, blockAt? ns p = some b ∧ b.children = cs := by
  cases p with
  | nil => exact absurd rfl hp
  | cons i p => exact Option.map_eq_some_iff.mp h

theorem blockAt?_append (ns : List Node) (p : Path) (i : Nat) (q : Path) :
    blockAt? ns (p ++ i :: q) = (childrenAt? ns p).bind fun cs => blockAt? cs (i :: q) := by
  induction p generalizing ns with
  | nil => rfl
  | cons j p ih =>
    rw [List.cons_append, blockAt?_cons, childrenAt?_cons]
    cases ns[j]?.bind Node.block? with
    | none => rfl
    | some b =>
      rw [Option.bind_some, Option.bind_some, if_neg (by simp)]
      exact ih b.children

theorem blockAt?_singleton (ns : List Node) (i : Nat) :
    blockAt? ns [i] = ns[i]?.bind Node.block? := by
  rw [blockAt?_cons]
  cases ns[i]?.bind Node.block? <;> rfl

theorem exists_split_of_getElem? {ns : List Node} {i : Nat} {n : Node} (h : ns[i]? = some n) :
    ∃ front back, ns = front ++ n :: back ∧ front.length = i := by
  obtain ⟨hi, hget⟩ := List.getElem?_eq_some_iff.mp h
  refine ⟨ns.take i, ns.drop (i + 1), ?_, ?_⟩
  · rw [← hget, List.getElem_cons_drop hi, List.take_append_drop]
  · rw [List.length_take]
    omega

theorem exists_split_of_block? {ns : List Node} {i : Nat} {b : Block}
    (h : ns[i]?.bind Node.block? = some b) :
    ∃ front back, ns = front ++ .block b :: back ∧ front.length = i := by
  cases hn : ns[i]? with
  | none => rw [hn] at h; cases h
  | some n =>
    cases n with
    | leaf l => rw [hn] at h; cases h
    | block b' =>
      rw [hn] at h
      cases h
      exact exists_split_of_getElem? hn

/-- The block at a path stands among the children at its parent. -/
theorem exists_siblings_of_blockAt? {ns : List Node} {path : Path} {b : Block}
    (h : blockAt? ns path = some b) :
    ∃ parent front back, path = parent ++ [front.length] ∧
      childrenAt? ns parent = some (front ++ .block b :: back) := by
  rcases List.eq_nil_or_concat path with rfl | ⟨parent, i, rfl⟩
  · cases h
  · rw [List.concat_eq_append] at h ⊢
    rw [blockAt?_append] at h
    cases hcs : childrenAt? ns parent with
    | none => rw [hcs] at h; cases h
    | some cs =>
      rw [hcs, Option.bind_some, blockAt?_singleton] at h
      obtain ⟨front, back, rfl, rfl⟩ := exists_split_of_block? h
      exact ⟨parent, front, back, rfl, hcs⟩

theorem blockAt?_of_childrenAt? {ns front back : List Node} {parent : Path} {b : Block}
    (h : childrenAt? ns parent = some (front ++ .block b :: back)) :
    blockAt? ns (parent ++ [front.length]) = some b := by
  rw [blockAt?_append, h, Option.bind_some, blockAt?_singleton]
  simp [block?]

/-! ## Changing a place -/

/-- A path leads from nodes to children, and `put` puts other children in their place. -/
inductive Focus : List Node → Path → List Node → (List Node → List Node) → Prop where
  /-- The nodes themselves. -/
  | here (ns : List Node) : Focus ns [] ns id
  /-- A step into a block. -/
  | step (front back : List Node) (b : Block) {p : Path} {cs : List Node}
      {put : List Node → List Node} (below : Focus b.children p cs put) :
      Focus (front ++ .block b :: back) (front.length :: p) cs fun new =>
        front ++ .block { b with children := put new } :: back

theorem modify_length_append (front back : List Node) (n : Node) (f : Node → Node) :
    (front ++ n :: back).modify front.length f = front ++ f n :: back := by
  induction front with
  | nil => rfl
  | cons m front ih => rw [List.cons_append, List.length_cons, List.modify_succ_cons, ih]; rfl

theorem setChildren_cons (front back : List Node) (b : Block) (p : Path) (new : List Node) :
    setChildren (front ++ .block b :: back) (front.length :: p) new =
      front ++ .block { b with children := setChildren b.children p new } :: back := by
  rw [setChildren, modify_length_append]

/-- Where a path leads to children, putting others there is a focus. -/
theorem focus_setChildren {ns : List Node} {p : Path} {cs : List Node}
    (h : childrenAt? ns p = some cs) : Focus ns p cs (setChildren ns p) := by
  induction p generalizing ns with
  | nil =>
    cases h
    exact .here _
  | cons i p ih =>
    rw [childrenAt?_cons] at h
    cases hb : ns[i]?.bind Node.block? with
    | none => rw [hb] at h; cases h
    | some b =>
      rw [hb] at h
      obtain ⟨front, back, rfl, rfl⟩ := exists_split_of_block? hb
      have hput : setChildren (front ++ .block b :: back) (front.length :: p) = fun new =>
          front ++ .block { b with children := setChildren b.children p new } :: back := by
        funext new
        exact setChildren_cons front back b p new
      rw [hput]
      exact .step front back b (ih h)

/-- What was put at a place is found there. -/
theorem Focus.childrenAt?_put {ns : List Node} {p : Path} {cs : List Node}
    {put : List Node → List Node} (h : Focus ns p cs put) (new : List Node) :
    childrenAt? (put new) p = some new := by
  induction h with
  | here ns => rfl
  | step front back b below ih =>
    rw [childrenAt?_cons]
    simpa [Node.block?] using ih

theorem childrenAt?_setChildren {ns : List Node} {p : Path} {cs : List Node}
    (h : childrenAt? ns p = some cs) (new : List Node) :
    childrenAt? (setChildren ns p new) p = some new :=
  (focus_setChildren h).childrenAt?_put new

theorem blockAt?_setChildren_self {ns : List Node} {p : Path} {b : Block}
    (h : blockAt? ns p = some b) (new : List Node) :
    blockAt? (setChildren ns p new) p = some { b with children := new } := by
  induction p generalizing ns b with
  | nil => cases h
  | cons i p ih =>
    rw [blockAt?_cons] at h
    cases hb : ns[i]?.bind Node.block? with
    | none => rw [hb] at h; cases h
    | some c =>
      rw [hb, Option.bind_some] at h
      obtain ⟨front, back, rfl, rfl⟩ := exists_split_of_block? hb
      rw [setChildren_cons, blockAt?_cons]
      simp only [List.getElem?_append_right (Nat.le_refl _), Nat.sub_self, List.getElem?_cons_zero,
        Option.bind_some, Node.block?]
      split at h
      next hp =>
        cases h
        rw [if_pos hp, hp]
        rfl
      next hp =>
        rw [if_neg hp]
        exact ih h

/-- The second change at a place is the one that counts. -/
theorem setChildren_setChildren {ns : List Node} {p : Path} {cs : List Node}
    (h : childrenAt? ns p = some cs) (old new : List Node) :
    setChildren (setChildren ns p old) p new = setChildren ns p new := by
  induction p generalizing ns with
  | nil => rfl
  | cons i p ih =>
    rw [childrenAt?_cons] at h
    cases hb : ns[i]?.bind Node.block? with
    | none => rw [hb] at h; cases h
    | some b =>
      rw [hb] at h
      obtain ⟨front, back, rfl, rfl⟩ := exists_split_of_block? hb
      rw [setChildren_cons, setChildren_cons, setChildren_cons, ih h]

theorem setChildren_append {ns : List Node} {p : Path} {cs : List Node}
    (h : childrenAt? ns p = some cs) (q : Path) (new : List Node) :
    setChildren ns (p ++ q) new = setChildren ns p (setChildren cs q new) := by
  induction p generalizing ns with
  | nil =>
    cases h
    rfl
  | cons i p ih =>
    rw [childrenAt?_cons] at h
    cases hb : ns[i]?.bind Node.block? with
    | none => rw [hb] at h; cases h
    | some b =>
      rw [hb] at h
      obtain ⟨front, back, rfl, rfl⟩ := exists_split_of_block? hb
      rw [List.cons_append, setChildren_cons, setChildren_cons, ih h]

/-- A change of the children of a block, seen from its parent. -/
theorem setChildren_concat {ns front back : List Node} {parent : Path} {b : Block}
    (h : childrenAt? ns parent = some (front ++ .block b :: back)) (new : List Node) :
    setChildren ns (parent ++ [front.length]) new =
      setChildren ns parent (front ++ .block { b with children := new } :: back) := by
  rw [setChildren_append h, setChildren_cons]
  rfl

theorem setBlock_concat {ns front back : List Node} {parent : Path} {b : Block}
    (h : childrenAt? ns parent = some (front ++ .block b :: back)) (new : Block) :
    setBlock new ns (parent ++ [front.length]) =
      setChildren ns parent (front ++ .block new :: back) := by
  induction parent generalizing ns with
  | nil =>
    cases h
    exact modify_length_append front back (.block b) _
  | cons i p ih =>
    rw [childrenAt?_cons] at h
    cases hc : ns[i]?.bind Node.block? with
    | none => rw [hc] at h; cases h
    | some c =>
      rw [hc] at h
      obtain ⟨above, below, rfl, rfl⟩ := exists_split_of_block? hc
      rw [List.cons_append, setBlock, modify_length_append, setChildren_cons, ← ih h]
      cases p <;> rfl

/-! ## Lists of children -/

theorem removeAt?_append (front back : List Node) (n : Node) :
    removeAt? (front ++ n :: back) front.length = some (n, front ++ back) := by
  rw [removeAt?, List.getElem?_append_right (Nat.le_refl _), Nat.sub_self,
    List.eraseIdx_append_of_length_le (Nat.le_refl _), Nat.sub_self]
  rfl

theorem splice?_append (front old back new : List Node) :
    splice? (front ++ old ++ back) front.length (front.length + old.length) new =
      some (front ++ new ++ back) := by
  rw [splice?, if_pos (by simp), ← List.length_append, List.drop_left, List.append_assoc front old,
    List.take_left]

theorem splice?_insert (front back new : List Node) :
    splice? (front ++ back) front.length front.length new = some (front ++ new ++ back) := by
  simpa using splice?_append front [] back new

theorem splice?_replace (front back new : List Node) (n : Node) :
    splice? (front ++ n :: back) front.length (front.length + 1) new =
      some (front ++ new ++ back) := by
  simpa using splice?_append front [n] back new

theorem splice?_behind (front back new : List Node) (n : Node) :
    splice? (front ++ n :: back) (front.length + 1) (front.length + 1) new =
      some (front ++ ([n] ++ new) ++ back) := by
  simpa using splice?_insert (front ++ [n]) back new

/-! ## Frame -/

/-- A path that branches off to the left of the `k`-th child of a place does not see what
happens to that child and those after it. -/
theorem Focus.blockAt?_put_of_before {ns : List Node} {p : Path} {cs : List Node}
    {put : List Node → List Node} (h : Focus ns p cs put) {new : List Node} {q : Path} {k : Nat}
    (hq : Path.Before q (p ++ [k])) (hfront : new.take k = cs.take k) :
    blockAt? (put new) q = blockAt? ns q := by
  induction h generalizing q with
  | here ns =>
    cases q with
    | nil => rfl
    | cons i q =>
      rcases Path.before_cons_cons.mp hq with hik | ⟨-, hbad⟩
      · have hget : new[i]? = ns[i]? := by
          have := congrArg (·[i]?) hfront
          simpa [List.getElem?_take, hik] using this
        rw [id, blockAt?_cons, blockAt?_cons, hget]
      · exact absurd hbad (Path.not_before_nil q)
  | step front back b below ih =>
    cases q with
    | nil => rfl
    | cons i q =>
      rcases Path.before_cons_cons.mp hq with hi | ⟨rfl, hbelow⟩
      · rw [blockAt?_cons, blockAt?_cons, List.getElem?_append_left hi,
          List.getElem?_append_left hi]
      · rw [blockAt?_cons, blockAt?_cons]
        simp only [List.getElem?_append_right (Nat.le_refl _), Nat.sub_self,
          List.getElem?_cons_zero, Option.bind_some, Node.block?, if_neg hbelow.ne_nil]
        exact ih hbelow hfront

theorem blockAt?_setChildren_of_before {ns : List Node} {p : Path} {cs new : List Node}
    (h : childrenAt? ns p = some cs) {q : Path} {k : Nat} (hq : Path.Before q (p ++ [k]))
    (hfront : new.take k = cs.take k) :
    blockAt? (setChildren ns p new) q = blockAt? ns q :=
  (focus_setChildren h).blockAt?_put_of_before hq hfront

/-- A path that branches off to the right of a block does not see what happens to its children. -/
theorem blockAt?_setChildren_of_after {ns : List Node} {p q : Path} (h : Path.Before p q)
    (new : List Node) : blockAt? (setChildren ns p new) q = blockAt? ns q := by
  induction p generalizing ns q with
  | nil => exact absurd rfl h.ne_nil
  | cons i p ih =>
    cases q with
    | nil => rfl
    | cons j q =>
      rw [setChildren, blockAt?_cons, blockAt?_cons, List.getElem?_modify]
      rcases Path.before_cons_cons.mp h with hij | ⟨rfl, hbelow⟩
      · simp [Nat.ne_of_lt hij]
      · have hq : q ≠ [] := by
          rintro rfl
          exact Path.not_before_nil p hbelow
        cases ns[i]? with
        | none => rfl
        | some n =>
          cases n with
          | leaf l => simp [Node.block?]
          | block b => simp [Node.block?, hq, ih hbelow]

/-- No path leads through a block that holds text. -/
theorem eq_nil_of_blockAt?_append {ns : List Node} {p q : Path} {b c : Block}
    (hb : blockAt? ns p = some b) (htext : b.isTextBlock = true)
    (hc : blockAt? ns (p ++ q) = some c) : q = [] := by
  cases q with
  | nil => rfl
  | cons i q =>
    rw [blockAt?_append, childrenAt?_of_blockAt? hb, Option.bind_some, blockAt?_cons] at hc
    cases hi : b.children[i]? with
    | none => rw [hi] at hc; cases hc
    | some n =>
      have hn : n.isLeaf = true := List.all_eq_true.mp htext n (List.mem_of_getElem? hi)
      cases n with
      | leaf l => rw [hi] at hc; cases hc
      | block d => cases hn

end Node

end BlockNotes
