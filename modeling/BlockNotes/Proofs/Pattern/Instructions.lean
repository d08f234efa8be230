import BlockNotes.Proofs.Pattern.Preferred
import BlockNotes.Text.Basic

/-!
# What comes of an instruction

What comes of a way at a position is a matter of the instruction at its label and of the
text from the position on.  A loop over one set is two instructions.  It tries how many
characters it takes, the most first if it is greedy (`greedily`) and the fewest first if
it is not (`lazily`).
-/

namespace BlockNotes.Pattern

/-! ## Stretches of characters -/

section

variable {α β : Type} {s : Char → Bool} {c : Char} {rest : Text}

theorem drop_succ {t : Text} {position : Nat} (h : t.drop position = c :: rest) :
    t.drop (position + 1) = rest := by
  rw [← List.drop_drop, h, List.drop_one, List.tail_cons]

/-- The first outcome for a number of characters from the start of a text, the most first. -/
def greedily (s : Char → Bool) : Text → (Nat → Option α) → Option α
  | [], f => f 0
  | c :: rest, f => if s c then (greedily s rest fun n => f (n + 1)).or (f 0) else f 0

/-- The first outcome for a number of characters from the start of a text, the fewest first. -/
def lazily (s : Char → Bool) : Text → (Nat → Option α) → Option α
  | [], f => f 0
  | c :: rest, f => (f 0).or (if s c then lazily s rest fun n => f (n + 1) else none)

theorem map_greedily (g : α → β) (rest : Text) (f : Nat → Option α) :
    (greedily s rest f).map g = greedily s rest fun n => (f n).map g := by
  induction rest generalizing f with
  | nil => rfl
  | cons c rest ih =>
    rw [greedily, greedily, ← ih]
    split
    next => exact Option.map_or
    next => rfl

/-- Taking characters up to the end of a text. -/
theorem greedily_end (rest : Text) (g : Nat → α) :
    (greedily s rest fun n => if rest.drop n = [] then some (g n) else none) =
      if rest.all s then some (g rest.length) else none := by
  induction rest generalizing g with
  | nil => rfl
  | cons c rest ih =>
    rw [greedily, List.all_cons]
    simp only [List.drop_succ_cons, List.drop_zero, reduceCtorEq, if_false, Option.or_none,
      List.length_cons]
    rw [ih fun n => g (n + 1)]
    cases s c with
    | true => rfl
    | false => rfl

theorem map_lazily (g : α → β) (rest : Text) (f : Nat → Option α) :
    (lazily s rest f).map g = lazily s rest fun n => (f n).map g := by
  induction rest generalizing f with
  | nil => rfl
  | cons c rest ih =>
    rw [lazily, lazily, ← ih, Option.map_or]
    split
    next => rfl
    next => rfl

end

namespace Program.Falls

variable {p : Program} (hp : p.Falls) {t : Text} {position : Nat} {w : Way}

/-! ## Instructions -/

theorem prefer_accept (h : p.code[w.label]? = some .accept) (t : Text) (position : Nat) :
    hp.prefer t.toArray position w = some (w, position) := by
  rw [prefer_eq, accepts, h, if_pos rfl]

theorem prefer_consume {s : Unicode.CharSet} {next : Nat}
    (h : p.code[w.label]? = some (.consume s next)) (t : Text) (position : Nat) :
    hp.prefer t.toArray position w =
      match t.drop position with
      | [] => none
      | c :: _ =>
        if s.contains c then hp.prefer t.toArray (position + 1) { w with label := next }
        else none := by
  have hwaits : p.waits w.label = true := by rw [waits, h]
  have haccepts : p.accepts w.label = false := by rw [accepts, h]
  rw [hp.prefer_of_waits _ hwaits, haccepts, if_neg Bool.false_ne_true, List.getElem?_toArray,
    ← List.head?_drop]
  unfold move?
  rw [h]
  cases t.drop position with
  | nil => rfl
  | cons c rest =>
    dsimp only [List.head?_cons]
    split <;> rfl

theorem prefer_check {a : Assertion} {next : Nat} (h : p.code[w.label]? = some (.check a next))
    (t : Text) (position : Nat) :
    hp.prefer t.toArray position w =
      if a.holds (charBefore t.toArray position) (t.drop position).head? then
        hp.prefer t.toArray position { w with label := next }
      else none := by
  have hwaits : p.waits w.label = false := by rw [waits, h]
  rw [hp.prefer_of_not_waits _ hwaits, branches, exits, noted, h, List.getElem?_toArray,
    ← List.head?_drop]
  dsimp only
  split
  next => exact hp.first_singleton _ _ _
  next => rfl

theorem prefer_fork {x y : Nat} (h : p.code[w.label]? = some (.fork x y)) (t : Text)
    (position : Nat) :
    hp.prefer t.toArray position w =
      (hp.prefer t.toArray position { w with label := x }).or
        (hp.prefer t.toArray position { w with label := y }) := by
  have hwaits : p.waits w.label = false := by rw [waits, h]
  rw [hp.prefer_of_not_waits _ hwaits, branches, exits, noted, h, ← hp.first_singleton _ _ (_ : Way),
    ← hp.first_singleton, ← hp.first_append]
  rfl

theorem prefer_open {next : Nat} (h : p.code[w.label]? = some (.mark true next)) (t : Text)
    (position : Nat) :
    hp.prefer t.toArray position w =
      hp.prefer t.toArray position { w with label := next, opened := some position } := by
  have hwaits : p.waits w.label = false := by rw [waits, h]
  rw [hp.prefer_of_not_waits _ hwaits, branches, exits, noted, h]
  exact hp.first_singleton _ _ _

theorem prefer_close {next : Nat} (h : p.code[w.label]? = some (.mark false next)) (t : Text)
    (position : Nat) :
    hp.prefer t.toArray position w =
      hp.prefer t.toArray position { w with label := next, closed := some position } := by
  have hwaits : p.waits w.label = false := by rw [waits, h]
  rw [hp.prefer_of_not_waits _ hwaits, branches, exits, noted, h]
  exact hp.first_singleton _ _ _

/-! ## Loops -/

/-- A loop that prefers another character over its end. -/
theorem prefer_greedy {s : Unicode.CharSet} {body next : Nat}
    (hfork : p.code[w.label]? = some (.fork body next))
    (hbody : p.code[body]? = some (.consume s w.label)) (t : Text) (position : Nat) :
    hp.prefer t.toArray position w = greedily s.contains (t.drop position) fun n =>
      hp.prefer t.toArray (position + n) { w with label := next } := by
  generalize hrest : t.drop position = rest
  induction rest generalizing position with
  | nil =>
    rw [hp.prefer_fork hfork, hp.prefer_consume (w := { w with label := body }) hbody, hrest]
    rfl
  | cons c rest ih =>
    rw [hp.prefer_fork hfork, hp.prefer_consume (w := { w with label := body }) hbody, hrest, greedily]
    dsimp only
    split
    next =>
      rw [ih _ (drop_succ hrest)]
      simp only [Nat.add_assoc, Nat.add_comm 1]
      rfl
    next => rfl

/-- A loop behind which the text has to end. -/
theorem prefer_greedy_end {s : Unicode.CharSet} {body next : Nat} {f : Nat → Way × Nat}
    (hfork : p.code[w.label]? = some (.fork body next))
    (hbody : p.code[body]? = some (.consume s w.label))
    (hend : ∀ n, hp.prefer t.toArray n { w with label := next } =
      if t.drop n = [] then some (f n) else none) (position : Nat) :
    hp.prefer t.toArray position w =
      if (t.drop position).all s.contains then some (f (position + (t.drop position).length))
      else none := by
  rw [hp.prefer_greedy hfork hbody, ← greedily_end (t.drop position) fun n => f (position + n)]
  congr 1
  funext n
  rw [hend, List.drop_drop]

/-- A loop that prefers its end. -/
theorem prefer_lazy {s : Unicode.CharSet} {body next : Nat}
    (hfork : p.code[w.label]? = some (.fork next body))
    (hbody : p.code[body]? = some (.consume s w.label)) (t : Text) (position : Nat) :
    hp.prefer t.toArray position w = lazily s.contains (t.drop position) fun n =>
      hp.prefer t.toArray (position + n) { w with label := next } := by
  generalize hrest : t.drop position = rest
  induction rest generalizing position with
  | nil =>
    rw [hp.prefer_fork hfork, hp.prefer_consume (w := { w with label := body }) hbody, hrest, Option.or_none]
    rfl
  | cons c rest ih =>
    rw [hp.prefer_fork hfork, hp.prefer_consume (w := { w with label := body }) hbody, hrest, lazily]
    dsimp only
    split
    next =>
      rw [ih _ (drop_succ hrest)]
      simp only [Nat.add_assoc, Nat.add_comm 1]
      rfl
    next => rfl

/-! ## Matches at the start -/

/-- What can start only where the text does is looked for there. -/
theorem find?_of_textStart {next : Nat}
    (h : p.code[p.entry]? = some (.check .textStart next)) (t : Text) :
    p.find? t.toArray 0 = (hp.prefer t.toArray 0 (p.entering 0)).bind fun (w, stop) =>
      matchOf? t.toArray.size 0 w stop := by
  have hlater : hp.starts t.toArray 1 t.toArray.size = none := by
    refine List.findSome?_eq_none_iff.mpr fun q hq => ?_
    obtain ⟨hpos, hlt⟩ := List.mem_range'_1.mp hq
    have hbefore : charBefore t.toArray q = some t.toArray[q - 1] := by
      rw [charBefore, if_neg (by omega), Array.getElem?_eq_getElem (by omega)]
    rw [hp.prefer_check (w := p.entering q) h, hbefore]
    rfl
  rw [hp.find?_eq _ (Nat.zero_le _), Nat.sub_zero, starts_succ, hlater, Option.or_none]

end Program.Falls

end BlockNotes.Pattern
