/-!
# Text and byte offsets

A text is a list of characters.  Positions in documents count the bytes of its
UTF-8 form, so each character is one to four long, and an offset is a
*boundary* if it falls between characters.

`splitAt?` is the one cut: it succeeds exactly at boundaries, and everything
that takes a piece of a text is built on it.  `floorBoundary` and
`ceilBoundary` bring any offset to a boundary.  All recursions follow the list,
so small cases are decided by evaluation.
-/

namespace BlockNotes

/-- A text, as the list of its characters. -/
abbrev Text := List Char

namespace Text

/-! ## Length -/

/-- The number of bytes of a text. -/
def bytes : Text → Nat
  | [] => 0
  | c :: rest => c.utf8Size + bytes rest

@[simp] theorem bytes_nil : bytes [] = 0 := rfl

@[simp] theorem bytes_cons (c : Char) (t : Text) : bytes (c :: t) = c.utf8Size + bytes t := rfl

@[simp] theorem bytes_append (s t : Text) : bytes (s ++ t) = bytes s + bytes t := by
  induction s with
  | nil => simp
  | cons c s ih => simp [ih, Nat.add_assoc]

/-! ## Cuts -/

/-- The text before and after an offset, if the offset is a boundary. -/
def splitAt? : Text → (offset : Nat) → Option (Text × Text)
  | t, 0 => some ([], t)
  | [], _ + 1 => none
  | c :: rest, n + 1 =>
    if n + 1 < c.utf8Size then none
    else (splitAt? rest (n + 1 - c.utf8Size)).map fun (a, b) => (c :: a, b)

/-- Whether an offset falls between two characters or at an end. -/
def isBoundary (t : Text) (offset : Nat) : Bool :=
  (t.splitAt? offset).isSome

/-- The text before a boundary. -/
def take? (t : Text) (offset : Nat) : Option Text :=
  (t.splitAt? offset).map Prod.fst

/-- The text from a boundary on. -/
def drop? (t : Text) (offset : Nat) : Option Text :=
  (t.splitAt? offset).map Prod.snd

/-- The text between two boundaries in order. -/
def slice? (t : Text) (start stop : Nat) : Option Text :=
  (t.take? stop).bind (drop? · start)

/-- The parts of a cut make up the text. -/
theorem append_of_splitAt? {t a b : Text} {n : Nat} (h : t.splitAt? n = some (a, b)) :
    a ++ b = t := by
  fun_induction splitAt? t n generalizing a b with
  | case1 t => simp_all
  | case2 => simp at h
  | case3 => simp at h
  | case4 c rest n hn ih =>
    simp only [Option.map_eq_some_iff, Prod.mk.injEq, Prod.exists] at h
    obtain ⟨a', b', h, rfl, rfl⟩ := h
    simp [ih h]

/-- The first part of a cut is as long as the offset. -/
theorem bytes_of_splitAt? {t a b : Text} {n : Nat} (h : t.splitAt? n = some (a, b)) :
    bytes a = n := by
  fun_induction splitAt? t n generalizing a b with
  | case1 t => simp_all
  | case2 => simp at h
  | case3 => simp at h
  | case4 c rest n hn ih =>
    simp only [Option.map_eq_some_iff, Prod.mk.injEq, Prod.exists] at h
    obtain ⟨a', b', h, rfl, rfl⟩ := h
    simp only [bytes_cons, ih h]
    omega

/-- A text in two parts is cut where the first one ends. -/
@[simp] theorem splitAt?_append (a b : Text) : (a ++ b).splitAt? (bytes a) = some (a, b) := by
  induction a with
  | nil => cases b <;> rfl
  | cons c a ih =>
    have hc := c.utf8Size_pos
    obtain ⟨n, hn⟩ : ∃ n, c.utf8Size + bytes a = n + 1 := ⟨c.utf8Size + bytes a - 1, by omega⟩
    simp only [bytes_cons, List.cons_append, hn, splitAt?]
    rw [if_neg (by omega), show n + 1 - c.utf8Size = bytes a by omega, ih]
    rfl

/-! ## Nearby boundaries -/

/-- The last boundary that is not after an offset. -/
def floorBoundary : Text → (offset : Nat) → Nat
  | [], _ => 0
  | c :: rest, n =>
    if n < c.utf8Size then 0 else c.utf8Size + floorBoundary rest (n - c.utf8Size)

/-- The first boundary that is not before an offset, or the end of the text. -/
def ceilBoundary : Text → (offset : Nat) → Nat
  | [], _ => 0
  | c :: rest, n => if n = 0 then 0 else c.utf8Size + ceilBoundary rest (n - c.utf8Size)

/-! ## Surgery -/

/-- Puts a text in at a boundary. -/
def insert? (t : Text) (offset : Nat) (new : Text) : Option Text :=
  (t.splitAt? offset).map fun (a, b) => a ++ new ++ b

/-- Leaves out the text between two boundaries in order. -/
def erase? (t : Text) (start stop : Nat) : Option Text := do
  let (front, back) ← t.splitAt? stop
  let keep ← front.take? start
  some (keep ++ back)

/-! ## Lines -/

/-- The parts of a text between the occurrences of a character.  There is always one. -/
def split (sep : Char) : Text → List Text
  | [] => [[]]
  | c :: rest =>
    if c = sep then [] :: split sep rest
    else match split sep rest with
      | [] => [[c]]
      | part :: more => (c :: part) :: more

/-- The lines of a text, which line feeds separate.  There is always one. -/
def lines (t : Text) : List Text :=
  t.split '\n'

/-- Lines put together, with line feeds between them. -/
def ofLines : List Text → Text
  | [] => []
  | [line] => line
  | line :: more => line ++ '\n' :: ofLines more

/-- The text before the first occurrence of a character and the text behind it. -/
def cutFirst? (sep : Char) : Text → Option (Text × Text)
  | [] => none
  | c :: rest =>
    if c = sep then some ([], rest) else (cutFirst? sep rest).map fun (a, b) => (c :: a, b)

/-- What stands behind a character is shorter. -/
theorem length_of_cutFirst? {sep : Char} {t a b : Text} (h : t.cutFirst? sep = some (a, b)) :
    b.length < t.length := by
  induction t generalizing a with
  | nil => simp [cutFirst?] at h
  | cons c t ih =>
    unfold cutFirst? at h
    split at h
    · cases h
      simp
    · simp only [Option.map_eq_some_iff, Prod.mk.injEq, Prod.exists] at h
      obtain ⟨a', b', h, -, rfl⟩ := h
      exact Nat.lt_succ_of_lt (ih h)

/-- The text before the last occurrence of a character and the text behind it. -/
def cutLast? (sep : Char) : Text → Option (Text × Text)
  | [] => none
  | c :: rest =>
    match cutLast? sep rest with
    | some (a, b) => some (c :: a, b)
    | none => if c = sep then some ([], rest) else none

/-- The first line of a text. -/
def firstLine (t : Text) : Text :=
  match t.cutFirst? '\n' with
  | some (line, _) => line
  | none => t

/-- The last line of a text. -/
def lastLine (t : Text) : Text :=
  match t.cutLast? '\n' with
  | some (_, line) => line
  | none => t

/-- Whether a text starts with another. -/
def startsWith (t start : Text) : Bool :=
  start.isPrefixOf t

/-- A text without the characters at its end that satisfy a test. -/
def dropEndWhile (t : Text) (test : Char → Bool) : Text :=
  (t.reverse.dropWhile test).reverse

example : bytes ['a', 'é', '日', '😀'] = 10 := by decide
example : splitAt? ['a', 'é', 'b'] 3 = some (['a', 'é'], ['b']) := by decide
example : splitAt? ['a', 'é', 'b'] 2 = none ∧ splitAt? ['a'] 2 = none := by decide
example : floorBoundary ['a', 'é'] 2 = 1 ∧ ceilBoundary ['a', 'é'] 2 = 3 := by decide
example : cutLast? '\n' ['a', '\n', 'b', '\n', 'c'] = some (['a', '\n', 'b'], ['c']) := by decide
example : lines ['a', '\n', 'b', '\n'] = [['a'], ['b'], []] := by decide

end Text

end BlockNotes
