/-!
# Sets of characters

A set of characters is kept as closed ranges of code points, ascending and with
a gap between neighbours, so membership is a binary search.  The operations of
a bracketed class in a pattern are here: union, complement, intersection and
the two differences.  All of them rest on two: `ofRanges`, which brings any
list of ranges into order, and `compl`, which walks the gaps.

The complement leaves out the code points of the surrogates, which are no
characters.  So a set is empty as a list of ranges exactly if no character is
in it.
-/

namespace BlockNotes.Unicode

/-- A set of characters, as ranges of code points. -/
structure CharSet where
  /-- Closed ranges, ascending, with a gap between neighbours. -/
  ranges : Array (Nat × Nat)
deriving DecidableEq, Repr, Inhabited

namespace CharSet

/-! ## Membership -/

/-- Binary search for a code point among the ranges at positions `lo` to `hi`. -/
def search (ranges : Array (Nat × Nat)) (n : Nat) : (fuel lo hi : Nat) → Bool
  | 0, _, _ => false
  | fuel + 1, lo, hi =>
    if lo < hi then
      let mid := (lo + hi) / 2
      match ranges[mid]? with
      | some (first, last) =>
        if n < first then search ranges n fuel lo mid
        else if last < n then search ranges n fuel (mid + 1) hi
        else true
      | none => false
    else false

/-- Whether a code point is in the set. -/
def has (s : CharSet) (n : Nat) : Bool :=
  search s.ranges n (s.ranges.size + 1) 0 s.ranges.size

/-- Whether a character is in the set. -/
def contains (s : CharSet) (c : Char) : Bool :=
  s.has c.toNat

/-! ## Building -/

/-- The last code point. -/
def maxCode : Nat := 0x10ffff

/-- Joins a range with those after it that touch it, in a list ordered by first code point. -/
def joinFrom (a b : Nat) : List (Nat × Nat) → List (Nat × Nat)
  | [] => [(a, b)]
  | (c, d) :: rest => if c ≤ b + 1 then joinFrom a (max b d) rest else (a, b) :: joinFrom c d rest

/-- Joins ranges that touch, in a list ordered by first code point. -/
def join : List (Nat × Nat) → List (Nat × Nat)
  | [] => []
  | (a, b) :: rest => joinFrom a b rest

/-- Puts a range in front of the first one that does not start earlier. -/
def place (r : Nat × Nat) : List (Nat × Nat) → List (Nat × Nat)
  | [] => [r]
  | s :: rest => if r.1 ≤ s.1 then r :: s :: rest else s :: place r rest

/-- The set of the code points in any of the ranges. -/
def ofRanges (ranges : List (Nat × Nat)) : CharSet where
  ranges := (join (ranges.foldr place [])).toArray

/-- No character. -/
def empty : CharSet where
  ranges := #[]

/-- The characters from one to another. -/
def range (first last : Char) : CharSet :=
  ofRanges [(first.toNat, last.toNat)]

/-- One character. -/
def single (c : Char) : CharSet :=
  range c c

/-- Every character. -/
def full : CharSet where
  ranges := #[(0, 0xd7ff), (0xe000, maxCode)]

/-- The set of given characters. -/
def ofList (cs : List Char) : CharSet :=
  ofRanges (cs.map fun c => (c.toNat, c.toNat))

/-! ## Algebra -/

/-- The code points from `start` on that lie in none of the ranges. -/
def gaps (start : Nat) : List (Nat × Nat) → List (Nat × Nat)
  | [] => if start ≤ maxCode then [(start, maxCode)] else []
  | (a, b) :: rest => (if start < a then [(start, a - 1)] else []) ++ gaps (b + 1) rest

/-- The code points in a set or among the surrogates. -/
def withSurrogates (s : CharSet) : List (Nat × Nat) :=
  (ofRanges (s.ranges.toList ++ [(0xd800, 0xdfff)])).ranges.toList

/-- The characters that are not in the set. -/
def compl (s : CharSet) : CharSet where
  ranges := (gaps 0 s.withSurrogates).toArray

/-- The characters in one set or the other. -/
def union (s t : CharSet) : CharSet :=
  ofRanges (s.ranges.toList ++ t.ranges.toList)

/-- The characters in both sets. -/
def inter (s t : CharSet) : CharSet :=
  (s.compl.union t.compl).compl

/-- The characters in the first set only. -/
def diff (s t : CharSet) : CharSet :=
  s.inter t.compl

/-- The characters in exactly one of the sets. -/
def symmDiff (s t : CharSet) : CharSet :=
  (s.diff t).union (t.diff s)

/-- Whether no character is in the set. -/
def isEmpty (s : CharSet) : Bool :=
  s.ranges.isEmpty

example : (range 'a' 'c').contains 'b' ∧ (range 'a' 'c').contains 'd' = false := by decide
example : (ofRanges [(0, 9), (2, 3), (5, 6)]).ranges = #[(0, 9)] := by decide
example : full.compl = empty ∧ empty.compl = full := by decide
example : ((range 'a' 'z').diff (ofList ['b', 'c'])).ranges = #[(0x61, 0x61), (0x64, 0x7a)] := by
  decide

end CharSet

end BlockNotes.Unicode
