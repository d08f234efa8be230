import BlockNotes.Highlight.Span

/-!
# Runs

The spans of a block may overlap.  For drawing, its text is cut into runs, one
after the other, each with all the tags of the spans that cover it.  Neighbours
differ in their tags, and runs without tags are among them, so the runs cover
the whole text.

Spans are first brought into the text: offsets are cut off at its end, a start
inside a character moves up and a stop inside a character moves down.  Then one
sweep goes over all the places where a span starts or stops and keeps a count
for each tag.
-/

namespace BlockNotes

/-- A piece of text with the tags of all spans that cover it. -/
structure Run where
  /-- Where it starts. -/
  start : Nat
  /-- Where it stops. -/
  stop : Nat
  /-- The tags. -/
  tags : NameSet
deriving DecidableEq, Repr

namespace Run

/-! ## Spans within the text -/

/-- A span brought into a text, unless nothing is left of it. -/
def clamp? (text : Text) (s : Span) : Option Run :=
  let start := text.ceilBoundary (min s.start text.bytes)
  let stop := text.floorBoundary (min s.stop text.bytes)
  if start < stop then some ⟨start, stop, s.tags⟩ else none

/-- Puts a number into an ascending list, unless it is there. -/
def placeCut (n : Nat) : List Nat → List Nat
  | [] => [n]
  | m :: rest => if n < m then n :: m :: rest else if n = m then m :: rest else m :: placeCut n rest

/-- The ends of the text and of all pieces, ascending and each once. -/
def cuts (text : Text) (pieces : List Run) : List Nat :=
  (0 :: text.bytes :: pieces.flatMap fun p => [p.start, p.stop]).foldr placeCut []

/-! ## The sweep -/

/-- How many pieces carry each tag, in ascending order of tags. -/
abbrev TagCounts := List (String × Nat)

namespace TagCounts

/-- Counts one more of a tag. -/
def add (tag : String) : TagCounts → TagCounts
  | [] => [(tag, 1)]
  | (t, n) :: rest =>
    if tag < t then (tag, 1) :: (t, n) :: rest
    else if tag = t then (t, n + 1) :: rest
    else (t, n) :: add tag rest

/-- Counts one less of a tag. -/
def remove (tag : String) : TagCounts → TagCounts
  | [] => []
  | (t, n) :: rest =>
    if tag = t then (if n ≤ 1 then rest else (t, n - 1) :: rest) else (t, n) :: remove tag rest

/-- The tags that are counted. -/
def tags (c : TagCounts) : NameSet :=
  .ofList (c.map Prod.fst)

end TagCounts

/-- The state of a sweep: the pieces still to open and to close, by place, and the counts. -/
structure Sweep where
  /-- The pieces still to open, by where they start. -/
  opens : List Run
  /-- The pieces still to close, by where they stop. -/
  closes : List Run
  /-- How many open pieces carry each tag. -/
  counts : TagCounts

namespace Sweep

/-- Closes and opens all pieces up to a place. -/
def moveTo (s : Sweep) (place : Nat) : Sweep :=
  let closing := s.closes.takeWhile fun p => p.stop ≤ place
  let opening := s.opens.takeWhile fun p => p.start ≤ place
  let counts := (closing.flatMap fun p => p.tags.toList).foldl (fun c t => c.remove t) s.counts
  { opens := s.opens.drop opening.length
    closes := s.closes.drop closing.length
    counts := (opening.flatMap fun p => p.tags.toList).foldl (fun c t => c.add t) counts }

/-- The runs between cuts, with neighbours of equal tags joined. -/
def runs : Sweep → List Nat → List Run
  | s, a :: b :: rest =>
    let s := s.moveTo a
    let tags := s.counts.tags
    match runs s (b :: rest) with
    | r :: more => if r.tags = tags then ⟨a, r.stop, tags⟩ :: more else ⟨a, b, tags⟩ :: r :: more
    | [] => [⟨a, b, tags⟩]
  | _, _ => []

end Sweep

/-- The runs of a text under spans. -/
def ofSpans (text : Text) (spans : List Span) : List Run :=
  let pieces := spans.filterMap (clamp? text)
  let start : Sweep := {
    opens := pieces.mergeSort fun p q => p.start ≤ q.start
    closes := pieces.mergeSort fun p q => p.stop ≤ q.stop
    counts := [] }
  start.runs (cuts text pieces)

end Run

end BlockNotes
