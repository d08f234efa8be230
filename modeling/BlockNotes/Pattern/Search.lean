import BlockNotes.Pattern.Program

/-!
# Searching

`Program.find?` gives the first match of a pattern at or after a position: the
one that starts leftmost, and of those the one that the pattern prefers.  It
looks at the whole text, so an assertion at the position sees what stands
before it.

All ways through the program advance together, one character at a time, in
order of preference.  A way that reaches a label which a preferred way has
reached at the same position is dropped, so each position costs at most one
visit to each instruction.  A way that accepts ends all that are less
preferred, and from then on no new way starts.

Positions count characters.  A `Match` carries the order of its positions in
its type, so a caller may cut the text there.
-/

namespace BlockNotes.Pattern

/-! ## Matches -/

/-- A piece of a text of the given size. -/
structure Cut (size : Nat) where
  /-- Where it starts. -/
  start : Nat
  /-- Where it stops. -/
  stop : Nat
  /-- It does not stop before it starts. -/
  start_le_stop : start ≤ stop
  /-- It lies within the text. -/
  stop_le_size : stop ≤ size
deriving DecidableEq, Repr

/-- A match in a text of the given size, found from a position on. -/
structure Match (size from_ : Nat) where
  /-- The whole match. -/
  whole : Cut size
  /-- It does not start before the search does. -/
  from_le_start : from_ ≤ whole.start
  /-- The `token` group, if the match went through it. -/
  token : Option { c : Cut size // whole.start ≤ c.start ∧ c.stop ≤ whole.stop }

/-! ## Ways through a program -/

/-- A way through the program: the label it has reached and what it noted. -/
structure Way where
  /-- The label. -/
  label : Nat
  /-- Where the match starts. -/
  start : Nat
  /-- Where the `token` group opened last. -/
  opened : Option Nat := none
  /-- Where the `token` group closed last. -/
  closed : Option Nat := none
deriving Repr, Inhabited

/-- The ways that wait for a character, most preferred first, and the labels visited so far. -/
structure Front where
  /-- The ways. -/
  ways : Array Way
  /-- For each label the last round that visited it. -/
  visited : Array Nat
deriving Inhabited

namespace Program

/--
Follows ways until each one waits for a character or accepts.  `round` is one
more than the position; a label visited in this round is not entered again.
-/
def follow (p : Program) (before after : Option Char) (round : Nat) :
    (fuel : Nat) → List Way → Front → Front
  | 0, _, fr => fr
  | _ + 1, [], fr => fr
  | fuel + 1, w :: more, fr =>
    if fr.visited[w.label]? = some round then follow p before after round fuel more fr
    else
      let ⟨ways, visited⟩ := fr
      let fr : Front := ⟨ways, visited.setIfInBounds w.label round⟩
      match p.code[w.label]? with
      | none => follow p before after round fuel more fr
      | some (.check a next) =>
        if a.holds before after then
          follow p before after round fuel ({ w with label := next } :: more) fr
        else follow p before after round fuel more fr
      | some (.fork x y) =>
        follow p before after round fuel ({ w with label := x } :: { w with label := y } :: more) fr
      | some (.mark true next) =>
        follow p before after round fuel
          ({ w with label := next, opened := some (round - 1) } :: more) fr
      | some (.mark false next) =>
        follow p before after round fuel
          ({ w with label := next, closed := some (round - 1) } :: more) fr
      | some (.consume ..) | some .accept =>
        let ⟨ways, visited⟩ := fr
        follow p before after round fuel more ⟨ways.push w, visited⟩

/-- Visits needed at one position: each label once, and each fork asks for one more. -/
def roundFuel (p : Program) : Nat :=
  2 * p.code.size + 2

/-- Moves ways over a character.  The first one that accepts is given, and ends those after it. -/
def advance (p : Program) (before after : Option Char) (here : Option Char) (round : Nat) :
    List Way → Front → Option Way × Front
  | [], next => (none, next)
  | w :: more, next =>
    match p.code[w.label]? with
    | some (.consume chars label) =>
      match here with
      | some c =>
        if chars.contains c then
          advance p before after here round more
            (p.follow before after round p.roundFuel [{ w with label }] next)
        else advance p before after here round more next
      | none => advance p before after here round more next
    | some .accept => (some w, next)
    | _ => advance p before after here round more next

/-- Runs the program over the rest of the text, from a position on. -/
def run (p : Program) (text : Array Char) :
    (left position : Nat) → Front → Option (Way × Nat) → Option (Way × Nat)
  | left, position, fr, best =>
    let here := text[position]?
    let before := if position = 0 then none else text[position - 1]?
    let fr :=
      if best.isSome then fr
      else p.follow before here (position + 1) p.roundFuel [{ label := p.entry, start := position }]
        fr
    if fr.ways.isEmpty && best.isSome then best
    else
      let ⟨ways, visited⟩ := fr
      let (accepted, next) :=
        p.advance here text[position + 1]? here (position + 2) ways.toList ⟨#[], visited⟩
      let best := (accepted.map (·, position)).or best
      match left with
      | 0 => best
      | left + 1 => run p text left (position + 1) next best

/-- The match that a finished way stands for. -/
def matchOf? (size from_ : Nat) (w : Way) (stop : Nat) : Option (Match size from_) :=
  if h : from_ ≤ w.start ∧ w.start ≤ stop ∧ stop ≤ size then
    let token : Option { c : Cut size // w.start ≤ c.start ∧ c.stop ≤ stop } :=
      match w.opened, w.closed with
      | some a, some b =>
        if g : w.start ≤ a ∧ a ≤ b ∧ b ≤ stop then
          some ⟨⟨a, b, g.2.1, Nat.le_trans g.2.2 h.2.2⟩, g.1, g.2.2⟩
        else none
      | _, _ => none
    some { whole := ⟨w.start, stop, h.2.1, h.2.2⟩, from_le_start := h.1, token }
  else none

/-- The first match at or after a position. -/
def find? (p : Program) (text : Array Char) (from_ : Nat) : Option (Match text.size from_) :=
  if from_ ≤ text.size then
    let start : Front := ⟨#[], Array.replicate p.code.size 0⟩
    (p.run text (text.size - from_) from_ start none).bind fun (w, stop) =>
      matchOf? text.size from_ w stop
  else none

end Program

end BlockNotes.Pattern
