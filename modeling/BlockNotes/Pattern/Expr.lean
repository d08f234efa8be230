import BlockNotes.Unicode.Letter

/-!
# Patterns

The tree of a pattern, with every flag already resolved: case is folded into
the sets, `.` is a set, and each repetition knows whether it prefers more or
fewer rounds.  A set matches one character, an assertion matches the empty text
where its neighbours allow it.

Groups matter in one way only.  A rule may narrow its match to the group called
`token`, so a tree marks that group and forgets the others.
-/

namespace BlockNotes.Pattern

open BlockNotes.Unicode (CharSet)

/-! ## Assertions -/

/-- What an assertion about words asks of the characters on both sides. -/
inductive WordEdge where
  /-- One side is a word character and the other is not. -/
  | boundary
  /-- Both sides are word characters, or neither is. -/
  | inside
  /-- A word starts here. -/
  | start
  /-- A word ends here. -/
  | stop
  /-- No word character before. -/
  | startHalf
  /-- No word character after. -/
  | stopHalf
deriving DecidableEq, Repr

/-- A condition on a position, decided by the characters on both sides. -/
inductive Assertion where
  /-- The start of the text. -/
  | textStart
  /-- The end of the text. -/
  | textEnd
  /-- The start of a line that ends in a line feed. -/
  | lineStart
  /-- The end of a line that ends in a line feed. -/
  | lineEnd
  /-- The start of a line, where a carriage return ends lines too. -/
  | crlfLineStart
  /-- The end of a line, where a carriage return ends lines too. -/
  | crlfLineEnd
  /-- An edge of a word, of ASCII characters alone or of all. -/
  | word (ascii : Bool) (edge : WordEdge)
deriving DecidableEq, Repr

/-- Whether a character belongs to words of ASCII characters. -/
def isAsciiWord (c : Char) : Bool :=
  c.isAlphanum || c == '_'

namespace WordEdge

/-- Whether an edge fits, given which sides are word characters. -/
def fits : WordEdge → (before after : Bool) → Bool
  | boundary, b, a => b != a
  | inside, b, a => b == a
  | start, b, a => !b && a
  | stop, b, a => b && !a
  | startHalf, b, _ => !b
  | stopHalf, _, a => !a

end WordEdge

namespace Assertion

/-- Whether an assertion holds between two characters, where none means the end of the text. -/
def holds : Assertion → (before after : Option Char) → Bool
  | textStart, b, _ => b.isNone
  | textEnd, _, a => a.isNone
  | lineStart, b, _ => b.isNone || b == some '\n'
  | lineEnd, _, a => a.isNone || a == some '\n'
  | crlfLineStart, b, a => b.isNone || b == some '\n' || (b == some '\r' && a != some '\n')
  | crlfLineEnd, b, a => a.isNone || a == some '\r' || (a == some '\n' && b != some '\r')
  | word ascii edge, b, a =>
    let isWord := if ascii then isAsciiWord else Unicode.isWord
    edge.fits (b.any isWord) (a.any isWord)

end Assertion

/-! ## The tree -/

/-- A pattern. -/
inductive Expr where
  /-- The empty text. -/
  | empty
  /-- One character of a set. -/
  | set (chars : CharSet)
  /-- The empty text, where the assertion holds. -/
  | assert (what : Assertion)
  /-- The group that a rule narrows its match to. -/
  | token (body : Expr)
  /-- The body repeated, with more rounds preferred if greedy and fewer if not. -/
  | rounds (least : Nat) (most : Option Nat) (greedy : Bool) (body : Expr)
  /-- One pattern after another. -/
  | seq (first second : Expr)
  /-- One pattern or another, the first preferred. -/
  | alt (first second : Expr)
deriving Repr, Inhabited

namespace Expr

/-- Whether a match of the pattern may be empty. -/
def mayBeEmpty : Expr → Bool
  | empty => true
  | set _ => false
  | assert _ => true
  | token e => e.mayBeEmpty
  | rounds least _ _ e => least == 0 || e.mayBeEmpty
  | seq a b => a.mayBeEmpty && b.mayBeEmpty
  | alt a b => a.mayBeEmpty || b.mayBeEmpty

/-- Whether the group called `token` occurs. -/
def hasToken : Expr → Bool
  | empty | set _ | assert _ => false
  | token _ => true
  | rounds _ _ _ e => e.hasToken
  | seq a b | alt a b => a.hasToken || b.hasToken

/-- Roughly how many bytes a compiled pattern takes, with each repetition written out. -/
def weight : Expr → Nat
  | empty => 32
  | set s => 32 + 60 * s.ranges.size
  | assert _ => 32
  | token e => 64 + e.weight
  | rounds least most _ e =>
    match most with
    | none => 64 + (max least 1) * e.weight
    | some most => 32 + most * (40 + e.weight)
  | seq a b => a.weight + b.weight
  | alt a b => 40 + a.weight + b.weight

/-- The patterns of a list, one after another. -/
def ofSeq : List Expr → Expr
  | [] => empty
  | [e] => e
  | e :: rest => seq e (ofSeq rest)

/-- The patterns of a list, as alternatives in order of preference. -/
def ofAlts : List Expr → Expr
  | [] => empty
  | [e] => e
  | e :: rest => alt e (ofAlts rest)

end Expr

end BlockNotes.Pattern
