import BlockNotes.Pattern.Expr

/-!
# Programs

A pattern is searched for by running a program on the text.  An instruction
consumes a character of a set, checks an assertion, forks into a preferred and
another branch, notes where the `token` group opens or closes, or accepts.

`Program.ofExpr` lays a pattern out from its end to its start: the compiler is
given the label where the match goes on and returns the label where it enters.
A loop needs its own label before its body exists, so it reserves a place first
and fills it afterwards.

A loop whose body may be empty is laid out as `(body+)?`.  Where the body
matches the empty text, the jump back meets an instruction that was visited
already, and the match goes on behind the loop with the preference that the
first round had.
-/

namespace BlockNotes.Pattern

open BlockNotes.Unicode (CharSet)

/-- A step of a program, with the labels where it goes on. -/
inductive Instr where
  /-- Consumes one character of the set. -/
  | consume (chars : CharSet) (next : Nat)
  /-- Goes on if the assertion holds. -/
  | check (what : Assertion) (next : Nat)
  /-- Goes on at both labels, the first preferred. -/
  | fork (preferred other : Nat)
  /-- Notes that the `token` group opens or closes here. -/
  | mark (opens : Bool) (next : Nat)
  /-- The text so far is a match. -/
  | accept
deriving Repr, Inhabited

/-- The instructions of a program by label. -/
abbrev Code := Array Instr

namespace Code

/-- Adds an instruction and gives its label. -/
def emit (code : Code) (i : Instr) : Nat × Code :=
  (code.size, code.push i)

/-- A fork that prefers the body if greedy and the way out if not. -/
def forkOf (greedy : Bool) (body out : Nat) : Instr :=
  if greedy then .fork body out else .fork out body

/-- Lays out the same part a number of times, back to front. -/
def copies (part : Nat → Code → Nat × Code) : (count : Nat) → Nat → Code → Nat × Code
  | 0, next, code => (next, code)
  | n + 1, next, code =>
    let (entry, code) := part next code
    copies part n entry code

/-- Lays out optional parts, each of which leads to the next one or out. -/
def optional (part : Nat → Code → Nat × Code) (greedy : Bool) (out : Nat) :
    (count : Nat) → Nat → Code → Nat × Code
  | 0, next, code => (next, code)
  | n + 1, next, code =>
    let (body, code) := part next code
    let (entry, code) := code.emit (forkOf greedy body out)
    optional part greedy out n entry code

/-- Lays out a part that is repeated once or more. -/
def onceOrMore (part : Nat → Code → Nat × Code) (greedy : Bool) (next : Nat) (code : Code) :
    Nat × Code :=
  let (loop, code) := code.emit .accept
  let (body, code) := part loop code
  (body, code.setIfInBounds loop (forkOf greedy body next))

/-- Lays out a part that is repeated any number of times. -/
def anyTimes (part : Nat → Code → Nat × Code) (mayBeEmpty greedy : Bool) (next : Nat)
    (code : Code) : Nat × Code :=
  if mayBeEmpty then
    let (body, code) := onceOrMore part greedy next code
    code.emit (forkOf greedy body next)
  else
    let (loop, code) := code.emit .accept
    let (body, code) := part loop code
    (loop, code.setIfInBounds loop (forkOf greedy body next))

end Code

/-- Lays out a pattern in front of the label where its match goes on. -/
def Expr.layOut : Expr → (next : Nat) → Code → Nat × Code
  | .empty, next, code => (next, code)
  | .set s, next, code => code.emit (.consume s next)
  | .assert a, next, code => code.emit (.check a next)
  | .token e, next, code =>
    let (close, code) := code.emit (.mark false next)
    let (body, code) := e.layOut close code
    code.emit (.mark true body)
  | .rounds least most greedy e, next, code =>
    match most with
    | none =>
      if least = 0 then Code.anyTimes e.layOut e.mayBeEmpty greedy next code
      else
        let (last, code) := Code.onceOrMore e.layOut greedy next code
        Code.copies e.layOut (least - 1) last code
    | some most =>
      let (rest, code) := Code.optional e.layOut greedy next (most - least) next code
      Code.copies e.layOut least rest code
  | .seq a b, next, code =>
    let (second, code) := b.layOut next code
    a.layOut second code
  | .alt a b, next, code =>
    let (second, code) := b.layOut next code
    let (first, code) := a.layOut next code
    code.emit (.fork first second)

/-- A compiled pattern. -/
structure Program where
  /-- The instructions. -/
  code : Code
  /-- The label where a match starts. -/
  entry : Nat
deriving Repr, Inhabited

namespace Program

/-- The program of a pattern. -/
def ofExpr (e : Expr) : Program :=
  let (accept, code) := Code.emit #[] .accept
  let (entry, code) := e.layOut accept code
  { code, entry }

end Program

end BlockNotes.Pattern
