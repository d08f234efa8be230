import BlockNotes.Autoformat.Fence
import BlockNotes.Pattern.Reader
import BlockNotes.Pattern.Search

/-!
# Fences as patterns

The two forms of a fence, written as patterns, and what is read by searching for
them.  A search notes one group only, so a pattern is searched for once with each
group that is asked for.
-/

namespace BlockNotes

namespace Pattern

/-- A pattern whose group with this number is called `token`.  Groups are counted from one, and
every parenthesis has to be one of a group without a name. -/
def nameGroup : (number : Nat) → Text → Text
  | _, [] => []
  | number, c :: rest =>
    if c ≠ '(' then c :: nameGroup number rest
    else if number = 1 then "(?P<token>".toList ++ rest
    else c :: nameGroup (number - 1) rest

/-- Whether a pattern occurs in a text. -/
def occurs (pattern t : Text) : Bool :=
  (Expr.ofText? pattern).any fun e => ((Program.ofExpr e).find? t.toArray 0).isSome

/-- What the first match of a pattern in a text has in a group. -/
def captured? (pattern : Text) (number : Nat) (t : Text) : Option Text := do
  let e ← Expr.ofText? (nameGroup number pattern)
  let m ← (Program.ofExpr e).find? t.toArray 0
  let c ← m.token
  some ((t.drop c.1.start).take (c.1.stop - c.1.start))

end Pattern

namespace Fence

/-- The pattern of an open fence. -/
def openPattern : Text :=
  "^```(\\w*)$".toList

/-- The pattern of a complete fence. -/
def completePattern : Text :=
  "^```(\\w*)\\s*\\n([\\s\\S]*?)\\n```\\s*$".toList

/-- What the patterns read in a text. -/
def matched? (t : Text) : Option Fence :=
  match Pattern.captured? openPattern 1 t with
  | some language => some (opened (String.ofList language))
  | none => do
    let language ← Pattern.captured? completePattern 1 t
    let body ← Pattern.captured? completePattern 2 t
    some (complete (String.ofList language) body)

end Fence

end BlockNotes
