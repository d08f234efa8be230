import BlockNotes.Text.Basic
import BlockNotes.Unicode.Blank
import BlockNotes.Unicode.Letter

/-!
# Code fences

A text is a fence in one of two forms.  An *open* fence is three backticks and
a language.  A *complete* one goes on with blanks up to a line feed, a body, and
three backticks on a line of their own with blanks behind them.

The language is the longest run of word characters, the opening takes as many
blank lines as it can, and the closing is read from the end.  So there is one
way to read a text, and backticks within the body do not matter.

The two forms are given as patterns (`Fence.openPattern`, `Fence.completePattern`).
What is read here is what these match (`Fence.ofText?_eq_matched?`).
-/

namespace BlockNotes

/-- What a fence says. -/
inductive Fence where
  /-- An opening without anything behind it. -/
  | opened (language : String)
  /-- An opening, a body and a closing. -/
  | complete (language : String) (body : Text)
deriving DecidableEq, Repr

namespace Fence

/-- What follows three backticks. -/
def afterTicks? : Text → Option Text
  | '`' :: '`' :: '`' :: rest => some rest
  | _ => none

/-- What precedes the last line, if that is three backticks and the rest is blank. -/
def beforeClosing? (t : Text) : Option Text :=
  match (t.dropEndWhile Unicode.isBlank).reverse with
  | '`' :: '`' :: '`' :: '\n' :: front => some front.reverse
  | _ => none

/-- What follows the last line feed among the blanks at the start. -/
def afterBlankLines? : Text → Option Text
  | [] => none
  | c :: rest =>
    if Unicode.isBlank c then
      match afterBlankLines? rest with
      | some body => some body
      | none => if c = '\n' then some rest else none
    else none

/-- The body between an opening and a closing. -/
def body? (t : Text) : Option Text :=
  (beforeClosing? t).bind afterBlankLines?

/-- Reads a text as a fence. -/
def ofText? (t : Text) : Option Fence := do
  let rest ← afterTicks? t
  let word := rest.takeWhile Unicode.isWord
  let language := String.ofList word
  match rest.drop word.length with
  | [] => some (opened language)
  | rest => (body? rest).map (complete language)

/-- Whether a text is an open fence. -/
def isOpener (t : Text) : Bool :=
  (afterTicks? t).any fun rest => rest.all Unicode.isWord

/-- The language of a fence. -/
def language : Fence → String
  | opened language => language
  | complete language _ => language

/-- The text between the opening and the closing. -/
def body : Fence → Text
  | opened _ => []
  | complete _ body => body

end Fence

end BlockNotes
