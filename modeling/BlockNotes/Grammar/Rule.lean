import BlockNotes.Pattern.Reader
import BlockNotes.Pattern.Search
import BlockNotes.Text.Basic

/-!
# Rules and grammars

A grammar is an ordered list of rules, and a rule pairs a kind of token with a
pattern.  A *greedy* rule competes with the other greedy rules over the raw
text; the rest take turns on what is left.  If the pattern has a group called
`token`, only that group becomes the token and the rest of the match is
context.  A rule may tokenize its own piece again, with rules of its own or
with a language looked up by name.

A grammar is written as a list of `RuleSpec` and compiled once.
`Rule.hit?` searches for a token that is not empty.  A `Hit` keeps the order of
its positions in its type: the token lies in the match, is not empty, and ends
within the text.  This is what makes the scans over a text end.
-/

namespace BlockNotes

open Pattern (Cut Program Expr)

/-! ## Written rules -/

mutual

/-- A rule as it is written. -/
structure RuleSpec where
  /-- The kind of its tokens. -/
  kind : String
  /-- The written pattern. -/
  pattern : String
  /-- The additional tag. -/
  extra : Option String := none
  /-- Whether the rule competes over the raw text. -/
  greedy : Bool := false
  /-- How its pieces are tokenized again. -/
  inside : Option InsideSpec := none

/-- How a piece is tokenized again. -/
inductive InsideSpec where
  /-- With rules of its own. -/
  | grammar (rules : List RuleSpec)
  /-- With the language of this name. -/
  | language (name : String)

end

/-- The written pattern of any of the words, whole. -/
def anyWord (words : List String) : String :=
  "\\b(?:" ++ "|".intercalate words ++ ")\\b"

namespace RuleSpec

/-- Puts a rule in front of the first one of a kind, or at the end if there is none. -/
def insertBefore (rules : List RuleSpec) (kind : String) (rule : RuleSpec) : List RuleSpec :=
  match rules with
  | [] => [rule]
  | r :: rest => if r.kind = kind then rule :: r :: rest else r :: insertBefore rest kind rule

end RuleSpec

/-! ## Compiled rules -/

mutual

/-- A compiled rule. -/
structure Rule where
  /-- The kind of its tokens. -/
  kind : String
  /-- The additional tag. -/
  extra : Option String
  /-- The compiled pattern. -/
  program : Program
  /-- Whether only the `token` group becomes the token. -/
  narrowed : Bool
  /-- Whether the rule competes over the raw text. -/
  greedy : Bool
  /-- How its pieces are tokenized again. -/
  inside : Option Inside

/-- How a piece is tokenized again. -/
inductive Inside where
  /-- With rules of its own. -/
  | grammar (rules : List Rule)
  /-- With the language of this name. -/
  | language (name : String)

end

/-- A compiled grammar: its rules in order. -/
abbrev Grammar := List Rule

/-- Why a grammar does not compile. -/
inductive GrammarError where
  /-- The pattern of a rule of this kind is no pattern. -/
  | invalidPattern (kind : String)
deriving DecidableEq, Repr

mutual

/-- Compiles a rule. -/
def RuleSpec.compile : RuleSpec → Except GrammarError Rule
  | ⟨kind, pattern, extra, greedy, inside⟩ =>
    match Expr.ofText? pattern.toList with
    | none => .error (.invalidPattern kind)
    | some e => do
      let inside ← InsideSpec.compile? inside
      pure { kind, extra, program := .ofExpr e, narrowed := e.hasToken, greedy, inside }

/-- Compiles what is inside of a rule, if there is anything. -/
def InsideSpec.compile? : Option InsideSpec → Except GrammarError (Option Inside)
  | none => pure none
  | some (.language name) => pure (some (.language name))
  | some (.grammar rules) => do
    let rules ← Grammar.ofRules rules
    pure (some (.grammar rules))

/-- Compiles rules in order.  The first one that fails decides. -/
def Grammar.ofRules : List RuleSpec → Except GrammarError Grammar
  | [] => pure []
  | r :: rest => do
    let r ← r.compile
    let rest ← Grammar.ofRules rest
    pure (r :: rest)

end

/-! ## Hits -/

/-- A match of a rule in a text of the given size, with the piece that becomes the token. -/
structure Hit (size : Nat) where
  /-- The whole match, context included. -/
  whole : Cut size
  /-- The piece that becomes the token. -/
  token : Cut size
  /-- The token does not start before the match. -/
  whole_le_token : whole.start ≤ token.start
  /-- The token is not empty. -/
  token_nonempty : token.start < token.stop
  /-- The token does not stop after the match. -/
  token_le_whole : token.stop ≤ whole.stop
deriving DecidableEq, Repr

namespace Rule

/-- The token of a match: the named group if the rule has one, and else all of it. -/
def hitOf? (r : Rule) {size from_ : Nat} (m : Pattern.Match size from_) : Option (Hit size) :=
  if r.narrowed then
    match m.token with
    | some ⟨c, hc⟩ =>
      if h : c.start < c.stop then some ⟨m.whole, c, hc.1, h, hc.2⟩ else none
    | none => none
  else if h : m.whole.start < m.whole.stop then
    some ⟨m.whole, m.whole, Nat.le_refl _, h, Nat.le_refl _⟩
  else none

/-- The hit of a match is where the match is. -/
theorem whole_of_hitOf? {r : Rule} {size from_ : Nat} {m : Pattern.Match size from_}
    {h : Hit size} (e : r.hitOf? m = some h) : h.whole = m.whole := by
  unfold hitOf? at e
  split at e
  · split at e
    · split at e
      · cases e; rfl
      · cases e
    · cases e
  · split at e
    · cases e; rfl
    · cases e

/--
The first hit at or after a position.  A match without a token is passed over:
the search goes on at its end, or one character further if it is empty.
-/
def hit? (r : Rule) (text : Array Char) (from_ : Nat) :
    Option { h : Hit text.size // from_ ≤ h.whole.start } :=
  match r.program.find? text from_ with
  | none => none
  | some m =>
    match e : r.hitOf? m with
    | some h => some ⟨h, whole_of_hitOf? e ▸ m.from_le_start⟩
    | none =>
      if h : from_ < text.size then
        (hit? r text (max m.whole.stop (from_ + 1))).map fun ⟨h, hh⟩ => ⟨h, by omega⟩
      else none
termination_by text.size - from_

end Rule

end BlockNotes
