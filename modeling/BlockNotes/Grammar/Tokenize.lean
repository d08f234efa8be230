import BlockNotes.Grammar.Rule
import BlockNotes.Grammar.Token

/-!
# Tokenizing

A text is cut in two steps.  First the greedy rules scan it together: from each
position on, the hit that starts first wins, and of hits that start together
the one whose rule comes first.  Then each other rule in turn cuts what is still
plain.  A piece with rules inside is tokenized again, and the number of levels
is bounded.

The scan keeps the next hit of each rule and searches again only for a rule
whose hit starts before the position.  `Piece.greedyFrom` is that scan, and
`Piece.freshFrom` the one that searches for every rule afresh.

Cutting and wrapping are apart: a cut gives `Piece`s, which cannot fail, and
wrapping turns each into a token.
-/

namespace BlockNotes

/-- Why a text has no tokens. -/
inductive TokenizeError where
  /-- There is no grammar of this name. -/
  | unknownGrammar (name : String)
  /-- The grammar nests deeper than the limit. -/
  | nestingTooDeep (name : String) (limit : Nat)
deriving DecidableEq, Repr

namespace TokenizeError

/-- What an error says. -/
def message : TokenizeError → String
  | unknownGrammar name => "Unknown grammar: " ++ name
  | nestingTooDeep name limit =>
    "Grammar '" ++ name ++ "' nests deeper than " ++ toString limit ++ " levels"

end TokenizeError

/-! ## Cutting -/

/-- A piece of a text: left plain, or claimed by a rule. -/
inductive Piece where
  /-- Text that no rule claimed. -/
  | plain (text : Text)
  /-- Text that a rule claimed. -/
  | claimed (rule : Rule) (text : Text)

namespace Piece

/-- The characters of a text between two positions. -/
def cut (text : Array Char) (start stop : Nat) : Text :=
  (text.extract start stop).toList

/-- The plain piece between two positions, if there is anything between them. -/
def gap (text : Array Char) (start stop : Nat) : List Piece :=
  if start < stop then [.plain (cut text start stop)] else []

/-- Cuts a text at the hits of one rule, from a position on. -/
def splitFrom (rule : Rule) (text : Array Char) (plainStart from_ : Nat) : List Piece :=
  match rule.hit? text from_ with
  | none => gap text plainStart text.size
  | some ⟨h, _⟩ =>
    have := h.whole_le_token
    have := h.token_nonempty
    have := h.token_le_whole
    have := h.whole.stop_le_size
    gap text plainStart h.token.start ++
      .claimed rule (cut text h.token.start h.token.stop) ::
        splitFrom rule text h.token.stop h.whole.stop
termination_by text.size - from_

/-- Cuts a text at the hits of one rule. -/
def split (rule : Rule) (text : Text) : List Piece :=
  splitFrom rule text.toArray 0 0

end Piece

/-! ## The greedy scan -/

/-- What is known about the next hit of a rule. -/
inductive Lookahead (size : Nat) where
  /-- Nothing yet. -/
  | unsearched
  /-- There is none in the rest of the text. -/
  | exhausted
  /-- The next hit. -/
  | next (hit : Hit size)
deriving DecidableEq, Repr

namespace Lookahead

/-- The hit, if one is known. -/
def hit? {size : Nat} : Lookahead size → Option (Hit size)
  | next h => some h
  | _ => none

/-- The result of a search as knowledge. -/
def ofHit? {size : Nat} : Option (Hit size) → Lookahead size
  | some h => next h
  | none => exhausted

/-- Searches again where the knowledge does not reach the position. -/
def refresh (rule : Rule) (text : Array Char) (from_ : Nat) :
    Lookahead text.size → Lookahead text.size
  | unsearched => ofHit? ((rule.hit? text from_).map Subtype.val)
  | exhausted => exhausted
  | next h =>
    if h.whole.start < from_ then ofHit? ((rule.hit? text from_).map Subtype.val) else next h

end Lookahead

namespace Piece

/-- The hit that starts first, and of those that start together the first in the list. -/
def earliest {size : Nat} : List (Nat × Option (Hit size)) → Option (Nat × Hit size)
  | [] => none
  | (_, none) :: rest => earliest rest
  | (i, some h) :: rest =>
    match earliest rest with
    | some (j, g) => if g.whole.start < h.whole.start then some (j, g) else some (i, h)
    | none => some (i, h)

/--
Scans with all greedy rules from a position on.  `looks` has what is known for
each rule.
-/
def greedyFrom (rules : List Rule) (text : Array Char) (plainStart from_ : Nat)
    (looks : List (Lookahead text.size)) : List Piece :=
  if from_ < text.size then
    let looks := (rules.zip looks).map fun (r, l) => l.refresh r text from_
    match earliest ((List.range looks.length).zip (looks.map Lookahead.hit?)) with
    | none => gap text plainStart text.size
    | some (i, h) =>
      match rules[i]? with
      | none => gap text plainStart text.size
      | some rule =>
        if from_ < h.whole.stop then
          have := h.whole.stop_le_size
          gap text plainStart h.token.start ++
            .claimed rule (cut text h.token.start h.token.stop) ::
              greedyFrom rules text h.token.stop h.whole.stop (looks.set i .unsearched)
        else gap text plainStart text.size
  else gap text plainStart text.size
termination_by text.size - from_

/-- Cuts a text with all greedy rules at once. -/
def greedy (rules : List Rule) (text : Text) : List Piece :=
  greedyFrom rules text.toArray 0 0 (rules.map fun _ => .unsearched)

/-- Scans as `greedyFrom` does, but searches for every rule afresh. -/
def freshFrom (rules : List Rule) (text : Array Char) (plainStart from_ : Nat) : List Piece :=
  if from_ < text.size then
    let hits := rules.map fun r => (r.hit? text from_).map Subtype.val
    match earliest ((List.range hits.length).zip hits) with
    | none => gap text plainStart text.size
    | some (i, h) =>
      match rules[i]? with
      | none => gap text plainStart text.size
      | some rule =>
        if from_ < h.whole.stop then
          have := h.whole.stop_le_size
          gap text plainStart h.token.start ++
            .claimed rule (cut text h.token.start h.token.stop) ::
              freshFrom rules text h.token.stop h.whole.stop
        else gap text plainStart text.size
  else gap text plainStart text.size
termination_by text.size - from_

end Piece

/-! ## Tokens -/

/-- How many levels of rules inside of rules are allowed below the first. -/
def maxNesting : Nat := 8

namespace Grammar

/-- Wraps a piece; a claimed one is tokenized again if its rule says so. -/
def wrap (lookup : String → Option Grammar)
    (inner : Grammar → String → Text → Except TokenizeError (List Token)) (name : String) :
    Piece → Except TokenizeError Token
  | .plain t => .ok (.plain t)
  | .claimed rule t => do
    let content ← match rule.inside with
      | none => pure (Content.leaf t)
      | some (.grammar rules) => Content.stream <$> inner rules name t
      | some (.language language) =>
        match lookup language with
        | none => .error (.unknownGrammar language)
        | some grammar => Content.stream <$> inner grammar language t
    pure (.typed rule.kind rule.extra content)

/-- Lets a rule cut the plain tokens of a stream. -/
def refine (wrap : Piece → Except TokenizeError Token) (rule : Rule) :
    List Token → Except TokenizeError (List Token)
  | [] => .ok []
  | .plain t :: rest => do
    let first ← (Piece.split rule t).mapM wrap
    let rest ← refine wrap rule rest
    pure (first ++ rest)
  | typed :: rest => do
    let rest ← refine wrap rule rest
    pure (typed :: rest)

/-- Lets rules refine a stream in turn. -/
def refineAll (wrap : Piece → Except TokenizeError Token) :
    List Rule → List Token → Except TokenizeError (List Token)
  | [], ts => .ok ts
  | rule :: rest, ts => do
    let ts ← refine wrap rule ts
    refineAll wrap rest ts

/-- Tokenizes within a number of levels. -/
def tokenizeWithin (lookup : String → Option Grammar) :
    (levels : Nat) → Grammar → String → Text → Except TokenizeError (List Token)
  | 0, _, name, _ => .error (.nestingTooDeep name maxNesting)
  | levels + 1, grammar, name, text =>
    if text.isEmpty then .ok []
    else do
      let wrap := wrap lookup (tokenizeWithin lookup levels) name
      let greedy := grammar.filter Rule.greedy
      let first ←
        if greedy.isEmpty then pure [Token.plain text] else (Piece.greedy greedy text).mapM wrap
      refineAll wrap (grammar.filter (!·.greedy)) first

end Grammar

end BlockNotes
