import BlockNotes.Document.Command
import BlockNotes.Highlight.Table

/-!
# Keeping the table up to date

The coordinator owns the tokenizer and publishes the table of a document.  It
computes a new one when the content has changed and there is a code block, and
not when only the selection has moved.  A document without code leaves the
table as it was.

It remembers the version that the table was computed from, and forgets it when
the languages change, so that a check for staleness then computes again.
-/

namespace BlockNotes

/-- A tokenizer with the table that it gave last. -/
structure Coordinator (τ : Type) where
  /-- The tokenizer. -/
  tokenizer : τ
  /-- The published table and the warnings that came with it. -/
  highlights : Highlights := {}
  /-- The grammar for languages that are not known. -/
  fallback : String
  /-- The languages that are offered. -/
  languages : List String
  /-- How often a table was computed. -/
  recomputations : Nat := 0
  /-- The version of the document that the table was computed from. -/
  builtFor : Option Nat := none

namespace Coordinator

variable {τ : Type} [Tokenizer τ]

/-- Takes in an empty grammar for each name that is not known. -/
def registerAll (tokenizer : τ) (names : List String) : τ :=
  names.foldl (fun t name =>
    if Tokenizer.hasGrammar t name then t else Tokenizer.registerFallback t name) tokenizer

/-- Makes sure that `text`, the fallback and every language have a grammar. -/
def ensureGrammars (c : Coordinator τ) : Coordinator τ :=
  { c with
    tokenizer := registerAll c.tokenizer (Kind.textLanguage :: c.fallback :: c.languages) }

/-- A coordinator with an empty table. -/
def ofTokenizer (tokenizer : τ) (fallback : String) (languages : List String) : Coordinator τ :=
  ensureGrammars { tokenizer, fallback, languages }

/-- Computes the table of a document with code. -/
def refresh (c : Coordinator τ) (d : Document) : Coordinator τ :=
  if d.hasCode then
    { c with
      highlights := .ofDocument c.tokenizer c.fallback d
      recomputations := c.recomputations + 1
      builtFor := some d.version }
  else c

/-- Computes the table unless it was computed from this version. -/
def refreshIfStale (c : Coordinator τ) (d : Document) : Coordinator τ :=
  if c.builtFor = some d.version then c else c.refresh d

/-- Takes note of a change. -/
def onChange (c : Coordinator τ) (d : Document) (origin : Origin) : Coordinator τ :=
  match origin with
  | .selection => c
  | .content => c.refresh d

/-- Offers other languages.  The table counts as stale from then on. -/
def setLanguages (c : Coordinator τ) (languages : List String) : Coordinator τ :=
  { ensureGrammars { c with languages } with builtFor := none }

/-- The published spans of a block. -/
def spansOf (c : Coordinator τ) (id : BlockId) : List Span :=
  c.highlights.table.get id

end Coordinator

end BlockNotes
