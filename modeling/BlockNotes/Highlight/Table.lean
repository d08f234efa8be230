import BlockNotes.Document.Basic
import BlockNotes.Grammar.Registry
import BlockNotes.Highlight.Span

/-!
# Tables of spans

A table has the spans of each code block that has any, by identity.  It is
computed for a whole document: each code block with text is tokenized in its
language, or in the fallback if the tokenizer does not know the language.

Nothing that goes wrong with one block keeps the others from being done.  A
block that cannot be tokenized is one plain token, and a block whose tokens are
not as long as its text is left out.  Each case gives a warning.
-/

namespace BlockNotes

/-- Spans by block, in ascending order of identities. -/
structure SpanTable where
  /-- The blocks with their spans. -/
  entries : List (BlockId × List Span) := []
deriving DecidableEq, Repr, Inhabited

namespace SpanTable

/-- The spans of a block; none if it has no entry. -/
def get (t : SpanTable) (id : BlockId) : List Span :=
  (t.entries.lookup id).getD []

/-- Whether a block has an entry. -/
def contains (t : SpanTable) (id : BlockId) : Bool :=
  (t.entries.lookup id).isSome

/-- Puts an entry into ascending ones, in place of the one of its identity. -/
def place (id : BlockId) (spans : List Span) :
    List (BlockId × List Span) → List (BlockId × List Span)
  | [] => [(id, spans)]
  | (k, v) :: rest =>
    if id < k then (id, spans) :: (k, v) :: rest
    else if id = k then (id, spans) :: rest
    else (k, v) :: place id spans rest

/-- Puts in the spans of a block. -/
def insert (t : SpanTable) (id : BlockId) (spans : List Span) : SpanTable :=
  ⟨place id spans t.entries⟩

/-- The number of blocks with an entry. -/
def size (t : SpanTable) : Nat :=
  t.entries.length

end SpanTable

/-! ## Warnings -/

/-- What went wrong with a block. -/
inductive HighlightWarning where
  /-- The tokenizer does not know the language. -/
  | grammarNotFound (block : BlockId) (language fallback : String)
  /-- The text could not be tokenized. -/
  | tokenizeFailed (block : BlockId) (error : TokenizeError)
  /-- The tokens are not as long as the text. -/
  | lengthMismatch (block : BlockId) (expected covered : Nat)
deriving DecidableEq, Repr

namespace HighlightWarning

/-- What a warning says. -/
def message : HighlightWarning → String
  | grammarNotFound block language fallback =>
    "No grammar for '" ++ language ++ "' (block #" ++ toString block ++ "), using '" ++ fallback ++
      "'"
  | tokenizeFailed block error =>
    "Tokenizing block #" ++ toString block ++ " failed, showing it as plain text: " ++
      error.message
  | lengthMismatch block expected covered =>
    "Tokens for block #" ++ toString block ++ " cover " ++ toString covered ++ " bytes of " ++
      toString expected

end HighlightWarning

/-! ## Computing a table -/

/-- A table and the warnings that came up with it. -/
structure Highlights where
  /-- The table. -/
  table : SpanTable := {}
  /-- The warnings, in the order of the document. -/
  warnings : List HighlightWarning := []
deriving DecidableEq, Repr, Inhabited

namespace Highlights

variable {τ : Type} [Tokenizer τ]

/-- The spans of a code block with text, if its tokens are as long as the text, and warnings. -/
def ofCode (tokenizer : τ) (fallback : String) (id : BlockId) (language : String) (text : Text) :
    Option (List Span) × List HighlightWarning :=
  let known := Tokenizer.hasGrammar tokenizer language
  let missing := if known then [] else [.grammarNotFound id language fallback]
  let (tokens, failed) :=
    match Tokenizer.tokenize tokenizer text (if known then language else fallback) with
    | .ok tokens => (tokens, [])
    | .error e => ([Token.plain text], [HighlightWarning.tokenizeFailed id e])
  let (spans, covered) := Token.flattenAll id 0 tokens
  if covered = text.bytes then (some spans, missing ++ failed)
  else (none, missing ++ failed ++ [.lengthMismatch id text.bytes covered])

/-- Adds what a block contributes; only code blocks with text contribute anything. -/
def addBlock (tokenizer : τ) (fallback : String) (h : Highlights) (b : Block) : Highlights :=
  match b.kind.language? with
  | none => h
  | some language =>
    let text := b.text
    if text.isEmpty then h
    else
      let (spans, warnings) := ofCode tokenizer fallback b.id language text
      { table := match spans with
          | some (s :: more) => h.table.insert b.id (s :: more)
          | _ => h.table
        warnings := h.warnings ++ warnings }

/-- The table of a document and its warnings. -/
def ofDocument (tokenizer : τ) (fallback : String) (d : Document) : Highlights :=
  (d.matching fun b => b.kind.isCode).foldl (fun h (_, b) => addBlock tokenizer fallback h b) {}

end Highlights

end BlockNotes
