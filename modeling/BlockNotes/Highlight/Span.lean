import BlockNotes.Document.Node
import BlockNotes.Grammar.Token
import BlockNotes.Text.NameSet

/-!
# Highlighted spans

A span is a piece of the text of a block with tags.  A token tree is flattened
into spans: one for each typed token that is not empty, in the order of the
tree, so a token with tokens inside comes before them.

Flattening threads the offset through the tree.  It comes out at the offset
where it went in plus the length of the stream.
-/

namespace BlockNotes

/-- A piece of the text of a block with tags. -/
structure Span where
  /-- The block. -/
  block : BlockId
  /-- The byte offset where it starts. -/
  start : Nat
  /-- The byte offset where it stops. -/
  stop : Nat
  /-- The tags. -/
  tags : NameSet
deriving DecidableEq, Repr

mutual

/-- The spans of a token that starts at an offset, and the offset behind it. -/
def Token.flatten (block : BlockId) (offset : Nat) : Token → List Span × Nat
  | .plain t => ([], offset + Text.bytes t)
  | .typed kind extra content =>
    if content.size = 0 then ([], offset)
    else
      (⟨block, offset, offset + content.size, .ofList (kind :: extra.toList)⟩ ::
        content.flatten block offset, offset + content.size)

/-- The spans of what is inside of a token. -/
def Content.flatten (block : BlockId) (offset : Nat) : Content → List Span
  | .leaf _ => []
  | .token t => (t.flatten block offset).1
  | .stream ts => (Token.flattenAll block offset ts).1

/-- The spans of a stream that starts at an offset, and the offset behind it. -/
def Token.flattenAll (block : BlockId) (offset : Nat) : List Token → List Span × Nat
  | [] => ([], offset)
  | t :: rest =>
    let (spans, offset) := t.flatten block offset
    let (more, offset) := Token.flattenAll block offset rest
    (spans ++ more, offset)

end

end BlockNotes
