import BlockNotes.Text.Basic

/-!
# Token trees

A tokenizer answers with a stream of tokens.  A token is plain text, which no
rule claimed, or a piece with a kind, whose content is text again, one token or
a stream.  Read in order, the leaves give back the text that was tokenized.

The number of bytes of a token is computed on its own, without its text.
`Token.size_eq_bytes` says that it is the length of that text.
-/

namespace BlockNotes

mutual

/-- A piece of tokenized text. -/
inductive Token where
  /-- Text that no rule claimed. -/
  | plain (text : Text)
  /-- Text that a rule claimed, with the rule's kind and an additional tag. -/
  | typed (kind : String) (extra : Option String) (content : Content)

/-- What a claimed piece consists of. -/
inductive Content where
  /-- Text. -/
  | leaf (text : Text)
  /-- A single token. -/
  | token (token : Token)
  /-- A stream of tokens. -/
  | stream (tokens : List Token)

end

deriving instance Repr for Token, Content

instance : Inhabited Token := ⟨.plain []⟩

/-! ## Text -/

mutual

/-- The text under a token. -/
def Token.text : Token → Text
  | .plain t => t
  | .typed _ _ content => content.text

/-- The text under a content. -/
def Content.text : Content → Text
  | .leaf t => t
  | .token t => t.text
  | .stream ts => Token.textOf ts

/-- The text of a stream. -/
def Token.textOf : List Token → Text
  | [] => []
  | t :: rest => t.text ++ Token.textOf rest

end

/-! ## Length -/

mutual

/-- The number of bytes under a token. -/
def Token.size : Token → Nat
  | .plain t => Text.bytes t
  | .typed _ _ content => content.size

/-- The number of bytes under a content. -/
def Content.size : Content → Nat
  | .leaf t => Text.bytes t
  | .token t => t.size
  | .stream ts => Token.sizeOf ts

/-- The number of bytes of a stream. -/
def Token.sizeOf : List Token → Nat
  | [] => 0
  | t :: rest => t.size + Token.sizeOf rest

end

mutual

/-- A token is as long as its text. -/
theorem Token.size_eq_bytes : (t : Token) → t.size = Text.bytes t.text
  | .plain _ => rfl
  | .typed _ _ content => content.size_eq_bytes

/-- A content is as long as its text. -/
theorem Content.size_eq_bytes : (c : Content) → c.size = Text.bytes c.text
  | .leaf _ => rfl
  | .token t => t.size_eq_bytes
  | .stream ts => Token.sizeOf_eq_bytes ts

/-- A stream is as long as its text. -/
theorem Token.sizeOf_eq_bytes : (ts : List Token) → Token.sizeOf ts = Text.bytes (Token.textOf ts)
  | [] => rfl
  | t :: rest => by
    simp [Token.sizeOf, Token.textOf, t.size_eq_bytes, Token.sizeOf_eq_bytes rest]

end

/-! ## Tags -/

namespace Token

/-- The kind of a token; plain text has none. -/
def kind? : Token → Option String
  | .plain _ => none
  | .typed kind _ _ => some kind

/-- The tags of a token: its kind, then the additional tag. -/
def tags : Token → List String
  | .plain _ => []
  | .typed kind extra _ => kind :: extra.toList

end Token

end BlockNotes
