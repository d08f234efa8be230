import BlockNotes.Grammar.Tokenize
import BlockNotes.Unicode.Case

/-!
# Registries

A registry holds grammars by name, and aliases that stand for other names.
Names are compared in lower case, an alias goes before a grammar of the same
name, and it is followed once.

The rest of the library asks for no more than a `Tokenizer`: something that
tokenizes by name, says which names it knows, and takes in an empty grammar for
a name that it does not know.
-/

namespace BlockNotes

/-- Something that tokenizes text with grammars by name. -/
class Tokenizer (τ : Type) where
  /-- The tokens of a text under the grammar of a name. -/
  tokenize : τ → Text → String → Except TokenizeError (List Token)
  /-- Whether there is a grammar of this name. -/
  hasGrammar : τ → String → Bool
  /-- Takes in an empty grammar, unless there is one of this name. -/
  registerFallback : τ → String → τ

/-- Grammars by name, with aliases. -/
structure Registry where
  /-- The grammars, each name in lower case and once. -/
  grammars : List (String × Grammar) := []
  /-- The aliases and what they stand for, in lower case. -/
  aliases : List (String × String) := []

namespace Registry

/-- Adds an entry in place of the one with its key. -/
def put {α : Type} (entries : List (String × α)) (key : String) (value : α) : List (String × α) :=
  (key, value) :: entries.filter fun e => e.1 ≠ key

/-- No grammars. -/
def empty : Registry := {}

/-- Adds a grammar, or replaces the one of this name. -/
def register (r : Registry) (name : String) (grammar : Grammar) : Registry :=
  { r with grammars := put r.grammars (Unicode.lowercase name) grammar }

/-- Makes a name stand for another. -/
def addAlias (r : Registry) (name target : String) : Registry :=
  { r with aliases := put r.aliases (Unicode.lowercase name) (Unicode.lowercase target) }

/-- The name in the list of grammars that a name stands for. -/
def resolve (r : Registry) (name : String) : String :=
  let name := Unicode.lowercase name
  (r.aliases.lookup name).getD name

/-- The grammar that a name stands for. -/
def get? (r : Registry) (name : String) : Option Grammar :=
  r.grammars.lookup (r.resolve name)

/-- The names of the grammars, in order; aliases are not among them. -/
def languages (r : Registry) : List String :=
  (r.grammars.map Prod.fst).mergeSort fun a b => decide (a ≤ b)

/-- Tokenizes with the grammar of a name. -/
def tokenize (r : Registry) (text : Text) (name : String) : Except TokenizeError (List Token) :=
  match r.get? name with
  | none => .error (.unknownGrammar name)
  | some grammar => grammar.tokenizeWithin r.get? (maxNesting + 1) name text

/-- Whether a name stands for a grammar. -/
def hasGrammar (r : Registry) (name : String) : Bool :=
  (r.get? name).isSome

/-- Adds an empty grammar, unless the name stands for one already. -/
def registerFallback (r : Registry) (name : String) : Registry :=
  if r.hasGrammar name then r else r.register name []

instance : Tokenizer Registry where
  tokenize := tokenize
  hasGrammar := hasGrammar
  registerFallback := registerFallback

end Registry

end BlockNotes
