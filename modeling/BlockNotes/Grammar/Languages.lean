import BlockNotes.Grammar.Registry
import BlockNotes.Grammar.Languages.Bash
import BlockNotes.Grammar.Languages.Css
import BlockNotes.Grammar.Languages.JavaScript
import BlockNotes.Grammar.Languages.Json
import BlockNotes.Grammar.Languages.Python
import BlockNotes.Grammar.Languages.Rust
import BlockNotes.Grammar.Languages.Sql

/-!
# The languages that come with the library

Nine grammars with their aliases.  `text` has no rules, so everything in it
stays plain.
-/

namespace BlockNotes

/-- A language: its name, the names that stand for it, and its rules. -/
structure Language where
  /-- The name. -/
  name : String
  /-- The aliases. -/
  aliases : List String
  /-- The rules. -/
  rules : List RuleSpec

namespace Languages

/-- The languages, in the order in which they are registered. -/
def all : List Language := [
  ⟨"text", ["plain", "plaintext", "txt"], []⟩,
  ⟨"python", ["py"], python⟩,
  ⟨"javascript", ["js", "jsx"], javascript⟩,
  ⟨"typescript", ["ts", "tsx"], typescript⟩,
  ⟨"rust", ["rs"], rust⟩,
  ⟨"json", [], json⟩,
  ⟨"bash", ["sh", "shell"], bash⟩,
  ⟨"css", [], css⟩,
  ⟨"sql", [], sql⟩]

end Languages

namespace Registry

/-- Compiles and registers a language with its aliases. -/
def addLanguage (r : Registry) (l : Language) : Except GrammarError Registry := do
  let grammar ← Grammar.ofRules l.rules
  pure (l.aliases.foldl (fun r a => r.addAlias a l.name) (r.register l.name grammar))

/-- A registry of given languages. -/
def ofLanguages (ls : List Language) : Except GrammarError Registry :=
  ls.foldlM addLanguage empty

/-- The registry of the languages that come with the library. -/
def builtin : Except GrammarError Registry :=
  ofLanguages Languages.all

end Registry

end BlockNotes
