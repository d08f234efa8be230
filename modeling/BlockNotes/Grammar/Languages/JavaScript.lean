import BlockNotes.Grammar.Rule

/-!
# JavaScript and TypeScript

Both have the same rules but for a few names.  What stands in `${...}` of a
template is tokenized as the language itself, so the grammar is recursive
through its name.
-/

namespace BlockNotes.Languages

/-- What an interpolation holds: its braces, and an expression in the language. -/
def scriptInterpolation (language : String) : List RuleSpec := [
  { kind := "interpolation-punctuation", extra := "punctuation", pattern := "^\\$\\\x7b|\\\x7d$" },
  { kind := "expression", pattern := "(?s).+", inside := some (.language language) }]

/-- What a template holds: its quotes, interpolations and the text between them. -/
def scriptTemplate (language : String) : List RuleSpec := [
  { kind := "template-punctuation", extra := "string", pattern := "^`|`$" },
  { kind := "interpolation",
    pattern :=
      "\\$\\\x7b(?:[^\x7b\x7d]|\\\x7b(?:[^\x7b\x7d]|\\\x7b[^\x7b\x7d]*\\\x7d)*\\\x7d)*\\\x7d",
    inside := some (.grammar (scriptInterpolation language)) },
  { kind := "string", pattern := "(?s).+" }]

/-- The rules of a language of this family.  Interpolations enter the language again. -/
def script (language : String) : List RuleSpec := [
  { kind := "comment", greedy := true, pattern := "//.*|/\\*[\\s\\S]*?(?:\\*/|$)" },
  { kind := "template-string", greedy := true,
    pattern :=
      "`(?:\\\\[\\s\\S]|\\$\\\x7b(?:[^\x7b\x7d]|\\\x7b(?:[^\x7b\x7d]" ++
      "|\\\x7b[^\x7b\x7d]*\\\x7d)*\\\x7d)*\\\x7d|[^\\\\`])*`",
    inside := some (.grammar (scriptTemplate language)) },
  { kind := "string", greedy := true,
    pattern := "\"(?:\\\\.|[^\\\\\"\\r\\n])*\"|'(?:\\\\.|[^\\\\'\\r\\n])*'" },
  { kind := "class-name",
    pattern := "\\b(?:class|extends|implements|instanceof|interface|new)\\s+(?P<token>[\\w.$]+)" },
  { kind := "keyword", pattern := anyWord [
      "as", "assert", "async", "await", "break", "case", "catch", "class", "const", "continue",
      "debugger", "default", "delete", "do", "else", "enum", "export", "extends", "finally",
      "for", "from", "function", "get", "if", "implements", "import", "in", "instanceof",
      "interface", "let", "new", "null", "of", "package", "private", "protected", "public",
      "return", "set", "static", "super", "switch", "this", "throw", "try", "typeof",
      "undefined", "var", "void", "while", "with", "yield"] },
  { kind := "boolean", pattern := anyWord ["false", "true"] },
  { kind := "function",
    pattern := "(?P<token>#?[_$a-zA-Z][\\w$]*)\\s*(?:\\.\\s*(?:apply|bind|call)\\s*)?\\(" },
  { kind := "number",
    pattern :=
      "\\b0[xX][\\da-fA-F](?:_?[\\da-fA-F])*n?\\b|\\b0[bB][01](?:_?[01])*n?\\b" ++
      "|\\b0[oO][0-7](?:_?[0-7])*n?\\b|(?:\\b\\d+(?:_\\d+)*\\.?(?:\\d+(?:_\\d+)*)?" ++
      "|\\B\\.\\d+(?:_\\d+)*)(?:[eE][+-]?\\d+(?:_\\d+)*)?n?" },
  { kind := "operator",
    pattern :=
      "--|\\+\\+|\\*\\*=?|=>|&&=?|\\|\\|=?|[!=]==|<<=?|>>>?=?|[-+*/%&|^!=<>]=?|\\.\x7b3\x7d" ++
      "|\\?\\?=?|\\?\\.?|[~:]" },
  { kind := "punctuation", pattern := "[\x7b\x7d\\[\\];(),.]" }]

/-- The rules of JavaScript. -/
def javascript : List RuleSpec :=
  script "javascript"

/-- The rules of TypeScript: those of JavaScript, with more keywords and the names of types. -/
def typescript : List RuleSpec :=
  let withKeywords := RuleSpec.insertBefore (script "typescript") "keyword"
    { kind := "keyword", pattern := anyWord [
        "abstract", "declare", "is", "keyof", "module", "namespace", "override", "readonly",
        "require", "satisfies", "type"] }
  RuleSpec.insertBefore withKeywords "keyword"
    { kind := "builtin", pattern := anyWord [
        "Array", "Function", "Promise", "any", "boolean", "console", "never", "number",
        "string", "symbol", "unknown"] }

end BlockNotes.Languages
