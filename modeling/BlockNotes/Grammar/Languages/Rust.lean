import BlockNotes.Grammar.Rule

/-!
# Rust

A quote starts a character or a lifetime.  Characters are greedy, so what is
left of a quote is a lifetime.
-/

namespace BlockNotes.Languages

/-- The rules of Rust. -/
def rust : List RuleSpec := [
  { kind := "comment", greedy := true, pattern := "//.*|/\\*[\\s\\S]*?\\*/" },
  { kind := "string", greedy := true,
    pattern := "b?r#\"[\\s\\S]*?\"#|b?r\"[^\"]*\"|b?\"(?:\\\\[\\s\\S]|[^\\\\\"])*\"" },
  { kind := "char", extra := "string", greedy := true,
    pattern :=
      "b?'(?:\\\\(?:x[0-7][\\da-fA-F]|u\\\x7b(?:[\\da-fA-F]_*)\x7b1,6\x7d\\\x7d|.)" ++
      "|[^\\\\\\r\\n\\t'])'" },
  { kind := "attribute", extra := "attr-name", greedy := true,
    pattern := "#!?\\[(?:[^\\[\\]\"]|\"(?:\\\\[\\s\\S]|[^\\\\\"])*\")*\\]" },
  { kind := "lifetime-annotation", extra := "symbol", pattern := "'\\w+" },
  { kind := "function-definition", extra := "function", pattern := "\\bfn\\s+(?P<token>\\w+)" },
  { kind := "type-definition", extra := "class-name",
    pattern := "\\b(?:enum|struct|trait|type|union)\\s+(?P<token>\\w+)" },
  { kind := "keyword", pattern := anyWord [
      "Self", "abstract", "as", "async", "await", "become", "box", "break", "const", "continue",
      "crate", "do", "dyn", "else", "enum", "extern", "final", "fn", "for", "if", "impl", "in",
      "let", "loop", "macro", "match", "mod", "move", "mut", "override", "priv", "pub", "ref",
      "return", "self", "static", "struct", "super", "trait", "try", "type", "typeof", "union",
      "unsafe", "unsized", "use", "virtual", "where", "while", "yield"] },
  { kind := "function", pattern := "(?P<token>\\b[a-z_]\\w*)\\s*(?:::\\s*<|\\()" },
  { kind := "macro", extra := "property", pattern := "\\b\\w+!" },
  { kind := "class-name",
    pattern := "\\b[A-Z]\\w*\\b|\\b(?:bool|char|f32|f64|[iu](?:8|16|32|64|128|size)|str)\\b" },
  { kind := "number",
    pattern :=
      "\\b(?:0x[\\dA-Fa-f](?:_?[\\dA-Fa-f])*|0o[0-7](?:_?[0-7])*|0b[01](?:_?[01])*" ++
      "|(?:\\d(?:_?\\d)*)?\\.?\\d(?:_?\\d)*(?:[Ee][+-]?\\d+)?)(?:_?(?:f32|f64|[iu](?:8|16|32|64" ++
      "|128|size)?))?\\b" },
  { kind := "boolean", pattern := anyWord ["false", "true"] },
  { kind := "punctuation", pattern := "->|\\.\\.=|\\.\x7b1,3\x7d|::|[\x7b\x7d\\[\\];(),:]" },
  { kind := "operator", pattern := "[-+*/%!^]=?|=[=>]?|&[&=]?|\\|[|=]?|<<?=?|>>?=?|[@?]" }]

end BlockNotes.Languages
