import BlockNotes.Grammar.Rule

/-!
# Style sheets

Selectors and properties are told apart by what follows them: a brace or a
colon, which the rules take as context.
-/

namespace BlockNotes.Languages

/-- What an address holds. -/
def cssUrl : List RuleSpec := [
  { kind := "function", pattern := "(?i)^url" },
  { kind := "punctuation", pattern := "^\\(|\\)$" },
  { kind := "string", pattern := "(?s).+" }]

/-- What the head of an at-rule holds. -/
def cssAtRule : List RuleSpec := [
  { kind := "rule", pattern := "^@[\\w-]+" },
  { kind := "keyword", pattern := anyWord ["and", "not", "only", "or"] },
  { kind := "punctuation", pattern := "[(),:]" }]

/-- The rules of style sheets. -/
def css : List RuleSpec := [
  { kind := "comment", greedy := true, pattern := "/\\*[\\s\\S]*?\\*/" },
  { kind := "url", greedy := true,
    pattern := "(?i)\\burl\\((?:\"[^\"]*\"|'[^']*'|[^\"'\\r\\n()]*)\\)",
    inside := some (.grammar cssUrl) },
  { kind := "string", greedy := true,
    pattern := "\"(?:\\\\.|[^\\\\\"\\r\\n])*\"|'(?:\\\\.|[^\\\\'\\r\\n])*'" },
  { kind := "atrule", pattern := "@[\\w-]+(?:[^;\x7b\"']|\"[^\"]*\"|'[^']*')*",
    inside := some (.grammar cssAtRule) },
  { kind := "selector",
    pattern :=
      "(?:^|[\x7b\x7d\\s])(?P<token>[^\x7b\x7d\\s](?:[^\x7b\x7d;\\s]" ++
      "|\\s+[^\\s\x7b])*?)\\s*\\\x7b" },
  { kind := "property", pattern := "(?:^|[^-\\w])(?P<token>-\x7b0,2\x7d[a-zA-Z_][-\\w]*)\\s*:" },
  { kind := "important", pattern := "(?i)!important\\b" },
  { kind := "function", pattern := "(?i)\\b(?P<token>[-a-z0-9]+)\\(" },
  { kind := "hexcode", extra := "color", pattern := "#[\\da-fA-F]\x7b3,8\x7d\\b" },
  { kind := "number", pattern := "-?(?:\\d+\\.?\\d*|\\.\\d+)(?:%|[a-zA-Z]+)?" },
  { kind := "punctuation", pattern := "[()\x7b\x7d;:,]" }]

end BlockNotes.Languages
