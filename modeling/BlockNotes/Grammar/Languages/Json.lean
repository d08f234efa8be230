import BlockNotes.Grammar.Rule

/-!
# JSON

A string with a colon after it is the name of a property.
-/

namespace BlockNotes.Languages

/-- The rules of JSON. -/
def json : List RuleSpec := [
  { kind := "property", greedy := true,
    pattern := "(?P<token>\"(?:\\\\.|[^\\\\\"\\r\\n])*\")\\s*:" },
  { kind := "string", greedy := true, pattern := "\"(?:\\\\.|[^\\\\\"\\r\\n])*\"" },
  { kind := "comment", greedy := true, pattern := "//.*|/\\*[\\s\\S]*?(?:\\*/|$)" },
  { kind := "number", pattern := "-?\\b\\d+(?:\\.\\d+)?(?:[eE][+-]?\\d+)?\\b" },
  { kind := "punctuation", pattern := "[\x7b\x7d\\[\\],]" },
  { kind := "operator", pattern := ":" },
  { kind := "boolean", pattern := anyWord ["false", "true"] },
  { kind := "null", extra := "keyword", pattern := "\\bnull\\b" }]

end BlockNotes.Languages
