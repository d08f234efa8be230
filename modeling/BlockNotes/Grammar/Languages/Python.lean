import BlockNotes.Grammar.Rule

/-!
# Python

What stands in the braces of a formatted string is tokenized as Python again.
-/

namespace BlockNotes.Languages

/-- What an interpolation holds. -/
def pythonInterpolation : List RuleSpec := [
  { kind := "format-spec", pattern := "(?P<token>:[^:()\x7b\x7d]+)\\\x7d$" },
  { kind := "conversion-option", pattern := "(?P<token>![sra])[:\x7d]" },
  { kind := "punctuation", pattern := "^\\\x7b|\\\x7d$" },
  { kind := "expression", pattern := "(?s).+", inside := some (.language "python") }]

/-- What a formatted string holds.  Doubled braces stand for themselves. -/
def pythonFormatted : List RuleSpec := [
  { kind := "string", pattern := "\\\x7b\\\x7b|\\\x7d\\\x7d" },
  { kind := "interpolation", pattern := "\\\x7b(?:[^\x7b\x7d]|\\\x7b[^\x7b\x7d]*\\\x7d)*\\\x7d",
    inside := some (.grammar pythonInterpolation) },
  { kind := "string", pattern := "(?s).+" }]

/-- What a decorator holds. -/
def pythonDecorator : List RuleSpec := [
  { kind := "punctuation", pattern := "\\." }]

/-- The rules of Python. -/
def python : List RuleSpec := [
  { kind := "comment", greedy := true, pattern := "#.*" },
  { kind := "string-interpolation", greedy := true,
    pattern :=
      "(?i)\\b(?:f|fr|rf)(?:\"\"\"[\\s\\S]*?\"\"\"|'''[\\s\\S]*?'''|\"(?:\\\\." ++
      "|[^\\\\\"\\r\\n])*\"|'(?:\\\\.|[^\\\\'\\r\\n])*')",
    inside := some (.grammar pythonFormatted) },
  { kind := "string", greedy := true,
    pattern :=
      "(?i)(?:\\b(?:[rub]|br|rb))?(?:\"\"\"[\\s\\S]*?\"\"\"|'''[\\s\\S]*?'''|\"(?:\\\\." ++
      "|[^\\\\\"\\r\\n])*\"|'(?:\\\\.|[^\\\\'\\r\\n])*')" },
  { kind := "function", pattern := "\\bdef[ \\t]+(?P<token>[a-zA-Z_]\\w*)\\s*\\(" },
  { kind := "class-name", pattern := "\\bclass\\s+(?P<token>\\w+)" },
  { kind := "decorator", extra := "annotation",
    pattern := "(?m)^[ \\t]*(?P<token>@\\w+(?:\\.\\w+)*)",
    inside := some (.grammar pythonDecorator) },
  { kind := "keyword", pattern := anyWord [
      "and", "as", "assert", "async", "await", "break", "case", "class", "continue", "def",
      "del", "elif", "else", "except", "exec", "finally", "for", "from", "global", "if",
      "import", "in", "is", "lambda", "match", "nonlocal", "not", "or", "pass", "print",
      "raise", "return", "try", "while", "with", "yield"] },
  { kind := "builtin", pattern := anyWord [
      "__import__", "abs", "all", "any", "ascii", "bin", "bool", "breakpoint", "bytearray",
      "bytes", "callable", "chr", "classmethod", "compile", "complex", "delattr", "dict", "dir",
      "divmod", "enumerate", "eval", "filter", "float", "format", "frozenset", "getattr",
      "globals", "hasattr", "hash", "help", "hex", "id", "input", "int", "isinstance",
      "issubclass", "iter", "len", "list", "locals", "map", "max", "memoryview", "min", "next",
      "object", "oct", "open", "ord", "pow", "property", "range", "repr", "reversed", "round",
      "set", "setattr", "slice", "sorted", "staticmethod", "str", "sum", "super", "tuple",
      "type", "vars", "zip"] },
  { kind := "boolean", pattern := anyWord ["False", "None", "True"] },
  { kind := "number",
    pattern :=
      "(?i)\\b0(?:b(?:_?[01])+|o(?:_?[0-7])+|x(?:_?[a-f0-9])+)\\b" ++
      "|(?:\\b\\d+(?:_\\d+)*(?:\\.(?:\\d+(?:_\\d+)*)?)?" ++
      "|\\B\\.\\d+(?:_\\d+)*)(?:e[+-]?\\d+(?:_\\d+)*)?j?" },
  { kind := "operator", pattern := "[-+%=]=?|!=|:=|\\*\\*?=?|//?=?|<[<=>]?|>[=>]?|[&|^~]" },
  { kind := "punctuation", pattern := "[\x7b\x7d\\[\\];(),.:]" }]

end BlockNotes.Languages
