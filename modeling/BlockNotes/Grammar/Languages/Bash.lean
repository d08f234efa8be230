import BlockNotes.Grammar.Rule

/-!
# Shell scripts

A comment needs something before it that cannot belong to a word, so the rule
takes that character as context.
-/

namespace BlockNotes.Languages

/-- What a string holds. -/
def bashString : List RuleSpec := [
  { kind := "variable", pattern := "\\$\\\x7b[^\x7d]*\\\x7d|\\$(?:\\w+|[#?*!@$])" },
  { kind := "string", pattern := "(?s).+" }]

/-- The rules of shell scripts. -/
def bash : List RuleSpec := [
  { kind := "shebang", extra := "important", greedy := true, pattern := "^#!\\s*/.*" },
  { kind := "comment", greedy := true, pattern := "(?m)(?:^|[^\"\x7b\\\\$\\w])(?P<token>#.*)" },
  { kind := "string", greedy := true, pattern := "\"(?:\\\\[\\s\\S]|[^\"\\\\])*\"|'[^']*'",
    inside := some (.grammar bashString) },
  { kind := "variable", pattern := "\\$\\\x7b[^\x7d]*\\\x7d|\\$(?:\\w+|[#?*!@$])" },
  { kind := "function-name", extra := "function", pattern := "\\bfunction\\s+(?P<token>\\w+)" },
  { kind := "keyword", pattern := anyWord [
      "case", "do", "done", "elif", "else", "esac", "fi", "for", "function", "if", "in",
      "select", "then", "until", "while"] },
  { kind := "builtin", pattern := anyWord [
      "alias", "bind", "break", "builtin", "caller", "cd", "command", "continue", "declare",
      "echo", "enable", "eval", "exec", "exit", "export", "getopts", "hash", "help", "let",
      "local", "logout", "mapfile", "printf", "pwd", "read", "readarray", "readonly", "return",
      "set", "shift", "shopt", "source", "test", "times", "trap", "type", "typeset", "ulimit",
      "umask", "unalias", "unset"] },
  { kind := "boolean", pattern := anyWord ["false", "true"] },
  { kind := "number", pattern := "\\b\\d+(?:\\.\\d+)?\\b" },
  { kind := "operator", pattern := "&&|\\|\\||[=!]=|<<<?|>>?|[|&<>=]" },
  { kind := "punctuation", pattern := "\\$?\\(\\(?|\\)\\)?|\\.\\.|[\x7b\x7d\\[\\];\\\\]" }]

end BlockNotes.Languages
