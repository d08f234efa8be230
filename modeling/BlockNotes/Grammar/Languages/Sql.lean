import BlockNotes.Grammar.Rule

/-!
# SQL

Names are matched without regard to case.
-/

namespace BlockNotes.Languages

/-- What a quoted identifier holds. -/
def sqlIdentifier : List RuleSpec := [
  { kind := "punctuation", pattern := "^`|`$" }]

/-- The rules of SQL. -/
def sql : List RuleSpec := [
  { kind := "comment", greedy := true, pattern := "--.*|/\\*[\\s\\S]*?\\*/" },
  { kind := "string", greedy := true,
    pattern := "\"(?:\\\\[\\s\\S]|[^\"\\\\])*\"|'(?:''|\\\\[\\s\\S]|[^'\\\\])*'" },
  { kind := "identifier", greedy := true, pattern := "`(?:\\\\[\\s\\S]|``|[^`\\\\])+`",
    inside := some (.grammar sqlIdentifier) },
  { kind := "variable", pattern := "@[\\w.$]+" },
  { kind := "function",
    pattern :=
      "(?i)\\b(?P<token>AVG|COUNT|FIRST|FORMAT|LAST|LCASE|LEN|MAX|MID|MIN|MOD|NOW|ROUND|SUM" ++
      "|UCASE)\\s*\\(" },
  { kind := "keyword", pattern := "(?i)" ++ anyWord [
      "ADD", "ALL", "ALTER", "AS", "ASC", "BEGIN", "BY", "CASE", "CHECK", "COMMIT",
      "CONSTRAINT", "CREATE", "DEFAULT", "DELETE", "DESC", "DISTINCT", "DROP", "ELSE", "END",
      "EXISTS", "FOREIGN", "FROM", "FULL", "GROUP", "HAVING", "IF", "INDEX", "INNER", "INSERT",
      "INTO", "JOIN", "KEY", "LEFT", "LIMIT", "OFFSET", "ON", "ORDER", "OUTER", "PRIMARY",
      "REFERENCES", "RETURNING", "RIGHT", "ROLLBACK", "SELECT", "SET", "TABLE", "THEN",
      "TRANSACTION", "UNION", "UNIQUE", "UPDATE", "VALUES", "VIEW", "WHEN", "WHERE", "WITH"] },
  { kind := "boolean", pattern := "(?i)" ++ anyWord ["FALSE", "NULL", "TRUE"] },
  { kind := "number", pattern := "(?i)\\b0x[\\da-f]+\\b|\\b\\d+(?:\\.\\d*)?|\\B\\.\\d+\\b" },
  { kind := "operator",
    pattern :=
      "(?i)[-+*/=%^~]|&&?|\\|\\|?|!=?|<(?:=>?|<|>)?|>[>=]?|\\b(?:AND|BETWEEN|DIV|ILIKE|IN|IS" ++
      "|LIKE|NOT|OR|REGEXP|RLIKE|XOR)\\b" },
  { kind := "punctuation", pattern := "[;\\[\\]()`,.]" }]

end BlockNotes.Languages
