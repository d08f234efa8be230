import BlockNotes.Toml.Word

/-!
# Tokens in TOML

The signs, strings, words, blanks and ends of line that a text consists of.
Comments are left out.  A string is first cut off at its closing quotes and then
decoded, so what stands in it does not matter for where it ends.

`next?` takes one token off a text, or passes over a comment.  What is left is
always shorter (`length_next?`), and so scanning comes to an end.
-/

namespace BlockNotes

/-- A token. -/
inductive TomlToken where
  /-- An end of line. -/
  | newline
  /-- Spaces and tabulators. -/
  | blank (text : Text)
  /-- `=` -/
  | equals
  /-- `,` -/
  | comma
  /-- `[` -/
  | openBracket
  /-- `]` -/
  | closeBracket
  /-- An opening brace. -/
  | openBrace
  /-- A closing brace. -/
  | closeBrace
  /-- A string in quotes, and whether they are three on each side. -/
  | string (text : Text) (long : Bool)
  /-- What stands without quotes, with the dots in it. -/
  | word (text : Text)
deriving DecidableEq, Repr

namespace TomlToken

/-! ## Where a string ends -/

/-- A text with more in front, and the rest. -/
def prepend (front : Text) (r : Option (Text × Text)) : Option (Text × Text) :=
  r.map fun (t, rest) => (front ++ t, rest)

/-- What stands before a closing quote that no backslash precedes, and the rest. -/
def cutBasic? : Text → Option (Text × Text)
  | [] => none
  | '"' :: rest => some ([], rest)
  | '\\' :: c :: rest => prepend ['\\', c] (cutBasic? rest)
  | c :: rest => if c = '\n' then none else prepend [c] (cutBasic? rest)

/-- What stands before three closing quotes; one or two more belong to the string. -/
def cutLongBasic? : Text → Option (Text × Text)
  | [] => none
  | '"' :: '"' :: '"' :: '"' :: '"' :: rest => some (['"', '"'], rest)
  | '"' :: '"' :: '"' :: '"' :: rest => some (['"'], rest)
  | '"' :: '"' :: '"' :: rest => some ([], rest)
  | '\\' :: c :: rest => prepend ['\\', c] (cutLongBasic? rest)
  | c :: rest => prepend [c] (cutLongBasic? rest)

/-- What stands before a closing apostrophe, and the rest. -/
def cutLiteral? : Text → Option (Text × Text)
  | [] => none
  | '\'' :: rest => some ([], rest)
  | c :: rest => prepend [c] (cutLiteral? rest)

/-- What stands before three closing apostrophes; one or two more belong to the string. -/
def cutLongLiteral? : Text → Option (Text × Text)
  | [] => none
  | '\'' :: '\'' :: '\'' :: '\'' :: '\'' :: rest => some (['\'', '\''], rest)
  | '\'' :: '\'' :: '\'' :: '\'' :: rest => some (['\''], rest)
  | '\'' :: '\'' :: '\'' :: rest => some ([], rest)
  | c :: rest => prepend [c] (cutLongLiteral? rest)

/-! ## What a string means -/

/-- Whether a character may stand in a string or a comment as it is. -/
def isPlain (c : Char) : Bool :=
  c = '\t' || (0x20 ≤ c.toNat && c.toNat ≠ 0x7f)

/-- The number of so many hexadecimal digits, and the rest. -/
def hex? : (count n : Nat) → Text → Option (Nat × Text)
  | 0, n, t => some (n, t)
  | count + 1, n, c :: rest =>
    if TomlWord.isDigitOf 16 c then hex? count (n * 16 + TomlWord.digitValue c) rest else none
  | _ + 1, _, [] => none

/-- The character that so many hexadecimal digits name, and the rest. -/
def coded? (count : Nat) (t : Text) : Option (Text × Text) :=
  (hex? count 0 t).bind fun (n, rest) =>
    if n.isValidChar then some ([Char.ofNat n], rest) else none

/-- A text without the blanks and ends of line at its start. -/
def dropGap : Text → Text
  | '\r' :: '\n' :: rest => dropGap rest
  | c :: rest => if c = ' ' || c = '\t' || c = '\n' then dropGap rest else c :: rest
  | [] => []

/-- The rest behind an end of line with blanks in front of it, and behind all blanks after it. -/
def gap? (t : Text) : Option Text :=
  match t.dropWhile fun c => c = ' ' || c = '\t' with
  | '\n' :: rest => some (dropGap rest)
  | '\r' :: '\n' :: rest => some (dropGap rest)
  | _ => none

/-- What stands for itself behind a backslash. -/
def shortEscape? (c : Char) : Option Char :=
  match c with
  | 'b' => some '\x08'
  | 't' => some '\t'
  | 'n' => some '\n'
  | 'f' => some '\x0c'
  | 'r' => some '\r'
  | 'e' => some '\x1b'
  | '"' => some '"'
  | '\\' => some '\\'
  | _ => none

/-- What a text behind a backslash means, and the rest. -/
def escape? (long : Bool) : Text → Option (Text × Text)
  | 'x' :: rest => coded? 2 rest
  | 'u' :: rest => coded? 4 rest
  | 'U' :: rest => coded? 8 rest
  | t =>
    match t with
    | c :: rest =>
      match shortEscape? c with
      | some d => some ([d], rest)
      | none => if long then (gap? t).map ([], ·) else none
    | [] => none

theorem length_hex? {count n m : Nat} {t rest : Text} (h : hex? count n t = some (m, rest)) :
    rest.length ≤ t.length := by
  fun_induction hex? count n t with
  | case1 => cases h; exact Nat.le_refl _
  | case2 n count c t hc ih => exact Nat.le_succ_of_le (ih h)
  | case3 => cases h
  | case4 => cases h

theorem length_coded? {count : Nat} {t s rest : Text} (h : coded? count t = some (s, rest)) :
    rest.length ≤ t.length := by
  simp only [coded?, Option.bind_eq_some_iff, Prod.exists] at h
  obtain ⟨n, t', h, h'⟩ := h
  split at h'
  · cases h'
    exact length_hex? h
  · cases h'

theorem length_dropGap (t : Text) : (dropGap t).length ≤ t.length := by
  fun_induction dropGap t with
  | case1 rest ih => simp only [List.length_cons]; omega
  | case2 c rest _ _ ih => simp only [List.length_cons]; omega
  | case3 => exact Nat.le_refl _
  | case4 => exact Nat.le_refl _

theorem length_gap? {t rest : Text} (h : gap? t = some rest) : rest.length ≤ t.length := by
  have hd := (List.dropWhile_suffix (fun c => c = ' ' || c = '\t') (l := t)).length_le
  unfold gap? at h
  split at h
  · next u e =>
    have := length_dropGap u
    cases h
    rw [e] at hd
    simp only [List.length_cons] at hd
    omega
  · next u e =>
    have := length_dropGap u
    cases h
    rw [e] at hd
    simp only [List.length_cons] at hd
    omega
  · cases h

theorem length_escape? {long : Bool} {t s rest : Text} (h : escape? long t = some (s, rest)) :
    rest.length ≤ t.length := by
  unfold escape? at h
  split at h
  · exact Nat.le_succ_of_le (length_coded? h)
  · exact Nat.le_succ_of_le (length_coded? h)
  · exact Nat.le_succ_of_le (length_coded? h)
  · split at h
    · next t _ _ _ c u =>
      split at h
      · cases h
        exact Nat.le_succ _
      · split at h
        · simp only [Option.map_eq_some_iff, Prod.mk.injEq] at h
          obtain ⟨u', h, -, rfl⟩ := h
          exact length_gap? h
        · cases h
    · cases h

/-- The text that a string with escapes means. -/
def decode? (long : Bool) : Text → Option Text
  | [] => some []
  | '\\' :: t =>
    match h : escape? long t with
    | none => none
    | some (s, rest) =>
      have := length_escape? h
      (decode? long rest).map (s ++ ·)
  | '\r' :: '\n' :: rest =>
    if long then (decode? long rest).map fun t => '\r' :: '\n' :: t else none
  | c :: rest => if isPlain c || (long && c = '\n') then (decode? long rest).map (c :: ·) else none
termination_by t => t.length

/-- The text that a string without escapes means. -/
def literal? (long : Bool) : Text → Option Text
  | [] => some []
  | '\r' :: '\n' :: rest =>
    if long then (literal? long rest).map fun t => '\r' :: '\n' :: t else none
  | c :: rest => if isPlain c || (long && c = '\n') then (literal? long rest).map (c :: ·) else none

/-- A long string without the end of line right behind its opening quotes. -/
def dropFirstBreak : Text → Text
  | '\n' :: rest => rest
  | '\r' :: '\n' :: rest => rest
  | t => t

/-! ## Scanning -/

/-- The token of one character, if it has one. -/
def ofSign? (c : Char) : Option TomlToken :=
  match c with
  | '=' => some equals
  | ',' => some comma
  | '[' => some openBracket
  | ']' => some closeBracket
  | '\x7b' => some openBrace
  | '\x7d' => some closeBrace
  | _ => none

/-- Whether a character is a space or a tabulator. -/
def isBlank (c : Char) : Bool :=
  c = ' ' || c = '\t'

/-- Whether a character may stand in a word. -/
def isWord (c : Char) : Bool :=
  !isBlank c && (ofSign? c).isNone && isPlain c && c ≠ '"' && c ≠ '\'' && c ≠ '#'

/-- The string of a cut, decoded. -/
def stringOf? (long : Bool) (decode : Text → Option Text) :
    Option (Text × Text) → Option (Option TomlToken × Text)
  | none => none
  | some (raw, rest) => (decode raw).map fun t => (some (string t long), rest)

/-- The first token of a text, or nothing for a comment, and the rest. -/
def next? : Text → Option (Option TomlToken × Text)
  | [] => none
  | '\n' :: rest => some (some newline, rest)
  | '\r' :: '\n' :: rest => some (some newline, rest)
  | '"' :: '"' :: '"' :: rest =>
    stringOf? true (fun t => decode? true (dropFirstBreak t)) (cutLongBasic? rest)
  | '"' :: rest => stringOf? false (decode? false) (cutBasic? rest)
  | '\'' :: '\'' :: '\'' :: rest =>
    stringOf? true (fun t => literal? true (dropFirstBreak t)) (cutLongLiteral? rest)
  | '\'' :: rest => stringOf? false (literal? false) (cutLiteral? rest)
  | '#' :: rest => some (none, rest.dropWhile isPlain)
  | c :: rest =>
    if isBlank c then some (some (blank (c :: rest.takeWhile isBlank)), rest.dropWhile isBlank)
    else
      match ofSign? c with
      | some sign => some (some sign, rest)
      | none =>
        if isWord c then some (some (word (c :: rest.takeWhile isWord)), rest.dropWhile isWord)
        else none

/-! ## Lengths -/

theorem of_prepend {f s rest : Text} {r : Option (Text × Text)}
    (h : prepend f r = some (s, rest)) : ∃ s', r = some (s', rest) := by
  simp only [prepend, Option.map_eq_some_iff, Prod.mk.injEq, Prod.exists] at h
  obtain ⟨s', rest', h, -, rfl⟩ := h
  exact ⟨s', h⟩

theorem length_cutBasic? {t s rest : Text} (h : cutBasic? t = some (s, rest)) :
    rest.length < t.length := by
  fun_induction cutBasic? t generalizing s rest with
  | case1 | case4 => cases h
  | case2 => cases h; simp
  | case3 c t ih | case5 c t _ _ _ ih =>
    obtain ⟨_, h⟩ := of_prepend h
    have := ih h
    simp only [List.length_cons]
    omega

theorem length_cutLongBasic? {t s rest : Text} (h : cutLongBasic? t = some (s, rest)) :
    rest.length < t.length := by
  fun_induction cutLongBasic? t generalizing s rest with
  | case1 => cases h
  | case2 | case3 | case4 =>
    cases h
    simp only [List.length_cons]
    omega
  | case5 c t ih | case6 c t _ _ _ _ ih =>
    obtain ⟨_, h⟩ := of_prepend h
    have := ih h
    simp only [List.length_cons]
    omega

theorem length_cutLiteral? {t s rest : Text} (h : cutLiteral? t = some (s, rest)) :
    rest.length < t.length := by
  fun_induction cutLiteral? t generalizing s rest with
  | case1 => cases h
  | case2 => cases h; simp
  | case3 c t _ ih =>
    obtain ⟨_, h⟩ := of_prepend h
    have := ih h
    simp only [List.length_cons]
    omega

theorem length_cutLongLiteral? {t s rest : Text} (h : cutLongLiteral? t = some (s, rest)) :
    rest.length < t.length := by
  fun_induction cutLongLiteral? t generalizing s rest with
  | case1 => cases h
  | case2 | case3 | case4 =>
    cases h
    simp only [List.length_cons]
    omega
  | case5 c t _ _ _ ih =>
    obtain ⟨_, h⟩ := of_prepend h
    have := ih h
    simp only [List.length_cons]
    omega

theorem of_stringOf? {long : Bool} {decode : Text → Option Text} {r : Option (Text × Text)}
    {t : Option TomlToken} {rest : Text} (h : stringOf? long decode r = some (t, rest)) :
    ∃ raw, r = some (raw, rest) := by
  unfold stringOf? at h
  split at h
  · cases h
  · simp only [Option.map_eq_some_iff, Prod.mk.injEq] at h
    obtain ⟨_, _, -, rfl⟩ := h
    exact ⟨_, rfl⟩

/-- What is left behind a token is shorter. -/
theorem length_next? {t rest : Text} {token : Option TomlToken}
    (h : next? t = some (token, rest)) : rest.length < t.length := by
  have hd := fun (p : Char → Bool) (u : Text) => (List.dropWhile_suffix p (l := u)).length_le
  unfold next? at h
  split at h
  · cases h
  · cases h; simp
  · cases h; simp only [List.length_cons]; omega
  · obtain ⟨_, h⟩ := of_stringOf? h
    have := length_cutLongBasic? h
    simp only [List.length_cons]
    omega
  · obtain ⟨_, h⟩ := of_stringOf? h
    have := length_cutBasic? h
    simp only [List.length_cons]
    omega
  · obtain ⟨_, h⟩ := of_stringOf? h
    have := length_cutLongLiteral? h
    simp only [List.length_cons]
    omega
  · obtain ⟨_, h⟩ := of_stringOf? h
    have := length_cutLiteral? h
    simp only [List.length_cons]
    omega
  · cases h
    exact Nat.lt_succ_of_le (hd _ _)
  · split at h
    · cases h
      exact Nat.lt_succ_of_le (hd _ _)
    · split at h
      · cases h
        simp
      · split at h
        · cases h
          exact Nat.lt_succ_of_le (hd _ _)
        · cases h

/-- The tokens of a text, if it consists of tokens. -/
def scan? (t : Text) : Option (List TomlToken) :=
  match h : next? t with
  | none => if t = [] then some [] else none
  | some (token, rest) =>
    have := length_next? h
    (scan? rest).map fun tokens => token.toList ++ tokens
termination_by t.length

/-- Joins a date with a time that stands one space behind it. -/
def joinDates : List TomlToken → List TomlToken
  | word d :: blank [' '] :: word t :: rest =>
    if TomlWord.date? d = some [] ∧ t.head?.any Char.isDigit then
      word (d ++ ' ' :: t) :: joinDates rest
    else word d :: blank [' '] :: joinDates (word t :: rest)
  | token :: rest => token :: joinDates rest
  | [] => []

example : decode? false "\\u00e9".toList = some ['é'] := by cbv
example : decode? true "a\\\n  b".toList = some "ab".toList := by cbv
example : scan? "a.b = 'x' # y".toList =
    some [.word "a.b".toList, .blank [' '], .equals, .blank [' '], .string ['x'] false,
      .blank [' ']] := by cbv
example : scan? "'''\na'''''".toList = some [.string "a''".toList true] := by cbv
example : scan? "\"a\nb\"".toList = none := by cbv

end TomlToken

end BlockNotes
