import BlockNotes.Toml.Reader
import BlockNotes.Toml.Writer
import Mathlib.Data.List.Basic
import Mathlib.Tactic.SplitIfs

/-!
# Strings in TOML are read back

A string is read in two passes: it is cut off at its closing quotes, and then what was cut
off is decoded.  Whichever of its four forms a text is written in, both passes undo it
(`TomlToken.next?_string`).

*Pieces.*  Between quotes a character is written as itself, as a backslash and a letter, or
as a number (`TomlToken.Escaped`).  Each piece is passed over by the cut as a whole and
decoded to its character.

*Runs.*  Three quotes close a long string, so inside of it there are never three of them in a
row.  The induction carries the run of quotes that stands in front of what is left: up to two
belong to the string wherever they are, before another character as well as before the
closing ones.  The same holds for apostrophes, where the run is counted by
`TomlWriter.longestRun`.
-/

namespace BlockNotes

namespace TomlToken

open TomlWriter

variable {long : Bool} {c : Char} {p q t u rest : Text}

theorem prepend_prepend (p q : Text) (r : Option (Text × Text)) :
    prepend p (prepend q r) = prepend (p ++ q) r := by
  simp [prepend, Option.map_map, Function.comp_def]

theorem prepend_some (p q rest : Text) : prepend p (some (q, rest)) = some (p ++ q, rest) := rfl

/-! ## Pieces -/

/-- How a character may be written between quotes. -/
inductive Escaped (long : Bool) (c : Char) : Text → Prop where
  /-- By a letter behind a backslash. -/
  | short (e : Char) (h : shortEscape? e = some c) : Escaped long c ['\\', e]
  /-- By its number. -/
  | coded (h : c.toNat < 0x80) :
    Escaped long c ['\\', 'u', '0', '0', hexDigit (c.toNat / 16), hexDigit (c.toNat % 16)]
  /-- As it is. -/
  | plain (hquote : c ≠ '"') (hslash : c ≠ '\\') (h : isPlain c = true ∨ long = true ∧ c = '\n') :
    Escaped long c [c]

theorem isPlain_of_needsCode (h : needsCode c = false) (hc : c ≠ '\n') : isPlain c = true := by
  have hdelete : c = '\x7f' ↔ c.toNat = 0x7f := by
    rw [Char.ext_iff, UInt32.ext_iff]
    rfl
  simp only [needsCode, isPlain, Bool.and_eq_false_iff, Bool.or_eq_false_iff,
    decide_eq_false_iff_not, Bool.or_eq_true, Bool.and_eq_true, decide_eq_true_eq] at h ⊢
  grind

/-- A character other than a quote is escaped in one of these ways. -/
theorem escaped_escape (long : Bool) (hc : c ≠ '"') : Escaped long c (escape long c) := by
  unfold escape
  split
  · exact .short 'b' rfl
  · exact .short 't' rfl
  · cases long
    · exact .short 'n' rfl
    · exact .plain (by decide) (by decide) (.inr ⟨rfl, rfl⟩)
  · exact .short 'f' rfl
  · exact .short 'r' rfl
  · exact .short '\\' rfl
  next hnewline _ _ hslash =>
    split
    next hcode =>
      refine .coded ?_
      simp only [needsCode, Bool.and_eq_true, Bool.or_eq_true, decide_eq_true_eq] at hcode
      rcases hcode.2 with hlow | rfl
      · omega
      · decide
    next hcode =>
      exact .plain hc hslash (.inl (isPlain_of_needsCode (Bool.eq_false_iff.mpr hcode) hnewline))

theorem escaped_backslash_quote (long : Bool) : Escaped long '"' ['\\', '"'] :=
  .short '"' rfl

/-- A piece does not begin with a quote. -/
theorem Escaped.exists_cons (h : Escaped long c p) : ∃ d q, p = d :: q ∧ d ≠ '"' := by
  cases h with
  | short e => exact ⟨_, _, rfl, by decide⟩
  | coded => exact ⟨_, _, rfl, by decide⟩
  | plain hquote => exact ⟨_, _, rfl, hquote⟩

/-- A piece has an end of line only for an end of line. -/
theorem Escaped.newline_mem (h : Escaped long c p) (hmem : '\n' ∈ p) : c = '\n' := by
  cases h with
  | short e he =>
    simp only [List.mem_cons, List.not_mem_nil, or_false] at hmem
    rcases hmem with hmem | rfl
    · cases hmem
    · cases he
  | coded hc =>
    have hdigit : ∀ n < 16, '\n' ≠ hexDigit n := by decide
    simp [hdigit (c.toNat / 16) (by omega), hdigit (c.toNat % 16) (by omega)] at hmem
  | plain => exact (List.mem_singleton.mp hmem).symm

/-- A hexadecimal digit stands for itself between quotes, and its value is what it was made from. -/
theorem hexDigit_spec : ∀ n < 16, isPlain (hexDigit n) = true ∧ hexDigit n ≠ '"' ∧
    hexDigit n ≠ '\\' ∧ TomlWord.isDigitOf 16 (hexDigit n) = true ∧
    TomlWord.digitValue (hexDigit n) = n := by decide

/-! ## Pieces are passed over -/

theorem cutBasic?_plain (hquote : c ≠ '"') (hslash : c ≠ '\\') (h : isPlain c = true) (u : Text) :
    cutBasic? (c :: u) = prepend [c] (cutBasic? u) := by
  have hnewline : c ≠ '\n' := by
    rintro rfl
    cases h
  rw [cutBasic?, if_neg hnewline]
  · exact hquote
  · rintro _ _ rfl
    exact absurd rfl hslash

theorem cutLongBasic?_plain (hquote : c ≠ '"') (hslash : c ≠ '\\') (u : Text) :
    cutLongBasic? (c :: u) = prepend [c] (cutLongBasic? u) := by
  rw [cutLongBasic?] <;> simp_all

theorem cutLongLiteral?_plain (hc : c ≠ '\'') (u : Text) :
    cutLongLiteral? (c :: u) = prepend [c] (cutLongLiteral? u) := by
  rw [cutLongLiteral?] <;> simp_all

theorem Escaped.cutBasic?_append (h : Escaped false c p) (u : Text) :
    cutBasic? (p ++ u) = prepend p (cutBasic? u) := by
  cases h with
  | short e => simp [cutBasic?]
  | coded hc =>
    obtain ⟨hhigh, hhigh', hhigh'', -⟩ := hexDigit_spec (c.toNat / 16) (by omega)
    obtain ⟨hlow, hlow', hlow'', -⟩ := hexDigit_spec (c.toNat % 16) (by omega)
    have hzero : ∀ u, cutBasic? ('0' :: u) = prepend ['0'] (cutBasic? u) :=
      cutBasic?_plain (by decide) (by decide) rfl
    simp only [List.cons_append, List.nil_append, cutBasic?, hzero,
      cutBasic?_plain hhigh' hhigh'' hhigh, cutBasic?_plain hlow' hlow'' hlow, prepend_prepend]
  | plain hquote hslash h => exact cutBasic?_plain hquote hslash (h.resolve_right nofun) u

theorem Escaped.cutLongBasic?_append (h : Escaped true c p) (u : Text) :
    cutLongBasic? (p ++ u) = prepend p (cutLongBasic? u) := by
  cases h with
  | short e => simp [cutLongBasic?]
  | coded hc =>
    obtain ⟨-, hhigh, hhigh', -⟩ := hexDigit_spec (c.toNat / 16) (by omega)
    obtain ⟨-, hlow, hlow', -⟩ := hexDigit_spec (c.toNat % 16) (by omega)
    have hzero : ∀ u, cutLongBasic? ('0' :: u) = prepend ['0'] (cutLongBasic? u) :=
      cutLongBasic?_plain (by decide) (by decide)
    simp only [List.cons_append, List.nil_append, cutLongBasic?, hzero,
      cutLongBasic?_plain hhigh hhigh', cutLongBasic?_plain hlow hlow', prepend_prepend]
  | plain hquote hslash => exact cutLongBasic?_plain hquote hslash u

/-! ## Pieces are decoded -/

theorem coded?_hexDigit (h : c.toNat < 0x80) (u : Text) :
    coded? 4 ('0' :: '0' :: hexDigit (c.toNat / 16) :: hexDigit (c.toNat % 16) :: u) =
      some ([c], u) := by
  obtain ⟨-, -, -, hhigh, hhigh'⟩ := hexDigit_spec (c.toNat / 16) (by omega)
  obtain ⟨-, -, -, hlow, hlow'⟩ := hexDigit_spec (c.toNat % 16) (by omega)
  have hzero : TomlWord.isDigitOf 16 '0' = true ∧ TomlWord.digitValue '0' = 0 := by decide
  have hnumber : c.toNat / 16 * 16 + c.toNat % 16 = c.toNat := by omega
  simp only [coded?, hex?, hzero, hhigh, hhigh', hlow, hlow', if_true, Nat.zero_mul, Nat.zero_add,
    Nat.add_zero, hnumber, Option.bind_some, Char.ofNat_toNat]
  exact if_pos c.valid

theorem decode?_escape (h : escape? long p = some ([c], u)) :
    decode? long ('\\' :: p) = (decode? long u).map (c :: ·) := by
  rw [decode?]
  split
  next hnone =>
    rw [h] at hnone
    cases hnone
  next hsome =>
    rw [h] at hsome
    cases hsome
    rfl

theorem decode?_plain (hslash : c ≠ '\\') (h : isPlain c = true ∨ long = true ∧ c = '\n')
    (u : Text) : decode? long (c :: u) = (decode? long u).map (c :: ·) := by
  have hreturn : c ≠ '\r' := by
    rintro rfl
    rcases h with h | ⟨-, h⟩ <;> cases h
  rw [decode?, if_pos (by simpa using h)]
  · exact hslash
  · rintro _ rfl
    exact absurd rfl hreturn

theorem Escaped.decode?_append (h : Escaped long c p) (u : Text) :
    decode? long (p ++ u) = (decode? long u).map (c :: ·) := by
  cases h with
  | short e he =>
    have hescape : escape? long (e :: u) = some ([c], u) := by
      rw [escape?, he] <;>
      · rintro _ heq
        cases heq
        cases he
    exact decode?_escape hescape
  | coded hc => exact decode?_escape (coded?_hexDigit hc u)
  | plain _ hslash h => exact decode?_plain hslash h u

theorem literal?_eq (h : ∀ c ∈ t, isPlain c = true ∨ long = true ∧ c = '\n') :
    literal? long t = some t := by
  induction t with
  | nil => rfl
  | cons c t ih =>
    rw [List.forall_mem_cons] at h
    have hreturn : c ≠ '\r' := by
      rintro rfl
      rcases h.1 with h | ⟨-, h⟩ <;> cases h
    rw [literal?, if_pos (by simpa using h.1), ih h.2]
    · rfl
    · rintro _ rfl
      exact absurd rfl hreturn

/-! ## Texts between quotes -/

theorem escaped_quote (long : Bool) (t : Text) :
    escaped long 0 ('"' :: t) = ['\\', '"'] ++ escaped long (if long then 2 else 0) t := rfl

theorem escaped_quote_succ (long : Bool) (free : Nat) (t : Text) :
    escaped long (free + 1) ('"' :: t) = '"' :: escaped long free t := rfl

theorem escaped_cons (long : Bool) (free : Nat) (hc : c ≠ '"') (t : Text) :
    escaped long free (c :: t) = escape long c ++ escaped long (if long then 2 else 0) t := by
  rw [escaped.eq_def]
  exact if_neg hc

/-- Behind the quotes that stand as they are, a text is written piece by piece. -/
theorem escaped_cases (long : Bool) (free : Nat) (c : Char) (t : Text) :
    (∃ p, Escaped long c p ∧ escaped long free (c :: t) = p ++ escaped long (if long then 2 else 0) t) ∨
      ∃ less, free = less + 1 ∧ c = '"' ∧ escaped long free (c :: t) = '"' :: escaped long less t := by
  by_cases hc : c = '"'
  · subst hc
    cases free with
    | zero => exact .inl ⟨_, escaped_backslash_quote long, escaped_quote long t⟩
    | succ free => exact .inr ⟨free, rfl, rfl, escaped_quote_succ long free t⟩
  · exact .inl ⟨_, escaped_escape long hc, escaped_cons long free hc t⟩

theorem decode?_escaped (long : Bool) (free : Nat) (t : Text) :
    decode? long (escaped long free t) = some t := by
  induction t generalizing free with
  | nil => rw [escaped, decode?]
  | cons c t ih =>
    rcases escaped_cases long free c t with ⟨p, hp, heq⟩ | ⟨less, -, rfl, heq⟩
    · rw [heq, hp.decode?_append, ih]
      rfl
    · rw [heq, decode?_plain (by decide) (.inl rfl), ih]
      rfl

theorem newline_mem_of_escaped {free : Nat} (h : '\n' ∈ escaped long free t) : '\n' ∈ t := by
  induction t generalizing free with
  | nil => exact h
  | cons c t ih =>
    rcases escaped_cases long free c t with ⟨p, hp, heq⟩ | ⟨less, -, rfl, heq⟩
    · rw [heq, List.mem_append] at h
      rcases h with h | h
      · exact hp.newline_mem h ▸ List.mem_cons_self
      · exact List.mem_cons_of_mem c (ih h)
    · rw [heq, List.mem_cons] at h
      exact List.mem_cons_of_mem _ (ih (h.resolve_left (by decide)))

theorem cutBasic?_escaped (t rest : Text) :
    cutBasic? (escaped false 0 t ++ '"' :: rest) = some (escaped false 0 t, rest) := by
  induction t with
  | nil => rfl
  | cons c t ih =>
    rcases escaped_cases false 0 c t with ⟨p, hp, heq⟩ | ⟨less, hless, -⟩
    · rw [heq, if_neg Bool.false_ne_true, List.append_assoc, hp.cutBasic?_append, ih, prepend_some]
    · cases hless

/-! ## Runs of quotes -/

theorem cutLongBasic?_quotes {k : Nat} (hk : k ≤ 2) (hc : c ≠ '"') (u : Text) :
    cutLongBasic? (List.replicate k '"' ++ c :: u) =
      prepend (List.replicate k '"') (cutLongBasic? (c :: u)) := by
  match k, hk with
  | 0, _ => simp [prepend]
  | 1, _ => simp [cutLongBasic?, hc, prepend]
  | 2, _ => simp [cutLongBasic?, hc, prepend, Function.comp_def]

theorem cutLongBasic?_end {k : Nat} (hk : k ≤ 2) (hrest : rest.head? ≠ some '"') :
    cutLongBasic? (List.replicate k '"' ++ '"' :: '"' :: '"' :: rest) =
      some (List.replicate k '"', rest) := by
  match k, hk with
  | 0, _ => cases rest <;> simp_all [cutLongBasic?]
  | 1, _ => cases rest <;> simp_all [cutLongBasic?]
  | 2, _ => cases rest <;> simp_all [cutLongBasic?]

/-- A long string is cut off behind its last quotes, also where quotes stand in front of the three
closing ones. -/
theorem cutLongBasic?_escaped (t : Text) (hrest : rest.head? ≠ some '"') {free k : Nat}
    (hk : free + k = 2) :
    cutLongBasic? (List.replicate k '"' ++ escaped true free t ++ '"' :: '"' :: '"' :: rest) =
      some (List.replicate k '"' ++ escaped true free t, rest) := by
  induction t generalizing free k with
  | nil =>
    rw [escaped, List.append_nil]
    exact cutLongBasic?_end (by omega) hrest
  | cons c t ih =>
    rcases escaped_cases true free c t with ⟨p, hp, heq⟩ | ⟨less, rfl, -, heq⟩
    · -- The run ends in front of the piece, and behind it two quotes are free again.
      have hnext := ih (show 2 + 0 = 2 from rfl)
      rw [List.replicate_zero, List.nil_append] at hnext
      obtain ⟨d, q, rfl, hd⟩ := hp.exists_cons
      rw [heq, if_pos rfl, List.append_assoc, List.append_assoc, List.cons_append,
        cutLongBasic?_quotes (by omega) hd, ← List.cons_append, hp.cutLongBasic?_append, hnext,
        prepend_some, prepend_some]
    · have hmore := ih (show less + (k + 1) = 2 by omega)
      rw [List.replicate_succ'] at hmore
      simpa [heq] using hmore

/-! ## Runs of apostrophes -/

/-- How a character continues the longest run so far and the run at the end. -/
def runStep (c : Char) (r : Nat × Nat) (d : Char) : Nat × Nat :=
  if d = c then (max r.1 (r.2 + 1), r.2 + 1) else (r.1, 0)

theorem longestRun_eq (c : Char) (t : Text) :
    longestRun c t = (t.foldl (runStep c) (0, 0)).1 := rfl

theorem le_foldl_runStep (c : Char) (t : Text) (r : Nat × Nat) :
    r.1 ≤ (t.foldl (runStep c) r).1 := by
  induction t generalizing r with
  | nil => exact Nat.le_refl _
  | cons d t ih =>
    refine Nat.le_trans ?_ (ih (runStep c r d))
    unfold runStep
    split
    · exact Nat.le_max_left _ _
    · exact Nat.le_refl _

theorem not_mem_of_longestRun (h : longestRun c t = 0) : c ∉ t := by
  intro hmem
  obtain ⟨front, back, rfl⟩ := List.append_of_mem hmem
  rw [longestRun_eq, List.foldl_append, List.foldl_cons] at h
  have hle := le_foldl_runStep c back (runStep c (front.foldl (runStep c) (0, 0)) c)
  rw [h, runStep, if_pos rfl] at hle
  omega

theorem cutLiteral?_append (h : '\'' ∉ t) (rest : Text) :
    cutLiteral? (t ++ '\'' :: rest) = some (t, rest) := by
  induction t with
  | nil => rfl
  | cons c t ih =>
    rw [List.mem_cons, not_or] at h
    rw [List.cons_append, cutLiteral?, ih h.2]
    · rfl
    · exact fun heq => h.1 heq.symm

theorem cutLongLiteral?_quotes {k : Nat} (hk : k ≤ 2) (hc : c ≠ '\'') (u : Text) :
    cutLongLiteral? (List.replicate k '\'' ++ c :: u) =
      prepend (List.replicate k '\'') (cutLongLiteral? (c :: u)) := by
  match k, hk with
  | 0, _ => simp [prepend]
  | 1, _ => simp [cutLongLiteral?, hc, prepend]
  | 2, _ => simp [cutLongLiteral?, hc, prepend, Function.comp_def]

theorem cutLongLiteral?_end {k : Nat} (hk : k ≤ 2) (hrest : rest.head? ≠ some '\'') :
    cutLongLiteral? (List.replicate k '\'' ++ '\'' :: '\'' :: '\'' :: rest) =
      some (List.replicate k '\'', rest) := by
  match k, hk with
  | 0, _ => cases rest <;> simp_all [cutLongLiteral?]
  | 1, _ => cases rest <;> simp_all [cutLongLiteral?]
  | 2, _ => cases rest <;> simp_all [cutLongLiteral?]

/-- A long string without escapes is cut off behind its last apostrophes. -/
theorem cutLongLiteral?_append (t : Text) (hrest : rest.head? ≠ some '\'') {longest k : Nat}
    (hk : k ≤ longest) (h : (t.foldl (runStep '\'') (longest, k)).1 ≤ 2) :
    cutLongLiteral? (List.replicate k '\'' ++ t ++ '\'' :: '\'' :: '\'' :: rest) =
      some (List.replicate k '\'' ++ t, rest) := by
  induction t generalizing longest k with
  | nil =>
    rw [List.append_nil]
    exact cutLongLiteral?_end (Nat.le_trans hk h) hrest
  | cons c t ih =>
    rw [List.foldl_cons] at h
    by_cases hc : c = '\''
    · subst hc
      rw [runStep, if_pos rfl] at h
      have hmore := ih (Nat.le_max_right longest (k + 1)) h
      rw [List.replicate_succ'] at hmore
      simpa using hmore
    · rw [runStep, if_neg hc] at h
      have hlongest : longest ≤ 2 := Nat.le_trans (le_foldl_runStep '\'' t (longest, 0)) h
      have hnext := ih (Nat.zero_le longest) h
      rw [List.replicate_zero, List.nil_append] at hnext
      rw [List.append_assoc, List.cons_append, cutLongLiteral?_quotes (by omega) hc,
        cutLongLiteral?_plain hc, hnext, prepend_some, prepend_some]
      rfl

/-! ## The first end of line -/

/-- The end of line that is written behind the opening quotes of a string with ends of line. -/
def firstBreak (t : Text) : Text :=
  if t.any (· = '\n') then ['\n'] else []

theorem dropFirstBreak_of_not_mem (h : '\n' ∉ t) : dropFirstBreak t = t := by
  unfold dropFirstBreak
  split
  next => exact absurd List.mem_cons_self h
  next => exact absurd (List.mem_cons_of_mem _ List.mem_cons_self) h
  next => rfl

theorem dropFirstBreak_firstBreak (h : '\n' ∈ u → '\n' ∈ t) :
    dropFirstBreak (firstBreak t ++ u) = u := by
  unfold firstBreak
  split
  next => rfl
  next hnone =>
    refine dropFirstBreak_of_not_mem fun hmem => hnone ?_
    exact List.any_eq_true.mpr ⟨'\n', h hmem, rfl⟩

theorem cutLongBasic?_firstBreak (t u : Text) :
    cutLongBasic? (firstBreak t ++ u) = prepend (firstBreak t) (cutLongBasic? u) := by
  unfold firstBreak
  split
  next => exact cutLongBasic?_plain (by decide) (by decide) u
  next => simp [prepend]

theorem cutLongLiteral?_firstBreak (t u : Text) :
    cutLongLiteral? (firstBreak t ++ u) = prepend (firstBreak t) (cutLongLiteral? u) := by
  unfold firstBreak
  split
  next => exact cutLongLiteral?_plain (by decide) u
  next => simp [prepend]

/-! ## The forms of a string -/

theorem isPlain_of_any (h : t.any needsCode = false) (hc : c ∈ t) :
    isPlain c = true ∨ c = '\n' := by
  by_cases hnewline : c = '\n'
  · exact .inr hnewline
  · have hcode := Bool.eq_false_iff.mpr (List.any_eq_false.mp h c hc)
    exact .inl (isPlain_of_needsCode hcode hnewline)

theorem of_formOf_literal (h : formOf t = .literal) :
    (∀ c ∈ t, isPlain c = true) ∧ '\'' ∉ t ∧ t ≠ [] := by
  unfold formOf at h
  dsimp only at h
  split_ifs at h with hbasic hliteral
  simp only [Bool.and_eq_true, Bool.not_eq_true', decide_eq_true_eq] at hliteral
  obtain ⟨⟨hcoded, hrun⟩, hbroken⟩ := hliteral
  refine ⟨fun c hc => ?_, not_mem_of_longestRun hrun, ?_⟩
  · refine (isPlain_of_any hcoded hc).resolve_right ?_
    rintro rfl
    exact List.any_eq_false.mp hbroken _ hc rfl
  · rintro rfl
    exact hbasic rfl

theorem of_formOf_longLiteral (h : formOf t = .longLiteral) :
    (∀ c ∈ t, isPlain c = true ∨ true = true ∧ c = '\n') ∧ longestRun '\'' t ≤ 2 := by
  unfold formOf at h
  dsimp only at h
  split_ifs at h with _ _ _ hlong
  simp only [Bool.and_eq_true, Bool.not_eq_true', decide_eq_true_eq] at hlong
  exact ⟨fun c hc => (isPlain_of_any hlong.1 hc).imp_right fun heq => ⟨rfl, heq⟩, hlong.2⟩

theorem next?_basic (t : Text) (hrest : rest.head? ≠ some '"') :
    next? (['"'] ++ escaped false 0 t ++ ['"'] ++ rest) = some (some (.string t false), rest) := by
  rw [List.append_assoc, List.append_assoc, List.singleton_append, List.singleton_append, next?,
    cutBasic?_escaped]
  · simp [stringOf?, decode?_escaped]
  · -- Behind the opening quote there are not two more of them.
    intro u heq
    cases t with
    | nil =>
      cases heq
      exact hrest rfl
    | cons c t =>
      rcases escaped_cases false 0 c t with ⟨p, hp, hpiece⟩ | ⟨less, hless, -⟩
      · obtain ⟨d, q, rfl, hd⟩ := hp.exists_cons
        rw [hpiece] at heq
        exact hd (List.cons.inj heq).1
      · cases hless

theorem next?_literal (hplain : ∀ c ∈ t, isPlain c = true) (hnot : '\'' ∉ t) (hne : t ≠ [])
    (rest : Text) : next? (['\''] ++ t ++ ['\''] ++ rest) = some (some (.string t false), rest) := by
  rw [List.append_assoc, List.append_assoc, List.singleton_append, List.singleton_append, next?,
    cutLiteral?_append hnot]
  · simp [stringOf?, literal?_eq fun c hc => .inl (hplain c hc)]
  · intro u heq
    obtain ⟨c, t, rfl⟩ := List.exists_cons_of_ne_nil hne
    rw [List.cons_append] at heq
    rw [(List.cons.inj heq).1] at hnot
    exact hnot List.mem_cons_self

theorem next?_longBasic (t : Text) (hrest : rest.head? ≠ some '"') :
    next? (['"', '"', '"'] ++ firstBreak t ++ escaped true 2 t ++ ['"', '"', '"'] ++ rest) =
      some (some (.string t true), rest) := by
  have hcut := cutLongBasic?_escaped t hrest (show 2 + 0 = 2 from rfl)
  simp only [List.replicate_zero, List.nil_append, List.append_assoc, List.cons_append] at hcut ⊢
  rw [next?, cutLongBasic?_firstBreak, hcut, prepend_some, stringOf?,
    dropFirstBreak_firstBreak newline_mem_of_escaped, decode?_escaped]
  rfl

theorem next?_longLiteral (hplain : ∀ c ∈ t, isPlain c = true ∨ true = true ∧ c = '\n')
    (hrun : longestRun '\'' t ≤ 2) (hrest : rest.head? ≠ some '\'') :
    next? (['\'', '\'', '\''] ++ firstBreak t ++ t ++ ['\'', '\'', '\''] ++ rest) =
      some (some (.string t true), rest) := by
  have hcut := cutLongLiteral?_append t hrest (Nat.le_refl 0) hrun
  simp only [List.replicate_zero, List.nil_append, List.append_assoc, List.cons_append] at hcut ⊢
  rw [next?, cutLongLiteral?_firstBreak, hcut, prepend_some, stringOf?,
    dropFirstBreak_firstBreak id, literal?_eq hplain]
  rfl

/-- The token of a text that is written as a string. -/
def ofString (t : Text) : TomlToken :=
  .string t (formOf t = .longBasic || formOf t = .longLiteral)

/-- A string is read back, unless a quote follows that could belong to it. -/
theorem next?_string (t : Text) (hquote : rest.head? ≠ some '"') (hapo : rest.head? ≠ some '\'') :
    next? (TomlWriter.string t ++ rest) = some (some (ofString t), rest) := by
  unfold TomlWriter.string ofString
  cases hform : formOf t with
  | basic => exact next?_basic t hquote
  | literal =>
    obtain ⟨hplain, hnot, hne⟩ := of_formOf_literal hform
    exact next?_literal hplain hnot hne rest
  | longBasic => exact next?_longBasic t hquote
  | longLiteral =>
    obtain ⟨hplain, hrun⟩ := of_formOf_longLiteral hform
    exact next?_longLiteral hplain hrun hapo

end TomlToken

end BlockNotes
