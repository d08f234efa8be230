import BlockNotes.Proofs.Toml.Strings
import Mathlib.Data.List.Chain

/-!
# Tokens in TOML are read back

Tokens that are written one behind the other are read back one by one
(`TomlToken.Legible.scan?_write`).  Two of them run into each other only where they are of one
kind: two words, two blanks, or two strings.  A sign ends where it stands, so anything may follow
it.

The kind of a token is the kind of its first character, so what may follow a token is a condition
on the next token alone (`TomlToken.Beside`).
-/

namespace BlockNotes

namespace TomlToken

variable {a b : TomlToken} {c : Char} {t rest : Text} {front tokens : List TomlToken}

/-! ## Kinds -/

/-- The kinds of tokens. -/
inductive Kind where
  /-- Of one character, or an end of line. -/
  | sign
  /-- Blanks. -/
  | blank
  /-- A string. -/
  | string
  /-- A word. -/
  | word
deriving DecidableEq

/-- The kind of a token. -/
def kind : TomlToken → Kind
  | .blank _ => .blank
  | .string _ _ => .string
  | .word _ => .word
  | _ => .sign

/-- The kind of the token that a character begins. -/
def kindOf (c : Char) : Kind :=
  if isWord c then .word
  else if isBlank c then .blank
  else if c = '"' ∨ c = '\'' then .string
  else .sign

/-- Whether a token may stand in front of another. -/
def Beside (a b : TomlToken) : Prop :=
  a.kind = .sign ∨ a.kind ≠ b.kind

instance (a b : TomlToken) : Decidable (Beside a b) :=
  inferInstanceAs (Decidable (_ ∨ _))

/-- In front of a sign there may be anything. -/
theorem beside_sign (h : b.kind = .sign) : a.Beside b := by
  rw [Beside, h]
  exact Decidable.em (a.kind = .sign)

theorem kindOf_of_isWord (h : isWord c = true) : kindOf c = .word :=
  if_pos h

theorem isWord_of_isBlank (h : isBlank c = true) : isWord c = false := by
  simp [isWord, h]

theorem kindOf_of_isBlank (h : isBlank c = true) : kindOf c = .blank := by
  rw [kindOf, if_neg (Bool.eq_false_iff.mp (isWord_of_isBlank h)), if_pos h]

/-! ## Tokens as they are written -/

/-- A token as it is written. -/
def write : TomlToken → Text
  | .newline => ['\n']
  | .blank t => t
  | .equals => ['=']
  | .comma => [',']
  | .openBracket => ['[']
  | .closeBracket => [']']
  | .openBrace => ['\x7b']
  | .closeBrace => ['\x7d']
  | .string t _ => TomlWriter.string t
  | .word t => t

/-- Whether a token is one that is written so. -/
def IsWritten : TomlToken → Prop
  | .blank t => t ≠ [] ∧ ∀ c ∈ t, isBlank c = true
  | .string t long => .string t long = ofString t
  | .word t => t ≠ [] ∧ ∀ c ∈ t, isWord c = true
  | _ => True

theorem isWritten_of_kind (h : a.kind = .sign) : a.IsWritten := by
  cases a with
  | blank | string | word => cases h
  | newline | equals | comma | openBracket | closeBracket | openBrace | closeBrace => trivial

theorem isWritten_ofString (t : Text) : (ofString t).IsWritten := rfl

theorem kind_ofString (t : Text) : (ofString t).kind = .string := rfl

theorem exists_string (t : Text) : ∃ c u, TomlWriter.string t = c :: u ∧ kindOf c = .string := by
  unfold TomlWriter.string
  cases TomlWriter.formOf t with
  | basic => exact ⟨'"', _, rfl, rfl⟩
  | literal => exact ⟨'\'', _, rfl, rfl⟩
  | longBasic => exact ⟨'"', _, rfl, rfl⟩
  | longLiteral => exact ⟨'\'', _, rfl, rfl⟩

/-- The first character of a token is of its kind. -/
theorem IsWritten.exists_write (h : a.IsWritten) :
    ∃ c t, a.write = c :: t ∧ kindOf c = a.kind := by
  cases a with
  | blank t =>
    obtain ⟨c, t, rfl⟩ := List.exists_cons_of_ne_nil h.1
    exact ⟨c, t, rfl, kindOf_of_isBlank (h.2 c List.mem_cons_self)⟩
  | word t =>
    obtain ⟨c, t, rfl⟩ := List.exists_cons_of_ne_nil h.1
    exact ⟨c, t, rfl, kindOf_of_isWord (h.2 c List.mem_cons_self)⟩
  | string t long => exact exists_string t
  | newline | equals | comma | openBracket | closeBracket | openBrace | closeBrace =>
    exact ⟨_, _, rfl, rfl⟩

/-! ## One token -/

theorem takeWhile_append {p : Char → Bool} (h : ∀ c ∈ t, p c = true)
    (hrest : ∀ c ∈ rest.head?, p c = false) : (t ++ rest).takeWhile p = t := by
  rw [List.takeWhile_append_of_pos h]
  cases rest with
  | nil => exact List.append_nil t
  | cons c rest => rw [List.takeWhile_cons_of_neg (by simp [hrest c rfl]), List.append_nil]

theorem dropWhile_append {p : Char → Bool} (h : ∀ c ∈ t, p c = true)
    (hrest : ∀ c ∈ rest.head?, p c = false) : (t ++ rest).dropWhile p = rest := by
  rw [List.dropWhile_append_of_pos h]
  cases rest with
  | nil => rfl
  | cons c rest => exact List.dropWhile_cons_of_neg (by simp [hrest c rfl])

theorem next?_blank (hc : isBlank c = true) (h : ∀ c ∈ t, isBlank c = true)
    (hrest : ∀ c ∈ rest.head?, isBlank c = false) :
    next? (c :: (t ++ rest)) = some (some (.blank (c :: t)), rest) := by
  have hstep : next? (c :: (t ++ rest)) =
      some (some (.blank (c :: (t ++ rest).takeWhile isBlank)), (t ++ rest).dropWhile isBlank) := by
    simp only [isBlank, Bool.or_eq_true, decide_eq_true_eq] at hc
    rcases hc with rfl | rfl <;> rfl
  rw [hstep, takeWhile_append h hrest, dropWhile_append h hrest]

theorem next?_word (hc : isWord c = true) (h : ∀ c ∈ t, isWord c = true)
    (hrest : ∀ c ∈ rest.head?, isWord c = false) :
    next? (c :: (t ++ rest)) = some (some (.word (c :: t)), rest) := by
  have hword := hc
  simp only [isWord, Bool.and_eq_true, Bool.not_eq_true', Option.isNone_iff_eq_none,
    decide_eq_true_eq] at hword
  obtain ⟨⟨⟨⟨⟨hblank, hsign⟩, hplain⟩, hquote⟩, hapo⟩, hcomment⟩ := hword
  have hbreak : c ≠ '\n' ∧ c ≠ '\r' := by
    constructor <;>
    · rintro rfl
      cases hplain
  rw [next?, if_neg (by simp [hblank]), hsign]
  · dsimp only
    rw [if_pos hc, takeWhile_append h hrest, dropWhile_append h hrest]
  all_goals simp_all

/-- A token is read back, unless what follows is of its kind. -/
theorem IsWritten.next?_write (h : a.IsWritten)
    (hrest : a.kind = .sign ∨ ∀ c ∈ rest.head?, kindOf c ≠ a.kind) :
    next? (a.write ++ rest) = some (some a, rest) := by
  cases a with
  | blank t =>
    obtain ⟨c, t, rfl⟩ := List.exists_cons_of_ne_nil h.1
    obtain ⟨hc, ht⟩ := List.forall_mem_cons.mp h.2
    refine next?_blank hc ht fun d hd => Bool.eq_false_iff.mpr fun hblank => ?_
    exact hrest.resolve_left nofun d hd (kindOf_of_isBlank hblank)
  | word t =>
    obtain ⟨c, t, rfl⟩ := List.exists_cons_of_ne_nil h.1
    obtain ⟨hc, ht⟩ := List.forall_mem_cons.mp h.2
    refine next?_word hc ht fun d hd => Bool.eq_false_iff.mpr fun hword => ?_
    exact hrest.resolve_left nofun d hd (kindOf_of_isWord hword)
  | string t long =>
    have hbehind := hrest.resolve_left nofun
    rw [show TomlToken.string t long = ofString t from h]
    refine next?_string t (fun hquote => ?_) (fun hapo => ?_)
    · exact hbehind _ hquote rfl
    · exact hbehind _ hapo rfl
  | newline | equals | comma | openBracket | closeBracket | openBrace | closeBrace => rfl

/-! ## Many tokens -/

/-- Whether tokens can be told from each other where they stand one behind the other. -/
structure Legible (tokens : List TomlToken) : Prop where
  /-- Each is as it is written. -/
  written : ∀ a ∈ tokens, a.IsWritten
  /-- None runs into the next one. -/
  beside : tokens.IsChain Beside

theorem Legible.append (hfront : Legible front) (h : Legible tokens)
    (hbeside : ∀ a ∈ front.getLast?, ∀ b ∈ tokens.head?, a.Beside b) :
    Legible (front ++ tokens) where
  written := by
    intro a ha
    rcases List.mem_append.mp ha with ha | ha
    · exact hfront.written a ha
    · exact h.written a ha
  beside := List.isChain_append.mpr ⟨hfront.beside, h.beside, hbeside⟩

/-- A sign may follow anything. -/
theorem Legible.concat (h : Legible tokens) (hb : b.kind = .sign) : Legible (tokens ++ [b]) := by
  refine h.append ⟨List.forall_mem_singleton.mpr (isWritten_of_kind hb), .singleton b⟩ ?_
  rintro a - c hc
  cases hc
  exact beside_sign hb

theorem Legible.flatMap {α : Type} {f : α → List TomlToken} {xs : List α}
    (h : ∀ x ∈ xs, Legible (f x)) (hlast : ∀ x ∈ xs, ∀ a ∈ (f x).getLast?, a.kind = .sign) :
    Legible (xs.flatMap f) := by
  induction xs with
  | nil => exact ⟨nofun, .nil⟩
  | cons x xs ih =>
    rw [List.forall_mem_cons] at h hlast
    exact h.1.append (ih h.2 hlast.2) fun a ha _ _ => .inl (hlast.1 a ha)

theorem scan?_of_next? (h : next? t = some (some a, rest)) :
    scan? t = (scan? rest).map (a :: ·) := by
  rw [scan?]
  split
  next hnone =>
    rw [h] at hnone
    cases hnone
  next hsome =>
    rw [h] at hsome
    cases hsome
    rfl

theorem scan?_nil : scan? [] = some [] := by
  rw [scan?]
  rfl

/-- Legible tokens are read back. -/
theorem Legible.scan?_write (h : Legible tokens) :
    scan? (tokens.flatMap write) = some tokens := by
  induction tokens with
  | nil => exact scan?_nil
  | cons a tokens ih =>
    obtain ⟨ha, hwritten⟩ := List.forall_mem_cons.mp h.written
    have hnext : next? (a.write ++ tokens.flatMap write) =
        some (some a, tokens.flatMap write) := by
      refine ha.next?_write ?_
      cases tokens with
      | nil => exact .inr nofun
      | cons b tokens =>
        obtain ⟨c, t, hwrite, hkind⟩ := (hwritten b List.mem_cons_self).exists_write
        refine (List.isChain_cons_cons.mp h.beside).1.imp_right fun hne d hd heq => ?_
        rw [List.flatMap_cons, hwrite] at hd
        cases hd
        exact hne (heq.symm.trans hkind)
    rw [List.flatMap_cons, scan?_of_next? hnext, ih ⟨hwritten, h.beside.tail⟩]
    rfl

/-! ## Dates -/

/-- Where no word is a date, nothing is joined to one. -/
theorem joinDates_eq (h : ∀ d, .word d ∈ tokens → TomlWord.date? d ≠ some []) :
    joinDates tokens = tokens := by
  fun_induction joinDates tokens with
  | case1 d t rest hdate => exact absurd hdate.1 (h d List.mem_cons_self)
  | case2 d t rest _ ih =>
    rw [ih fun e he => h e (List.mem_cons_of_mem _ (List.mem_cons_of_mem _ he))]
  | case3 a rest _ ih => rw [ih fun e he => h e (List.mem_cons_of_mem _ he)]
  | case4 => rfl

end TomlToken

end BlockNotes
