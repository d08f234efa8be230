import BlockNotes.Toml.Word
import Mathlib.Data.List.Basic
import Mathlib.Tactic.SplitIfs

/-!
# Numbers in TOML are read back

A natural number is written in decimal digits, with no zero in front unless it is zero itself, and
these are read as the number again as long as it fits into 128 bits (`TomlWord.value?_toString`).
A word that is a date has a hyphen in it, so a number is none.
-/

namespace BlockNotes.TomlWord

variable {c : Char} {t rest : Text} {n : Nat}

/-! ## Digits -/

theorem digits?_eq {isDigit : Char → Bool} (hne : t ≠ []) (h : ∀ c ∈ t, isDigit c = true)
    (hbar : isDigit '_' = false) : digits? isDigit t = some t := by
  fun_induction digits? isDigit t with
  | case1 => exact absurd rfl hne
  | case2 c hc => rfl
  | case3 c hc => exact absurd (h c List.mem_cons_self) hc
  | case4 c rest hc ih =>
    have hbar' := h '_' (List.mem_cons_of_mem _ List.mem_cons_self)
    rw [hbar] at hbar'
    cases hbar'
  | case5 c rest hc => exact absurd (h c List.mem_cons_self) hc
  | case6 c rest hlast _ hc ih =>
    rw [ih hlast fun d hd => h d (List.mem_cons_of_mem _ hd)]
    rfl
  | case7 c rest _ _ hc => exact absurd (h c List.mem_cons_self) hc

theorem number_eq (h : ∀ c ∈ t, c.isDigit = true) : number 10 t = Nat.ofDigitChars 10 t 0 := by
  rw [Nat.ofDigitChars_eq_foldl, number]
  refine List.foldl_ext _ _ 0 fun m c hc => ?_
  rw [digitValue, if_pos (h c hc), Nat.mul_comm]

/-! ## Decimal digits of a number -/

theorem isDigit_of_mem_toDigits (h : c ∈ Nat.toDigits 10 n) : c.isDigit = true :=
  Nat.isDigit_of_mem_toDigits (by decide) (by decide) h

theorem number_toDigits (n : Nat) : number 10 (Nat.toDigits 10 n) = n := by
  rw [number_eq fun c hc => isDigit_of_mem_toDigits hc, Nat.ofDigitChars_ten_toDigits]

theorem head?_toDigits_ne_zero (h : 0 < n) : (Nat.toDigits 10 n).head? ≠ some '0' := by
  induction n using Nat.strongRecOn with
  | ind n ih =>
    by_cases hn : n < 10
    · rw [Nat.toDigits_of_lt_base hn]
      intro hzero
      have hchar : n.digitChar = '0' := Option.some.inj hzero
      have hvalue := Nat.toNat_digitChar_of_lt_ten hn
      rw [hchar] at hvalue
      have : '0'.toNat = 48 := rfl
      omega
    · rw [Nat.toDigits_of_base_le (by decide) (by omega),
        List.head?_append_of_ne_nil _ Nat.toDigits_ne_nil]
      exact ih (n / 10) (by omega) (by omega)

/-- Only zero begins with a zero, and it has no further digits. -/
theorem whole?_toDigits (n : Nat) : whole? (Nat.toDigits 10 n) = some (Nat.toDigits 10 n) := by
  rw [whole?, digits?_eq Nat.toDigits_ne_nil (fun c hc => isDigit_of_mem_toDigits hc) rfl]
  rcases Nat.eq_zero_or_pos n with rfl | hn
  · rfl
  · simp [Option.filter_some, head?_toDigits_ne_zero hn]

theorem sign_eq (h : ∀ c ∈ t, c.isDigit = true) : sign t = (false, t) := by
  unfold sign
  split
  next => exact absurd (h '-' List.mem_cons_self) (by decide)
  next => exact absurd (h '+' List.mem_cons_self) (by decide)
  next => rfl

/-- What is all digits has no sign and no letter for another base. -/
theorem integer?_of_whole? (h : ∀ c ∈ t, c.isDigit = true) (hwhole : whole? t = some t)
    (hlt : number 10 t < Nat.pow 2 128) : integer? t = some (number 10 t : Int) := by
  have hletter : ∀ a d u, t = a :: d :: u → d.isDigit = true := by
    rintro a d u rfl
    exact h d (List.mem_cons_of_mem _ List.mem_cons_self)
  have hrange : -(Nat.pow 2 127 : Int) ≤ number 10 t ∧
      (number 10 t : Int) < (Nat.pow 2 128 : Int) :=
    ⟨Int.le_trans (by decide) (Int.natCast_nonneg _), Int.ofNat_lt.mpr hlt⟩
  unfold integer?
  split
  next => exact absurd (hletter _ _ _ rfl) (by decide)
  next => exact absurd (hletter _ _ _ rfl) (by decide)
  next => exact absurd (hletter _ _ _ rfl) (by decide)
  next =>
    rw [sign_eq h]
    dsimp only
    rw [hwhole, Option.map_some, Option.filter_some, if_neg Bool.false_ne_true,
      if_pos (decide_eq_true hrange)]

theorem integer?_toDigits (h : n < Nat.pow 2 128) : integer? (Nat.toDigits 10 n) = some (n : Int) := by
  have hnumber := number_toDigits n
  have hinteger := integer?_of_whole? (fun c hc => isDigit_of_mem_toDigits hc)
    (whole?_toDigits n) (hnumber.symm ▸ h)
  rwa [hnumber] at hinteger

/-- A number that fits into 128 bits is read back. -/
theorem value?_toString (h : n < Nat.pow 2 128) : value? (toString n).toList = some (.integer n) := by
  have hdigits : ∀ c ∈ (toString n).toList, c.isDigit = true := by
    rw [Nat.toString_eq_repr, Nat.toList_repr]
    exact fun c hc => isDigit_of_mem_toDigits hc
  have htrue : (toString n).toList ≠ "true".toList := fun heq =>
    absurd (hdigits 't' (heq ▸ by decide)) (by decide)
  have hfalse : (toString n).toList ≠ "false".toList := fun heq =>
    absurd (hdigits 'f' (heq ▸ by decide)) (by decide)
  rw [value?, if_neg htrue, if_neg hfalse, Nat.toString_eq_repr, Nat.toList_repr,
    integer?_toDigits h]

/-! ## Dates -/

theorem eq_cons_of_after? (h : after? c t = some rest) : t = c :: rest := by
  unfold after? at h
  split at h
  next d u =>
    split_ifs at h with heq
    cases h
    rw [heq]
  next => cases h

theorem suffix_of_two? {r : Nat × Text} (h : two? t = some r) : r.2 <:+ t := by
  unfold two? at h
  split at h
  next a b u =>
    split_ifs at h
    cases h
    exact ⟨[a, b], rfl⟩
  next => cases h

/-- A date has a hyphen behind its year. -/
theorem mem_of_date? (h : date? t = some rest) : '-' ∈ t := by
  simp only [date?, bind, Option.bind_eq_some_iff] at h
  obtain ⟨century, hcentury, year, hyear, u, hafter, -⟩ := h
  have hsuffix := (suffix_of_two? hyear).trans (suffix_of_two? hcentury)
  rw [eq_cons_of_after? hafter] at hsuffix
  exact hsuffix.subset List.mem_cons_self

theorem date?_toString_ne (n : Nat) : date? (toString n).toList ≠ some [] := by
  intro h
  have hmem := mem_of_date? h
  rw [Nat.toString_eq_repr, Nat.toList_repr] at hmem
  exact absurd (isDigit_of_mem_toDigits hmem) (by decide)

end BlockNotes.TomlWord
