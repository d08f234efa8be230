import BlockNotes.Text.Basic

/-!
# Numbers in JSON

Documents hold no numbers, but a file may, and it is refused if one of them is
no number or too large.  So a number is read to its end and its value is only
compared with the largest binary64 number.

The value is built as a reader with 64-bit digits does it: the digits that fit
into 64 bits make the significand, further digits before the point count as a
factor of ten and further ones behind it are dropped.  The significand and the
power of ten are rounded to 53 bits, and so is their product.
-/

namespace BlockNotes.JsonNumber

/-- The digits at the start of a text, and the rest. -/
def digits (t : Text) : Text × Text :=
  (t.takeWhile Char.isDigit, t.dropWhile Char.isDigit)

/-- The value of a digit. -/
def digitValue (c : Char) : Nat :=
  c.toNat - '0'.toNat

/-- Reads digits into a significand until it no longer fits into 64 bits, and counts the rest. -/
def accumulate (n : Nat) : Text → Nat × Nat
  | [] => (n, 0)
  | c :: rest =>
    if n * 10 + digitValue c < 0x10000000000000000 then accumulate (n * 10 + digitValue c) rest
    else (n, rest.length + 1)

/-- The nearest number with at most 53 significant bits; a tie goes to the even one. -/
def round53 (n : Nat) : Nat :=
  let k := n.log2 - 52
  let quotient := n >>> k
  let rest := n - (quotient <<< k)
  let half := if k = 0 then 1 else 1 <<< (k - 1)
  (if half < rest ∨ (half = rest ∧ quotient % 2 = 1) then quotient + 1 else quotient) <<< k

/-- Whether a significand times a power of ten is larger than any binary64 number. -/
def isTooLarge (significand : Nat) (exponent : Int) : Bool :=
  if significand = 0 ∨ exponent < 0 then false
  else if 308 < exponent then true
  else decide (1024 ≤ (round53 (round53 significand * round53 (Nat.pow 10 exponent.toNat))).log2)

/-- The exponent that digits write, unless it does not fit into 31 bits. -/
def exponent? (ds : Text) : Option Nat :=
  ds.foldlM (fun n c =>
    let m := n * 10 + digitValue c
    if m < 0x80000000 then some m else none) 0

/-- Whether the number with these digits and this exponent is small enough. -/
def fits (whole fraction : Text) (negative : Bool) (exponent : Text) : Bool :=
  let (n, dropped) := accumulate 0 whole
  let (n, ignored) := accumulate n fraction
  let shift : Int := (dropped : Int) - ((fraction.length - ignored : Nat) : Int)
  match exponent? exponent with
  | none => n = 0 || negative
  | some e => !isTooLarge n (shift + if negative then -(e : Int) else e)

/-- The sign of an exponent, and what stands behind it. -/
def sign : Text → Bool × Text
  | '-' :: rest => (true, rest)
  | '+' :: rest => (false, rest)
  | t => (false, t)

/-- The sign and digits of the exponent at the start of a text, and the rest. -/
def scanExponent? (t : Text) : Option (Bool × Text × Text) :=
  let (ds, rest) := digits (sign t).2
  if ds.isEmpty then none else some ((sign t).1, ds, rest)

/-- The digits behind a point, if there is one, and the rest. -/
def scanFraction? : Text → Option (Text × Text)
  | '.' :: t =>
    let (ds, rest) := digits t
    if ds.isEmpty then none else some (ds, rest)
  | t => some ([], t)

/-- The sign and digits of an exponent, if there is one, and the rest. -/
def scanScale? : Text → Option (Bool × Text × Text)
  | 'e' :: t | 'E' :: t => scanExponent? t
  | t => some (false, [], t)

/-- The rest of a text behind the number at its start, without a sign. -/
def scanUnsigned? (t : Text) : Option Text :=
  let (whole, t) := digits t
  if whole.isEmpty || (whole.length ≠ 1 && whole.head? = some '0') then none
  else
    (scanFraction? t).bind fun (fraction, t) =>
      (scanScale? t).bind fun (negative, exponent, t) =>
        if fits whole fraction negative exponent then some t else none

/-- The rest of a text behind the number at its start. -/
def scan? : Text → Option Text
  | '-' :: t => scanUnsigned? t
  | t => scanUnsigned? t

/-! ## Lengths -/

theorem length_digits (t : Text) : (digits t).2.length ≤ t.length :=
  (List.dropWhile_suffix _).length_le

theorem length_sign (t : Text) : (sign t).2.length ≤ t.length := by
  unfold sign
  split <;> simp

theorem length_scanExponent? {t ds rest : Text} {negative : Bool}
    (h : scanExponent? t = some (negative, ds, rest)) : rest.length ≤ t.length := by
  have hd := length_digits (sign t).2
  have hs := length_sign t
  simp only [scanExponent?] at h
  split at h
  · cases h
  · cases h
    omega

theorem length_scanFraction? {t ds rest : Text} (h : scanFraction? t = some (ds, rest)) :
    rest.length ≤ t.length := by
  unfold scanFraction? at h
  split at h
  · next t =>
    have hd := length_digits t
    simp only at h
    split at h
    · cases h
    · cases h
      simp only [List.length_cons]
      omega
  · cases h
    exact Nat.le_refl _

theorem length_scanScale? {t ds rest : Text} {negative : Bool}
    (h : scanScale? t = some (negative, ds, rest)) : rest.length ≤ t.length := by
  unfold scanScale? at h
  split at h
  · exact Nat.le_succ_of_le (length_scanExponent? h)
  · exact Nat.le_succ_of_le (length_scanExponent? h)
  · cases h
    exact Nat.le_refl _

theorem length_scanUnsigned? {t rest : Text} (h : scanUnsigned? t = some rest) :
    rest.length < t.length := by
  simp only [scanUnsigned?] at h
  split at h
  · cases h
  · next hw =>
    simp only [Option.bind_eq_some_iff, Prod.exists] at h
    obtain ⟨fraction, t₁, h₁, negative, exponent, t₂, h₂, h₃⟩ := h
    split at h₃
    · cases h₃
      have l₁ := length_scanFraction? h₁
      have l₂ := length_scanScale? h₂
      have l₃ : (digits t).1.length + (digits t).2.length = t.length := by
        rw [← List.length_append, digits, List.takeWhile_append_dropWhile]
      have l₄ : 0 < (digits t).1.length := by
        rw [List.length_pos_iff]
        intro e
        simp [e] at hw
      omega
    · cases h₃

/-- A number takes up at least one character. -/
theorem length_scan? {t rest : Text} (h : scan? t = some rest) : rest.length < t.length := by
  unfold scan? at h
  split at h
  · exact Nat.lt_succ_of_lt (length_scanUnsigned? h)
  · exact length_scanUnsigned? h

example : scan? "12.5e3,".toList = some [','] := by decide
example : scan? "01".toList = none ∧ scan? "1.".toList = none ∧ scan? "-".toList = none := by decide
example : isTooLarge 17 307 = false ∧ isTooLarge 18 307 = true := by decide +kernel

end BlockNotes.JsonNumber
