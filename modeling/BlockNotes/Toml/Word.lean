import BlockNotes.Toml.Value

/-!
# Words in TOML

What stands for itself without quotes: truth values, numbers and dates.  A
single underscore may stand between any two digits of a number.  A whole number
is kept if it fits into 128 bits, and a number with a point is refused if it is
beyond the largest binary64 number.
-/

namespace BlockNotes.TomlWord

/-! ## Digits -/

/-- Digits with at most one underscore between two of them; gives the digits alone. -/
def digits? (isDigit : Char → Bool) : Text → Option Text
  | [] => none
  | [c] => if isDigit c then some [c] else none
  | c :: '_' :: rest => if isDigit c then (digits? isDigit rest).map (c :: ·) else none
  | c :: rest => if isDigit c then (digits? isDigit rest).map (c :: ·) else none

/-- The value of a digit. -/
def digitValue (c : Char) : Nat :=
  if c.isDigit then c.toNat - '0'.toNat else c.toLower.toNat - 'a'.toNat + 10

/-- Whether a character is a digit to some base. -/
def isDigitOf (base : Nat) (c : Char) : Bool :=
  (c.isDigit || ('a' ≤ c.toLower && c.toLower ≤ 'f')) && digitValue c < base

/-- The number that digits write. -/
def number (base : Nat) (ds : Text) : Nat :=
  ds.foldl (fun n c => n * base + digitValue c) 0

/-- Decimal digits without a needless zero in front. -/
def whole? (t : Text) : Option Text :=
  (digits? Char.isDigit t).filter fun ds => ds.length = 1 || ds.head? ≠ some '0'

/-- The sign of a number, if it is negative, and the rest. -/
def sign : Text → Bool × Text
  | '-' :: rest => (true, rest)
  | '+' :: rest => (false, rest)
  | t => (false, t)

/-! ## Whole numbers -/

/-- A whole number. -/
def integer? (t : Text) : Option Int :=
  let n? : Option Int := match t with
    | '0' :: 'x' :: t => (digits? (isDigitOf 16) t).map fun ds => number 16 ds
    | '0' :: 'o' :: t => (digits? (isDigitOf 8) t).map fun ds => number 8 ds
    | '0' :: 'b' :: t => (digits? (isDigitOf 2) t).map fun ds => number 2 ds
    | t =>
      let (negative, t) := sign t
      (whole? t).map fun ds => if negative then -(number 10 ds : Int) else number 10 ds
  n?.filter fun n => decide (-(Nat.pow 2 127 : Int) ≤ n ∧ n < (Nat.pow 2 128 : Int))

/-! ## Numbers with a point -/

/-- Whether the number of these digits, with the point so many places behind them, is finite. -/
def isFinite (ds : Text) (places : Int) : Bool :=
  let ds := ds.dropWhile (· = '0')
  let size : Int := ds.length + places
  if ds = [] ∨ size < 309 then true
  else if 309 < size then false
  else
    let bound := Nat.pow 2 1024 - Nat.pow 2 970
    if 0 ≤ places then decide (number 10 ds * Nat.pow 10 places.toNat < bound)
    else decide (number 10 ds < bound * Nat.pow 10 (-places).toNat)

/-- The exponent of a number. -/
def exponent? (t : Text) : Option Int :=
  let (negative, t) := sign t
  (digits? Char.isDigit t).map fun ds =>
    if negative then -(number 10 ds : Int) else number 10 ds

/-- What stands before the letter of an exponent, and the exponent. -/
def cutExponent? (t : Text) : Option (Text × Option Int) :=
  match (t.cutFirst? 'e').or (t.cutFirst? 'E') with
  | none => some (t, none)
  | some (front, back) => (exponent? back).map fun e => (front, some e)

/-- Whether a text is a number with a point or an exponent. -/
def isFloat (t : Text) : Bool :=
  let (_, t) := sign t
  if t = "inf".toList ∨ t = "nan".toList then true
  else
    match cutExponent? t with
    | none => false
    | some (front, exponent) =>
      match front.cutFirst? '.' with
      | none => exponent.isSome && (whole? front).any fun ds => isFinite ds (exponent.getD 0)
      | some (whole, fraction) =>
        match whole? whole, digits? Char.isDigit fraction with
        | some ds, some more => isFinite (ds ++ more) (exponent.getD 0 - more.length)
        | _, _ => false

/-! ## Dates and times -/

/-- The number of two digits, and the rest. -/
def two? : Text → Option (Nat × Text)
  | a :: b :: rest => if a.isDigit && b.isDigit then some (number 10 [a, b], rest) else none
  | _ => none

/-- The rest behind a character. -/
def after? (c : Char) : Text → Option Text
  | d :: rest => if c = d then some rest else none
  | [] => none

/-- The number of days of a month. -/
def daysIn (year month : Nat) : Nat :=
  if month = 2 then
    if year % 4 = 0 ∧ (year % 100 ≠ 0 ∨ year % 400 = 0) then 29 else 28
  else if month = 4 ∨ month = 6 ∨ month = 9 ∨ month = 11 then 30
  else 31

/-- The rest behind a date. -/
def date? (t : Text) : Option Text := do
  let (century, t) ← two? t
  let (year, t) ← two? t
  let (month, t) ← two? (← after? '-' t)
  let (day, t) ← two? (← after? '-' t)
  if 1 ≤ month ∧ month ≤ 12 ∧ 1 ≤ day ∧ day ≤ daysIn (century * 100 + year) month then some t
  else none

/-- The rest behind hours and minutes. -/
def clock? (t : Text) : Option Text := do
  let (hour, t) ← two? t
  let (minute, t) ← two? (← after? ':' t)
  if hour ≤ 23 ∧ minute ≤ 59 then some t else none

/-- The rest behind seconds, if there are any. -/
def seconds? : Text → Option Text
  | ':' :: t => do
    let (second, t) ← two? t
    if 60 < second then none
    else
      match t with
      | '.' :: t =>
        if (t.takeWhile Char.isDigit).isEmpty then none else some (t.dropWhile Char.isDigit)
      | t => some t
  | t => some t

/-- The rest behind a time. -/
def time? (t : Text) : Option Text :=
  (clock? t).bind seconds?

/-- Whether a text is the offset of a time, or empty. -/
def isOffset : Text → Bool
  | [] => true
  | ['Z'] | ['z'] => true
  | '+' :: t | '-' :: t => clock? t = some []
  | _ => false

/-- Whether a text is a date, a time, or both. -/
def isDateTime (t : Text) : Bool :=
  match date? t with
  | some [] => true
  | some (c :: rest) => (c = 'T' || c = 't' || c = ' ') && (time? rest).any isOffset
  | none => time? t = some []

/-! ## Words -/

/-- The value that a word stands for. -/
def value? (t : Text) : Option TomlValue :=
  if t = "true".toList then some (.bool true)
  else if t = "false".toList then some (.bool false)
  else
    match integer? t with
    | some n => some (.integer n)
    | none => if isFloat t then some .float else if isDateTime t then some .dateTime else none

example : integer? "1_000".toList = some 1000 ∧ integer? "1__0".toList = none := by decide
example : integer? "0x_1".toList = none ∧ integer? "03".toList = none := by decide
example : integer? "-0b1".toList = none ∧ integer? "0o17".toList = some 15 := by decide
example : isFloat "1.5e3".toList ∧ !isFloat "1.".toList ∧ !isFloat "1e400".toList := by
  decide +kernel
example : isDateTime "2000-02-29 07:32:00.5+01:00".toList := by decide
example : !isDateTime "1900-02-29".toList := by decide

end BlockNotes.TomlWord
