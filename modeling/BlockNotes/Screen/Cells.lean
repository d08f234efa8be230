import BlockNotes.Text.Basic
import BlockNotes.Unicode.Blank
import BlockNotes.Unicode.Width

/-!
# Cells of a terminal

A row of a terminal has cells of one column each.  Characters that belong
together, such as a letter and its accent or the parts of one emoji, share a
cell, and a wide one leaves the cell behind it blank.  What has no columns of
its own and nothing in front that it belongs to is not drawn.

`Row.ofTexts` fits the texts of a line into a row: it cuts them off where they no
longer fit and fills the row up, so the row has exactly the width that was asked
for (`Row.length_ofTexts`).
-/

namespace BlockNotes

/-! ## Clusters -/

/-- Characters that are drawn together. -/
structure Cluster where
  /-- The characters. -/
  text : Text
  /-- The number of columns they take. -/
  columns : Nat
deriving DecidableEq, Repr

namespace Cluster

/-- The character that joins emoji. -/
def joiner : Char := '\u200d'

/-- The character that asks for the emoji form of the one before it. -/
def emojiForm : Char := '\ufe0f'

/-- Whether a character is one of the two letters of a flag. -/
def isFlagLetter (c : Char) : Bool :=
  decide (0x1f1e6 ≤ c.toNat ∧ c.toNat ≤ 0x1f1ff)

/-- Whether a character gives the emoji before it a skin tone. -/
def isSkinTone (c : Char) : Bool :=
  decide (0x1f3fb ≤ c.toNat ∧ c.toNat ≤ 0x1f3ff)

/-- Whether a character that takes columns itself still belongs to a cluster. -/
def admits (k : Cluster) (c : Char) : Bool :=
  (k.columns = 2 && (isSkinTone c || (k.text.getLast? = some joiner && Unicode.columns c = 2))) ||
    (isFlagLetter c && k.text.length = 1 && k.text.all isFlagLetter)

/-- Adds a character to clusters, which are given last first. -/
def append : List Cluster → Char → List Cluster
  | [], c => if Unicode.columns c = 0 then [] else [⟨[c], Unicode.columns c⟩]
  | k :: rest, c =>
    if Unicode.columns c = 0 then
      ⟨k.text ++ [c], if c = emojiForm then 2 else k.columns⟩ :: rest
    else if k.admits c then ⟨k.text ++ [c], 2⟩ :: rest
    else ⟨[c], Unicode.columns c⟩ :: k :: rest

/-- Whether a character stands for an instruction, so that nothing can belong to it. -/
def isControl (c : Char) : Bool :=
  let n := c.toNat
  decide (n < 0x20 ∨ (0x7f ≤ n ∧ n < 0xa0) ∨ n = 0x61c ∨ n = 0x180e ∨ n = 0x200b ∨
    n = 0x200e ∨ n = 0x200f ∨ (0x2028 ≤ n ∧ n < 0x202f) ∨ (0x2060 ≤ n ∧ n < 0x2070) ∨ n = 0xfeff)

/-- The clusters of a text without controls. -/
def ofPlain (t : Text) : List Cluster :=
  (t.foldl append []).reverse

/-- The clusters of a text.  Controls are left out, and no cluster goes across one. -/
def ofText (t : Text) : List Cluster :=
  let parts := t.splitBy fun c d => isControl c == isControl d
  (parts.filter fun part => !part.any isControl).flatMap ofPlain

end Cluster

/-! ## Rows -/

/-- A row of cells, each with the characters in it. -/
abbrev Row := List Text

namespace Row

/-- A blank cell. -/
def blank : Text := [' ']

/-- The cells of the clusters that fit into a width. -/
def fit : (width : Nat) → List Cluster → Row
  | _, [] => []
  | width, k :: rest =>
    if k.columns ≤ width ∧ 0 < k.columns then
      k.text :: (List.replicate (k.columns - 1) blank ++ fit (width - k.columns) rest)
    else []

theorem length_fit_le (width : Nat) (ks : List Cluster) : (fit width ks).length ≤ width := by
  induction ks generalizing width with
  | nil => simp [fit]
  | cons k rest ih =>
    have := ih (width - k.columns)
    unfold fit
    split
    · simp only [List.length_cons, List.length_append, List.length_replicate]
      omega
    · simp

/-- The clusters of the texts of a line.  No cluster goes across two texts. -/
def clusters (ts : List Text) : List Cluster :=
  ts.flatMap Cluster.ofText

/-- The texts of a line in a row of a width.  What is wider than the whole row is left out. -/
def ofTexts (width : Nat) (ts : List Text) : Row :=
  let shown := fit width ((clusters ts).filter fun k => k.columns ≤ width)
  shown ++ List.replicate (width - shown.length) blank

/-- A line fills its row. -/
theorem length_ofTexts (width : Nat) (ts : List Text) : (ofTexts width ts).length = width := by
  have := length_fit_le width ((clusters ts).filter fun k => k.columns ≤ width)
  simp only [ofTexts, List.length_append, List.length_replicate]
  omega

/-- A row of one repeated character between two others. -/
def ruled (left middle right : Char) : (width : Nat) → Row
  | 0 => []
  | 1 => [[left]]
  | n + 2 => [left] :: (List.replicate n [middle] ++ [[right]])

/-- A row over the cells of another one, from a column on. -/
def overlay (row : Row) (column : Nat) (new : Row) : Row :=
  row.take column ++ new ++ row.drop (column + new.length)

/-- The characters of a row, without the blanks at its end. -/
def render (row : Row) : Text :=
  Text.dropEndWhile row.flatten Unicode.isBlank

end Row

/-! ## Boxes -/

namespace Box

/-- The number of rows or columns inside of a box. -/
def inner (size : Nat) : Nat := size - 2

/-- The top of a box with a title. -/
def top (title : Text) (width : Nat) : Row :=
  (Row.ruled '┌' '─' '┐' width).overlay 1 (Row.fit (inner width) (Cluster.ofText title))

/-- A row inside of a box. -/
def side (line : List Text) (width : Nat) : Row :=
  match width with
  | 0 => []
  | 1 => [['│']]
  | n + 2 => ['│'] :: (Row.ofTexts n line ++ [['│']])

/-- The bottom of a box. -/
def bottom (width : Nat) : Row :=
  Row.ruled '└' '─' '┘' width

/-- A box with a title and lines. -/
def draw (title : Text) (lines : List (List Text)) (width height : Nat) : List Row :=
  match height with
  | 0 => []
  | 1 => [top title width]
  | n + 2 =>
    let shown := lines.take n ++ List.replicate (n - lines.length) []
    top title width :: (shown.map fun line => side line width) ++ [bottom width]

end Box

end BlockNotes
