import BlockNotes.App.Keymap
import BlockNotes.Text.Basic

/-!
# Keys from a terminal

A terminal sends the keys as characters.  Most keys are one character, and
control turns a letter into a control character.  The escape character starts a
longer sequence: with another character it is that key with alt, and with a
bracket or an `O` it goes on with numbers up to another character, which tells
the key, except that after a tilde the first number does.  The last number of
several tells the modifiers.  The escape key itself is an escape character that
another one follows, or nothing.

`KeyReader.step` takes one character at a time, so it does not matter how the
input is cut into pieces.
-/

namespace BlockNotes

/-- A key of a terminal with its modifiers. -/
structure TerminalPress where
  /-- The key. -/
  key : TerminalKey
  /-- The modifiers. -/
  modifiers : Modifiers := {}
deriving DecidableEq, Repr

/-- Where the reading of keys stands. -/
inductive KeyReader where
  /-- Between two keys. -/
  | ready
  /-- Behind an escape character. -/
  | escaped
  /-- Within a sequence, with the numbers so far. -/
  | sequence (numbers : Text)
deriving DecidableEq, Repr

namespace KeyReader

/-- The key that a single character stands for. -/
def ofChar (c : Char) : TerminalPress :=
  if c = '\r' ∨ c = '\n' then ⟨.enter, {}⟩
  else if c = '\t' then ⟨.tab, {}⟩
  else if c = '\x08' ∨ c = '\x7f' then ⟨.backspace, {}⟩
  else if 0 < c.toNat ∧ c.toNat ≤ 26 then ⟨.char (Char.ofNat (c.toNat + 0x60)), { ctrl := true }⟩
  else ⟨.char c, {}⟩

/-- The key that a sequence with these numbers and this end stands for. -/
def ofSequence (numbers : Text) (last : Char) : TerminalKey :=
  match last with
  | 'A' => .up
  | 'B' => .down
  | 'C' => .right
  | 'D' => .left
  | 'H' => .home
  | 'F' => .end
  | 'Z' => .backTab
  | '~' =>
    match numbers.takeWhile (· ≠ ';') with
    | ['1'] | ['7'] => .home
    | ['4'] | ['8'] => .end
    | _ => .other
  | _ => .other

/-- The modifiers that the numbers of a sequence tell: one more than the sum of 1, 2 and 4. -/
def modifiersOf (numbers : Text) : Modifiers :=
  match numbers.cutLast? ';' with
  | some (_, [d]) =>
    let n := d.toNat - '1'.toNat
    { shift := n.testBit 0, alt := n.testBit 1, ctrl := n.testBit 2 }
  | _ => {}

/-- Takes in a character, and gives the key that is complete with it. -/
def step (s : KeyReader) (c : Char) : KeyReader × Option TerminalPress :=
  match s with
  | ready => if c = '\x1b' then (escaped, none) else (ready, some (ofChar c))
  | escaped =>
    if c = '[' ∨ c = 'O' then (sequence [], none)
    else if c = '\x1b' then (escaped, some ⟨.escape, {}⟩)
    else
      let press := ofChar c
      (ready, some { press with modifiers := { press.modifiers with alt := true } })
  | sequence numbers =>
    if c.isDigit ∨ c = ';' then (sequence (numbers ++ [c]), none)
    else (ready, some ⟨ofSequence numbers c, modifiersOf numbers⟩)

/-- The key that is left when nothing follows any more. -/
def finish : KeyReader → Option TerminalPress
  | ready => none
  | _ => some ⟨.escape, {}⟩

/-- The keys of a text, read from where the reading stands. -/
def presses (s : KeyReader) : Text → List TerminalPress
  | [] => s.finish.toList
  | c :: rest =>
    let (next, press) := s.step c
    press.toList ++ next.presses rest

example : presses ready "a\x1b[1;2C".toList = [⟨.char 'a', {}⟩, ⟨.right, { shift := true }⟩] := by
  decide
example : presses ready "\x13\x1bq\x1b".toList =
    [⟨.char 's', { ctrl := true }⟩, ⟨.char 'q', { alt := true }⟩, ⟨.escape, {}⟩] := by decide

end KeyReader

end BlockNotes
