import BlockNotes.Unicode.CharSet

/-!
# Blank characters

The characters with the property `White_Space`.  Trimming, the test for a
blank code block and word deletion speak of these, and so does `\\s` in a
pattern.  ASCII has six of them, tab to carriage return and the space.
-/

namespace BlockNotes.Unicode

/-- The code points with the property `White_Space`. -/
def blank : CharSet where
  ranges := #[
    (0x9, 0xd), (0x20, 0x20), (0x85, 0x85), (0xa0, 0xa0), (0x1680, 0x1680), (0x2000, 0x200a),
    (0x2028, 0x2029), (0x202f, 0x202f), (0x205f, 0x205f), (0x3000, 0x3000)]

/-- Whether a character is white space. -/
def isBlank (c : Char) : Bool :=
  blank.contains c

example : isBlank '\u00a0' ∧ isBlank '\u2003' ∧ isBlank '\x0b' := by decide
example : isBlank '\u200b' = false ∧ isBlank '\u180e' = false := by decide

end BlockNotes.Unicode
