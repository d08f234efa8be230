import BlockNotes.Text.NameSet

/-!
# Styles

How a piece of text looks on a terminal: a colour in front, a colour behind,
and modifiers.  The palette says which colour a run of code gets by its tags.
It is ordered: a run takes the colour of the first entry whose tag it has.
-/

namespace BlockNotes

/-- The colours in use. -/
inductive Colour where
  /-- Gray. -/
  | gray
  /-- Dark gray. -/
  | darkGray
  /-- White. -/
  | white
  /-- Green. -/
  | green
  /-- Yellow. -/
  | yellow
  /-- Blue. -/
  | blue
  /-- Magenta. -/
  | magenta
  /-- Cyan. -/
  | cyan
  /-- Light red. -/
  | lightRed
  /-- Light magenta. -/
  | lightMagenta
  /-- Light cyan. -/
  | lightCyan
deriving DecidableEq, Repr

/-- How a piece of text looks. -/
structure Style where
  /-- The colour of the text, if it is set. -/
  foreground : Option Colour := none
  /-- The colour behind the text, if it is set. -/
  background : Option Colour := none
  /-- Whether the text is bold. -/
  bold : Bool := false
  /-- Whether the text is italic. -/
  italic : Bool := false
  /-- Whether the text is underlined. -/
  underlined : Bool := false
  /-- Whether the two colours are exchanged. -/
  reversed : Bool := false
deriving DecidableEq, Repr, Inhabited

namespace Style

/-- The style of marks and comments in the margin. -/
def dim : Style := { foreground := some .darkGray }

/-- The style of the cursor. -/
def caret : Style := { reversed := true }

/-! ## Code -/

/-- The colours of tags, those that matter most first. -/
def palette : List (String × Colour) := [
  ("comment", .darkGray),
  ("shebang", .darkGray),
  ("template-punctuation", .yellow),
  ("interpolation-punctuation", .yellow),
  ("string", .green),
  ("char", .green),
  ("url", .green),
  ("keyword", .magenta),
  ("boolean", .lightRed),
  ("number", .lightRed),
  ("hexcode", .lightRed),
  ("color", .lightRed),
  ("function", .blue),
  ("function-definition", .blue),
  ("class-name", .yellow),
  ("builtin", .cyan),
  ("property", .cyan),
  ("selector", .yellow),
  ("variable", .lightCyan),
  ("lifetime-annotation", .lightMagenta),
  ("operator", .white),
  ("punctuation", .gray)]

/-- The style of a run of code with some tags. -/
def ofTags (tags : NameSet) : Style :=
  { foreground := (palette.find? fun (tag, _) => decide (tag ∈ tags)).map Prod.snd
    italic := decide ("comment" ∈ tags)
    bold := decide ("important" ∈ tags ∨ "bold" ∈ tags) }

end Style

example : (Style.ofTags (.ofList ["keyword", "string"])).foreground = some .green := by decide

end BlockNotes
