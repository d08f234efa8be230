import BlockNotes.Unicode.Blank

/-!
# Kinds of blocks

A block has one of eight kinds.  Some carry a value: a heading its level, a
code block its language, an image its address.

A kind is *canonical* if its level is 1 to 3 and its language is not blank.
`Kind.canonical` brings a kind into that form, and it is the identity on kinds
that have it.
-/

namespace BlockNotes

/-- The kind of a block. -/
inductive Kind where
  /-- A paragraph. -/
  | paragraph
  /-- A heading with its level. -/
  | heading (level : Nat)
  /-- A list with bullets. -/
  | bulletList
  /-- A list with numbers. -/
  | numberedList
  /-- An item of a list. -/
  | listItem
  /-- A quotation. -/
  | quote
  /-- A code block with its language. -/
  | code (language : String)
  /-- An image with its address. -/
  | image (url : String)
deriving DecidableEq, Repr, Inhabited

namespace Kind

/-- The language of a code block for which none was given. -/
def textLanguage : String := "text"

/-- Whether a name has nothing but blanks. -/
def isBlankName (s : String) : Bool :=
  s.toList.all Unicode.isBlank

/-- A heading with its level brought into the range from 1 to 3. -/
def headingOf (level : Nat) : Kind :=
  heading (max 1 (min level 3))

/-- A code block; a blank language becomes `text`. -/
def codeOf (language : String) : Kind :=
  code (if isBlankName language then textLanguage else language)

/-- The canonical form of a kind. -/
def canonical : Kind → Kind
  | heading level => headingOf level
  | code language => codeOf language
  | k => k

/-- Whether the kind is a list. -/
def isList : Kind → Bool
  | bulletList | numberedList => true
  | _ => false

/-- Whether the kind is a code block. -/
def isCode : Kind → Bool
  | code _ => true
  | _ => false

/-- Whether blocks of the kind hold no text that can be edited. -/
def isVoid : Kind → Bool
  | image _ => true
  | _ => false

/-- The language of a code block. -/
def language? : Kind → Option String
  | code language => some language
  | _ => none

/-- Whether two kinds agree, languages and addresses left aside. -/
def sameType : Kind → Kind → Bool
  | paragraph, paragraph => true
  | heading a, heading b => a == b
  | bulletList, bulletList => true
  | numberedList, numberedList => true
  | listItem, listItem => true
  | quote, quote => true
  | code _, code _ => true
  | image _, image _ => true
  | _, _ => false

/-! ## Canonical kinds -/

/-- A level from 1 to 3, and a language that is not blank. -/
def IsCanonical : Kind → Prop
  | heading level => 1 ≤ level ∧ level ≤ 3
  | code language => isBlankName language = false
  | _ => True

/-- The canonical form is canonical. -/
theorem isCanonical_canonical (k : Kind) : k.canonical.IsCanonical := by
  cases k with
  | heading level => simp only [canonical, headingOf, IsCanonical]; omega
  | code language =>
    simp only [canonical, codeOf, IsCanonical]
    split
    · decide
    · simp_all
  | _ => trivial

/-- A canonical kind is its own canonical form. -/
theorem canonical_of_isCanonical {k : Kind} (h : k.IsCanonical) : k.canonical = k := by
  cases k with
  | heading level =>
    simp only [IsCanonical] at h
    simp only [canonical, headingOf, heading.injEq]
    omega
  | code language =>
    simp only [IsCanonical] at h
    simp [canonical, codeOf, h]
  | _ => rfl

end Kind

end BlockNotes
