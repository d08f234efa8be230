import BlockNotes.Text.Basic
import BlockNotes.Unicode.Letter

/-!
# Variables in names of files

A dollar sign and a name stand for the value of a variable, with or without
braces, and within braces a default may follow the name.  Two dollar signs stand
for one, and a tilde at the start for the home directory.  What comes out of a
variable is not expanded again.

A variable that is not set and has no default makes the whole expansion fail.
-/

namespace BlockNotes

namespace Expansion

/-- Whether a character may stand in the name of a variable. -/
def isNameChar (c : Char) : Bool :=
  Unicode.isAlphanumeric c || c = '_'

/-- The name and the default in braces.  What starts with `:-` is a name as a whole. -/
def splitDefault (t : Text) : Text × Option Text :=
  match t with
  | ':' :: '-' :: _ => (t, none)
  | t => go t
where
  /-- Looks for the first `:-`. -/
  go : Text → Text × Option Text
    | [] => ([], none)
    | ':' :: '-' :: rest => ([], some rest)
    | c :: rest => ((c :: (go rest).1), (go rest).2)

/-- What stands in braces, expanded. -/
def reference? (lookup? : Text → Option Text) (t : Text) : Option Text :=
  let (name, default) := splitDefault t
  (lookup? name).or default

/-- A text with its variables expanded. -/
def expandAll? (lookup? : Text → Option Text) : Text → Option Text
  | [] => some []
  | '$' :: '\x7b' :: rest =>
    match h : Text.cutFirst? '\x7d' rest with
    | none => (expandAll? lookup? rest).map fun t => '$' :: '\x7b' :: t
    | some (inside, after) =>
      have := Text.length_of_cutFirst? h
      (reference? lookup? inside).bind fun v => (expandAll? lookup? after).map (v ++ ·)
  | '$' :: '$' :: rest => (expandAll? lookup? rest).map ('$' :: ·)
  | '$' :: c :: rest =>
    if isNameChar c then
      have := (List.dropWhile_suffix isNameChar (l := rest)).length_le
      (lookup? (c :: rest.takeWhile isNameChar)).bind fun v =>
        (expandAll? lookup? (rest.dropWhile isNameChar)).map (v ++ ·)
    else (expandAll? lookup? (c :: rest)).map ('$' :: ·)
  | c :: rest => (expandAll? lookup? rest).map (c :: ·)
termination_by t => t.length
decreasing_by all_goals (simp only [List.length_cons]; omega)

/-- A text with a tilde at its start expanded, if it stands alone or before a slash. -/
def tilde (home : Option Text) (t : Text) : Text :=
  match t, home with
  | ['~'], some home => home
  | '~' :: '/' :: rest, some home => home ++ '/' :: rest
  | t, _ => t

/-- A text with variables and a tilde expanded.  A tilde from a variable stays as it is. -/
def full? (lookup? : Text → Option Text) (home : Option Text) (t : Text) : Option Text :=
  (expandAll? lookup? t).map fun s =>
    if s.startsWith ['~'] && !t.startsWith ['~'] then s else tilde home s

end Expansion

end BlockNotes
