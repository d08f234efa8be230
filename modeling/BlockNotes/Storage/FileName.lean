import BlockNotes.Text.Basic

/-!
# Names of files

A file is named by a text with slashes between the names of the directories on
the way to it.  Empty parts and single dots count for nothing, and two dots go
one directory up.

The name proper is the last part that counts.  It ends in an extension if there
is a dot in it that is not its first character.
-/

namespace BlockNotes

namespace FileName

/-- The parts that count. -/
def parts (t : Text) : List Text :=
  (t.split '/').filter fun p => p ≠ [] ∧ p ≠ ['.']

/-- Whether a name starts at the root of the file system. -/
def isAbsolute (t : Text) : Bool :=
  t.startsWith ['/']

/-- Whether a name is written so that it can only name a directory. -/
def isDirectoryName (t : Text) : Bool :=
  match (t.split '/').getLast? with
  | some last => last = [] || last = ['.']
  | none => false

/-! ## Extensions -/

/-- A reversed name without the slashes and single dots at its end. -/
def dropTail : Text → Text
  | '/' :: rest => dropTail rest
  | '.' :: '/' :: rest => dropTail rest
  | t => t

/-- What precedes the name proper, and the name proper. -/
def split? (t : Text) : Option (Text × Text) :=
  let reversed := dropTail t.reverse
  let name := (reversed.takeWhile (· ≠ '/')).reverse
  if name = [] ∨ name = ['.'] ∨ name = ['.', '.'] then none
  else some ((reversed.dropWhile (· ≠ '/')).reverse, name)

/-- A name proper without its extension. -/
def stem (name : Text) : Text :=
  match name.cutLast? '.' with
  | some (c :: stem, _) => c :: stem
  | _ => name

/-- The extension of a name proper. -/
def extension (name : Text) : Text :=
  match name.cutLast? '.' with
  | some (_ :: _, extension) => extension
  | _ => []

/--
A name with another extension.  The old one is cut off first, by its length and
from the end, and what is left may then have another name proper or none.
-/
def withExtension (t : Text) (new : String) : Text :=
  let old := match split? t with
    | some (_, name) => extension name
    | none => []
  let t := t.take (t.length - old.length)
  match split? t with
  | some (front, name) => front ++ stem name ++ '.' :: new.toList
  | none => t

example : withExtension "a//b.txt".toList "md" = "a//b.md".toList := by decide
example : withExtension ".hidden".toList "md" = ".hidden.md".toList := by decide
example : withExtension "...".toList "md" = "...md".toList := by decide
example : withExtension "a/..".toList "md" = "a/..".toList := by decide

end FileName

end BlockNotes
