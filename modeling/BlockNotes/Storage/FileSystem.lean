import BlockNotes.Storage.FileName

/-!
# File systems

A file system as a value: what stands at each place, a place being the names on
the way to it from the directory that names start from.  That directory itself
always exists, and so does the root.

Writing makes the directories that a name needs.  It either succeeds or leaves
everything as it was, and it changes what stands at one place only, directories
aside.  Where it would succeed it may still fail, for reasons that the names do not
show: a full disk, say.  Such a reason is part of the file system while it lasts.
-/

namespace BlockNotes

/-- The names on the way to a place. -/
abbrev Place := List Text

/-- What stands at a place. -/
inductive FileEntry where
  /-- A file with text. -/
  | text (content : Text)
  /-- A file with bytes that are no text. -/
  | binary
  /-- A directory. -/
  | directory
deriving DecidableEq, Repr

/-- A file with bytes. -/
def FileEntry.ofBytes (bytes : ByteArray) : FileEntry :=
  match String.fromUTF8? bytes with
  | some content => text content.toList
  | none => binary

/-- Why a file cannot be read or written. -/
inductive FileError where
  /-- There is nothing at the place. -/
  | notFound
  /-- Something on the way is no directory. -/
  | notDirectory
  /-- A directory stands at the place. -/
  | isDirectory
  /-- Something else stands where a directory is needed. -/
  | alreadyExists
  /-- The name is too long. -/
  | nameTooLong
  /-- The name has a character that no name may have. -/
  | badName
  /-- The file is no text. -/
  | notText
  /-- The device does not do it, for a reason of its own. -/
  | device (reason : String)
deriving DecidableEq, Repr

namespace FileError

/-- What an error says. -/
def message : FileError → String
  | notFound => "No such file or directory (os error 2)"
  | notDirectory => "Not a directory (os error 20)"
  | isDirectory => "Is a directory (os error 21)"
  | alreadyExists => "File exists (os error 17)"
  | nameTooLong => "File name too long (os error 36)"
  | badName => "file name contained an unexpected NUL byte"
  | notText => "stream did not contain valid UTF-8"
  | device reason => reason

end FileError

/-- What stands at each place, and whether more can be written. -/
structure FileSystem where
  /-- The places with what stands there, each place once. -/
  entries : List (Place × FileEntry) := []
  /-- Why nothing can be written at present, if so. -/
  fault : Option FileError := none
deriving Repr, Inhabited

namespace FileSystem

/-! ## Places -/

/-- The name of the root. -/
def root : Text := ['/']

/-- The name that leads one directory up. -/
def up : Text := ['.', '.']

/-- What stands at a place. -/
def entry? (fs : FileSystem) (p : Place) : Option FileEntry :=
  if p.all fun n => n = root || n = up then some .directory else fs.entries.lookup p

/-- Puts something at a place. -/
def put (fs : FileSystem) (p : Place) (e : FileEntry) : FileSystem :=
  { fs with entries := (p, e) :: fs.entries.filter fun old => old.1 ≠ p }

/-- The place that a part of a name leads to. -/
def enter (p : Place) (part : Text) : Place :=
  if part = up then
    match p.getLast? with
    | none => p ++ [up]
    | some last => if last = up then p ++ [up] else if last = root then p else p.dropLast
  else p ++ [part]

/-- The place where a name starts. -/
def origin (name : Text) : Place :=
  if FileName.isAbsolute name then [root] else []

/-- Whether a name may be used at all. -/
def checkName (name : Text) : Except FileError Unit :=
  if name.any (· = '\x00') then .error .badName
  else if name = [] then .error .notFound
  else if 4096 ≤ name.bytes ∨ (FileName.parts name).any fun p => 255 < p.bytes then
    .error .nameTooLong
  else .ok ()

/-- Follows the parts of a name, all of them but the last through directories. -/
def follow (fs : FileSystem) (p : Place) : List Text → Except FileError Place
  | [] => .ok p
  | part :: rest =>
    match fs.entry? p with
    | some .directory => follow fs (enter p part) rest
    | some _ => .error .notDirectory
    | none => .error .notFound

/-- The place that a name leads to. -/
def locate (fs : FileSystem) (name : Text) : Except FileError Place := do
  checkName name
  fs.follow (origin name) (FileName.parts name)

/-- The name of a place. -/
def nameOf (p : Place) : Text :=
  match p with
  | first :: rest =>
    if first = root then '/' :: List.intercalate ['/'] rest else List.intercalate ['/'] p
  | [] => ['.']

/-- Whether a place is below the directory that names start from. -/
def isBelow (p : Place) : Bool :=
  p.head? ≠ some root && p.head? ≠ some up

/-- The files of text below the directory that names start from, by name. -/
def listing (fs : FileSystem) : List (Text × Text) :=
  fs.entries.filterMap fun (p, e) =>
    match e with
    | .text content => if isBelow p then some (nameOf p, content) else none
    | _ => none

/-- The files of text that stood otherwise in another file system. -/
def changedSince (fs old : FileSystem) : List (Place × Text) :=
  fs.entries.filterMap fun (p, e) =>
    match e with
    | .text content => if old.entry? p = some e then none else some (p, content)
    | _ => none

/-! ## Reading -/

/-- What stands at a name. -/
def find (fs : FileSystem) (name : Text) : Except FileError FileEntry := do
  match fs.entry? (← fs.locate name) with
  | none => .error .notFound
  | some .directory => .ok .directory
  | some e => if FileName.isDirectoryName name then .error .notDirectory else .ok e

/-- Whether there is something at a name. -/
def contains (fs : FileSystem) (name : Text) : Bool :=
  (fs.find name).isOk

/-- Reads a file as text. -/
def read (fs : FileSystem) (name : Text) : Except FileError Text := do
  match ← fs.find name with
  | .text content => .ok content
  | .binary => .error .notText
  | .directory => .error .isDirectory

/-! ## Writing -/

/-- Makes the directories that parts of a name lead through, as far as they are missing. -/
def makeDirectories (fs : FileSystem) (p : Place) : List Text → Except FileError FileSystem
  | [] => .ok fs
  | part :: rest =>
    let p := enter p part
    match fs.entry? p with
    | some .directory => makeDirectories fs p rest
    | some _ => .error (if rest.isEmpty then .alreadyExists else .notDirectory)
    | none => makeDirectories (fs.put p .directory) p rest

/-- Puts a file at a name and makes the directories that it needs. -/
def store (fs : FileSystem) (name : Text) (e : FileEntry) : Except FileError FileSystem := do
  checkName name
  let fs ← fs.makeDirectories (origin name) (FileName.parts name).dropLast
  let p ← fs.locate name
  match fs.entry? p with
  | some .directory => .error .isDirectory
  | some _ => if FileName.isDirectoryName name then .error .notDirectory else .ok (fs.put p e)
  | none => if FileName.isDirectoryName name then .error .isDirectory else .ok (fs.put p e)

/-- Writes a file of text and makes the directories that it needs, unless nothing can be written. -/
def write (fs : FileSystem) (name content : Text) : Except FileError FileSystem := do
  let written ← fs.store name (.text content)
  match fs.fault with
  | some e => .error e
  | none => .ok written

end FileSystem

end BlockNotes
