import BlockNotes.Document.Markdown
import BlockNotes.Document.Stored
import BlockNotes.Storage.FileSystem

/-!
# Documents in files

Loading, saving and exporting a document.  It is exported beside its file, under
the same name with the extension `md`.
-/

namespace BlockNotes

/-- Why a document cannot be loaded. -/
inductive LoadError where
  /-- There is no such file. -/
  | notFound (name : Text)
  /-- The file cannot be read. -/
  | unreadable (error : FileError)
deriving DecidableEq, Repr

namespace LoadError

/-- What an error says. -/
def message : LoadError → String
  | notFound name => "File not found: " ++ String.ofList name
  | unreadable e => "IO error: " ++ e.message

end LoadError

/-- The name of the markdown file beside a document. -/
def FileName.markdown (name : Text) : Text :=
  withExtension name "md"

namespace Document

/-- Loads the document of a file.  What is no stored document becomes one paragraph. -/
def load (fs : FileSystem) (name : Text) : Except LoadError Document :=
  if fs.contains name then
    match fs.read name with
    | .ok content => .ok (ofContent content)
    | .error e => .error (.unreadable e)
  else .error (.notFound name)

/-- Saves a document as JSON. -/
def save (d : Document) (fs : FileSystem) (name : Text) : Except FileError FileSystem :=
  fs.write name d.toJson

/-- Writes a document as markdown beside its file, and gives the name of what was written. -/
def exportMarkdown (d : Document) (fs : FileSystem) (name : Text) :
    Except FileError (Text × FileSystem) := do
  let target := FileName.markdown name
  return (target, ← fs.write target d.toMarkdown)

end Document

end BlockNotes
