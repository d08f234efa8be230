import BlockNotes.App.Basic
import BlockNotes.App.KeyInput
import BlockNotes.Settings.Basic

/-!
# The command line

The program is started with the name of a document and edits it on the terminal.
It expects a terminal that hands over each key as it is pressed, without showing
it, and takes the size of the screen from the environment.

What the program does to files is decided on a `FileSystem` that holds the
document and the settings.  The files that changed in it are written after each
key.
-/

namespace BlockNotes.Terminal

/-! ## Files -/

/-- Adds the file of a name, if there is one. -/
def addFile (fs : FileSystem) (name : Text) : IO FileSystem := do
  try
    let bytes ← IO.FS.readBinFile (String.ofList name)
    return (fs.store name (.ofBytes bytes)).toOption.getD fs
  catch
    | .noFileOrDirectory .. => return fs
    | e => throw e

/-- Writes a file and makes the directories that it needs. -/
def writeFile (p : Place) (content : Text) : IO Unit := do
  IO.FS.createDirAll (String.ofList (FileSystem.nameOf p.dropLast))
  IO.FS.writeFile (String.ofList (FileSystem.nameOf p)) (String.ofList content)

/-- Writes the files that an action changed.  If that fails, the action is done where nothing can be
written. -/
def writeChanges (action : Action) (old new : App) : IO App := do
  try
    for (p, content) in new.files.changedSince old.files do
      writeFile p content
    return new
  catch e =>
    match (old.setFault (some (.device (toString e)))).step action with
    | some (_, failed) => return failed.setFault none
    | none => return old

/-! ## The screen and the keys -/

/-- Shows the program. -/
def display (output : IO.FS.Stream) (width height : Nat) (a : App) : IO Unit := do
  let rows := (a.draw width height).map fun row => String.ofList row.render
  output.putStr ("\x1b[2J\x1b[H" ++ "\r\n".intercalate rows)
  output.flush

/-- Reads a character; a broken one is replaced, and there is none at the end. -/
def readChar (input : IO.FS.Stream) : IO (Option Char) := do
  let first ← input.read 1
  match first.data[0]? with
  | none => return none
  | some b =>
    let more : USize := if b < 0xc0 then 0 else if b < 0xe0 then 1 else if b < 0xf0 then 2 else 3
    let rest ← if more = 0 then pure ByteArray.empty else input.read more
    return (String.fromUTF8? (first ++ rest)).bind (·.toList.head?) <|> some '\ufffd'

/-- Takes in keys until one ends the program. -/
partial def loop (input output : IO.FS.Stream) (width height : Nat) (reader : KeyReader) (a : App) :
    IO Unit := do
  display output width height a
  let c ← readChar input
  let (reader, press) := match c with
    | some c => reader.step c
    | none => (.ready, some ⟨.escape, {}⟩)
  match press with
  | none => loop input output width height reader a
  | some press =>
    let action := Action.ofKey press.key press.modifiers
    match a.step action with
    | some (true, next) => loop input output width height reader (← writeChanges action a next)
    | _ => pure ()

/-- A number from the environment. -/
def size (name : String) (default : Nat) : IO Nat := do
  return ((← IO.getEnv name).bind String.toNat?).getD default

/-- Edits a document. -/
def edit (name : String) : IO UInt32 := do
  let home := (← IO.getEnv "HOME").map String.toList
  let settingsName := Settings.fileName home
  let fs ← addFile (← addFile {} name.toList) settingsName
  match Settings.load fs (fun _ => none) home settingsName, Registry.builtin with
  | .error e, _ =>
    IO.eprintln ("Error: Failed to load config file: " ++ e.message)
    IO.eprintln ("Fix or remove " ++ String.ofList settingsName)
    return 1
  | _, .error _ => return 1
  | .ok settings, .ok grammars =>
    match App.open? fs grammars name.toList (settings.getD {}).editor with
    | .error e =>
      IO.eprintln ("Error: Failed to open " ++ name ++ ": IO error: " ++ e.message)
      return 1
    | .ok a =>
      let output ← IO.getStdout
      output.putStr "\x1b[?1049h"
      loop (← IO.getStdin) output (← size "COLUMNS" 80) (← size "LINES" 24) .ready a
      output.putStr "\x1b[?1049l"
      return 0

end BlockNotes.Terminal

/-- Starts the program. -/
def main (args : List String) : IO UInt32 := do
  match args with
  | [name] => BlockNotes.Terminal.edit name
  | _ =>
    IO.eprintln ("Usage: " ++ (← IO.appPath).toString ++ " <document-path>")
    return 1
