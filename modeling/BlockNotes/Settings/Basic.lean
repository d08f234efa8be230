import BlockNotes.Editor.Basic
import BlockNotes.Settings.Expansion
import BlockNotes.Storage.FileSystem
import BlockNotes.Toml.Reader
import BlockNotes.Toml.Writer

/-!
# Settings

The settings of the program are a TOML document with a table for the editor.
Everything may be left out and then has its default, fields of other names are
passed over, and an array counts as a table that gives its fields in order.

Saving writes whatever the settings are.  Loading also looks at the width of the
indentation, which has to be 1 to 16, and expands variables in the name of the
log file.
-/

namespace BlockNotes

/-- The settings. -/
structure Settings where
  /-- Where the log is written, if at all. -/
  logFile : Option Text := none
  /-- The options of the editor. -/
  editor : EditorOptions := {}
deriving DecidableEq, Repr

/-- Why settings cannot be loaded. -/
inductive SettingsError where
  /-- The file of this name cannot be read. -/
  | unreadable (name : Text) (error : FileError)
  /-- The file of this name does not hold settings. -/
  | malformed (name : Text)
  /-- The width of the indentation is out of range. -/
  | invalidIndentWidth (width : Nat)
deriving DecidableEq, Repr

namespace SettingsError

/-- What an error says. -/
def message : SettingsError → String
  | unreadable name e =>
    "Failed to read config file at " ++ String.ofList name ++ ": " ++ e.message
  | malformed name => "Failed to parse config file at " ++ String.ofList name
  | invalidIndentWidth width =>
    "indent_width must be between 1 and 16, got " ++ toString width

end SettingsError

namespace Settings

/-! ## Reading -/

/-- A value as a string. -/
def string? : TomlValue → Option Text
  | .string t => some t
  | _ => none

/-- A value as a natural number of 64 bits. -/
def number? : TomlValue → Option Nat
  | .integer n => if 0 ≤ n ∧ n < 0x10000000000000000 then some n.toNat else none
  | _ => none

/-- A value as an array of strings. -/
def strings? : TomlValue → Option (List String)
  | .array items => items.mapM fun v => (string? v).map String.ofList
  | _ => none

/-- A value that may be left out. -/
def orDefault {α : Type} (read : TomlValue → Option α) (default : α) : Option TomlValue → Option α
  | none => some default
  | some v => read v

/-- The options of the editor from the values of their fields. -/
def editorOf? (width fallback languages : Option TomlValue) : Option EditorOptions := do
  let defaults : EditorOptions := {}
  let indentWidth ← orDefault number? defaults.indentWidth width
  let fallback ←
    orDefault (fun v => (string? v).map String.ofList) defaults.fallback fallback
  let languages ← orDefault strings? defaults.languages languages
  some { indentWidth, fallback, languages }

/-- The options of the editor from a value.  A date counts as a table without known fields. -/
def editor? : TomlValue → Option EditorOptions
  | .table t =>
    editorOf? (t.find? "indent_width".toList) (t.find? "fallback_language".toList)
      (t.find? "languages".toList)
  | .array items => editorOf? items[0]? items[1]? items[2]?
  | .dateTime => some {}
  | _ => none

/-- The settings that a table holds. -/
def ofTable? (t : TomlTable) : Option Settings := do
  let logFile ← orDefault (fun v => (string? v).map some) none (t.find? "log_file".toList)
  let editor ← orDefault editor? {} (t.find? "editor".toList)
  some { logFile, editor }

/-- Whether the width of the indentation is in range. -/
def isValid (s : Settings) : Bool :=
  decide (1 ≤ s.editor.indentWidth ∧ s.editor.indentWidth ≤ 16)

/-- The settings with the name of the log file expanded, or left as it is if that fails. -/
def expand (lookup? : Text → Option Text) (home : Option Text) (s : Settings) : Settings :=
  { s with logFile := s.logFile.map fun t => (Expansion.full? lookup? home t).getD t }

/-- Loads settings; there are none if there is no such file. -/
def load (fs : FileSystem) (lookup? : Text → Option Text) (home : Option Text) (name : Text) :
    Except SettingsError (Option Settings) :=
  if fs.contains name then
    match fs.read name with
    | .error e => .error (.unreadable name e)
    | .ok content =>
      match (TomlTable.ofText? content).bind ofTable? with
      | none => .error (.malformed name)
      | some s =>
        if s.isValid then .ok (some (s.expand lookup? home))
        else .error (.invalidIndentWidth s.editor.indentWidth)
  else .ok none

/-! ## Writing -/

/-- Settings as TOML. -/
def toToml (s : Settings) : Text :=
  let log := match s.logFile with
    | some t => TomlWriter.line "log_file" (TomlWriter.string t) ++ ['\n']
    | none => []
  log ++ TomlWriter.header "editor" ++
    TomlWriter.line "indent_width" (toString s.editor.indentWidth).toList ++
    TomlWriter.line "fallback_language" (TomlWriter.string s.editor.fallback.toList) ++
    TomlWriter.line "languages" (TomlWriter.strings (s.editor.languages.map String.toList))

/-- Saves settings. -/
def save (s : Settings) (fs : FileSystem) (name : Text) : Except FileError FileSystem :=
  fs.write name s.toToml

/-- The name of the file with the settings of a user. -/
def fileName (home : Option Text) : Text :=
  Expansion.tilde home "~/.config/blockmark".toList ++ "/config.toml".toList

end Settings

end BlockNotes
