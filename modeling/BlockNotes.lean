import BlockNotes.App.Basic
import BlockNotes.App.KeyInput
import BlockNotes.App.Keymap
import BlockNotes.Autoformat.Draft
import BlockNotes.Autoformat.Fence
import BlockNotes.Autoformat.FencePattern
import BlockNotes.Autoformat.Trigger
import BlockNotes.Document.Apply
import BlockNotes.Document.Basic
import BlockNotes.Document.Command
import BlockNotes.Document.Edit
import BlockNotes.Document.Kind
import BlockNotes.Document.Leaf
import BlockNotes.Document.Markdown
import BlockNotes.Document.Node
import BlockNotes.Document.Point
import BlockNotes.Document.Stored
import BlockNotes.Document.Tree
import BlockNotes.Editor.Basic
import BlockNotes.Editor.Indent
import BlockNotes.Editor.Key
import BlockNotes.Editor.Motion
import BlockNotes.Grammar.Languages
import BlockNotes.Grammar.Languages.Bash
import BlockNotes.Grammar.Languages.Css
import BlockNotes.Grammar.Languages.JavaScript
import BlockNotes.Grammar.Languages.Json
import BlockNotes.Grammar.Languages.Python
import BlockNotes.Grammar.Languages.Rust
import BlockNotes.Grammar.Languages.Sql
import BlockNotes.Grammar.Registry
import BlockNotes.Grammar.Rule
import BlockNotes.Grammar.Token
import BlockNotes.Grammar.Tokenize
import BlockNotes.Highlight.Coordinator
import BlockNotes.Highlight.Run
import BlockNotes.Highlight.Span
import BlockNotes.Highlight.Table
import BlockNotes.Json.Number
import BlockNotes.Json.Value
import BlockNotes.Main
import BlockNotes.Pattern.Expr
import BlockNotes.Pattern.Program
import BlockNotes.Pattern.Reader
import BlockNotes.Pattern.Search
import BlockNotes.Proofs.App.Saved
import BlockNotes.Proofs.Autoformat.Advance
import BlockNotes.Proofs.Autoformat.AllOrNothing
import BlockNotes.Proofs.Autoformat.Backspace
import BlockNotes.Proofs.Autoformat.Fenced
import BlockNotes.Proofs.Autoformat.Grammar
import BlockNotes.Proofs.Autoformat.Patterns
import BlockNotes.Proofs.Autoformat.Shortcut
import BlockNotes.Proofs.Autoformat.Tab
import BlockNotes.Proofs.Autoformat.Unformat
import BlockNotes.Proofs.Document.Address
import BlockNotes.Proofs.Document.Atomic
import BlockNotes.Proofs.Document.Bare
import BlockNotes.Proofs.Document.Characters
import BlockNotes.Proofs.Document.Checked
import BlockNotes.Proofs.Document.Clearing
import BlockNotes.Proofs.Document.Caret
import BlockNotes.Proofs.Document.Chunks
import BlockNotes.Proofs.Document.Cursor
import BlockNotes.Proofs.Document.Deletion
import BlockNotes.Proofs.Document.Descent
import BlockNotes.Proofs.Document.Directions
import BlockNotes.Proofs.Document.Excision
import BlockNotes.Proofs.Document.Exported
import BlockNotes.Proofs.Document.Filled
import BlockNotes.Proofs.Document.Holders
import BlockNotes.Proofs.Document.Identity
import BlockNotes.Proofs.Document.Invariant
import BlockNotes.Proofs.Document.LeafForm
import BlockNotes.Proofs.Document.Lifted
import BlockNotes.Proofs.Document.MadeOf
import BlockNotes.Proofs.Document.Movement
import BlockNotes.Proofs.Document.Normal
import BlockNotes.Proofs.Document.Place
import BlockNotes.Proofs.Document.Position
import BlockNotes.Proofs.Document.Preserved
import BlockNotes.Proofs.Document.Prose
import BlockNotes.Proofs.Document.Reading
import BlockNotes.Proofs.Document.Refilled
import BlockNotes.Proofs.Document.Rejoined
import BlockNotes.Proofs.Document.Replacement
import BlockNotes.Proofs.Document.Reported
import BlockNotes.Proofs.Document.Reversal
import BlockNotes.Proofs.Document.Seam
import BlockNotes.Proofs.Document.Selection
import BlockNotes.Proofs.Document.Settled
import BlockNotes.Proofs.Document.Shape
import BlockNotes.Proofs.Document.Slice
import BlockNotes.Proofs.Document.Stored
import BlockNotes.Proofs.Document.Structural
import BlockNotes.Proofs.Document.Surgery
import BlockNotes.Proofs.Document.Swapped
import BlockNotes.Proofs.Document.TextEdits
import BlockNotes.Proofs.Document.Weight
import BlockNotes.Proofs.Editor.AllOrNothing
import BlockNotes.Proofs.Editor.Columns
import BlockNotes.Proofs.Editor.Copied
import BlockNotes.Proofs.Editor.Fresh
import BlockNotes.Proofs.Editor.Lost
import BlockNotes.Proofs.Editor.Motion
import BlockNotes.Proofs.Editor.Places
import BlockNotes.Proofs.Editor.Reindent
import BlockNotes.Proofs.Editor.Restored
import BlockNotes.Proofs.Editor.Run
import BlockNotes.Proofs.Editor.Saved
import BlockNotes.Proofs.Editor.Settle
import BlockNotes.Proofs.Editor.Toggle
import BlockNotes.Proofs.Editor.Unindent
import BlockNotes.Proofs.Editor.Walk
import BlockNotes.Proofs.Grammar.Fallback
import BlockNotes.Proofs.Grammar.GreedyScan
import BlockNotes.Proofs.Grammar.TokenText
import BlockNotes.Proofs.Highlight.Entries
import BlockNotes.Proofs.Highlight.Outline
import BlockNotes.Proofs.Highlight.Runs
import BlockNotes.Proofs.Highlight.Stale
import BlockNotes.Proofs.Highlight.Sweep
import BlockNotes.Proofs.Json.RoundTrip
import BlockNotes.Proofs.Pattern.Following
import BlockNotes.Proofs.Pattern.Instructions
import BlockNotes.Proofs.Pattern.Leftmost
import BlockNotes.Proofs.Pattern.Preferred
import BlockNotes.Proofs.Screen.Caret
import BlockNotes.Proofs.Screen.Drawn
import BlockNotes.Proofs.Screen.Pieces
import BlockNotes.Proofs.Settings.Loaded
import BlockNotes.Proofs.Steps
import BlockNotes.Proofs.Storage.Files
import BlockNotes.Proofs.Storage.Names
import BlockNotes.Proofs.Text.Boundary
import BlockNotes.Proofs.Text.Lines
import BlockNotes.Proofs.Toml.Numbers
import BlockNotes.Proofs.Toml.Statements
import BlockNotes.Proofs.Toml.Strings
import BlockNotes.Proofs.Toml.Tokens
import BlockNotes.Screen.Cells
import BlockNotes.Screen.Lines
import BlockNotes.Screen.Style
import BlockNotes.Settings.Basic
import BlockNotes.Settings.Expansion
import BlockNotes.Storage.DocumentFile
import BlockNotes.Storage.FileName
import BlockNotes.Storage.FileSystem
import BlockNotes.Text.Basic
import BlockNotes.Text.NameSet
import BlockNotes.Toml.Reader
import BlockNotes.Toml.Token
import BlockNotes.Toml.Value
import BlockNotes.Toml.Word
import BlockNotes.Toml.Writer
import BlockNotes.Unicode.Blank
import BlockNotes.Unicode.Case
import BlockNotes.Unicode.Category
import BlockNotes.Unicode.CharSet
import BlockNotes.Unicode.Digit
import BlockNotes.Unicode.Letter
import BlockNotes.Unicode.Property
import BlockNotes.Unicode.Script
import BlockNotes.Unicode.Width
