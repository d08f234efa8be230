import BlockNotes.Document.Basic
import BlockNotes.Json.Value

/-!
# Stored documents

A document is stored as a JSON array of nodes.  A block is an object with a
type, its children, and a language or an address where the type has one.  A leaf
is an object with its text and those of its marks that are set.  Identities are
not stored: loading gives fresh ones.

Reading is liberal.  Each value is tried as a block, and as a leaf if that
fails.  Fields of other names are passed over, but a known one may not come
twice.  An array counts as an object that gives its fields in order.  A leaf at
the root becomes a paragraph, and a type of another name stands for one.

`Reading.of` reads each value once, from the inside out, in all the ways in
which the value around it might look at it.
-/

namespace BlockNotes

/-! ## Kinds -/

namespace Kind

/-- The type that stands for a kind. -/
def storedType : Kind → String
  | paragraph => "paragraph"
  | heading 1 => "heading-one"
  | heading 2 => "heading-two"
  | heading _ => "heading-three"
  | bulletList => "bulleted-list"
  | numberedList => "numbered-list"
  | listItem => "list-item"
  | quote => "block-quote"
  | code _ => "code-block"
  | image _ => "image"

/-- The kind that a type stands for, with a language and an address. -/
def ofStored (type : Option String) (language url : Option String) : Kind :=
  match type with
  | some "heading-one" => headingOf 1
  | some "heading-two" => headingOf 2
  | some "heading-three" => headingOf 3
  | some "bulleted-list" => bulletList
  | some "numbered-list" => numberedList
  | some "list-item" => listItem
  | some "block-quote" => quote
  | some "code-block" => codeOf (language.getD "")
  | some "image" => image (url.getD "")
  | _ => paragraph

end Kind

/-! ## Writing -/

namespace Stored

/-- A field. -/
def field (name : String) (value : JsonValue) : JsonField :=
  ⟨name.toList, value⟩

/-- A field whose value is a string. -/
def textField (name : String) (value : String) : JsonField :=
  field name (.string value.toList)

/-- A field that is written only if it is set. -/
def flagField (name : String) (value : Bool) : List JsonField :=
  if value then [field name (.bool true)] else []

/-- A leaf as a value.  Of several links the last one is written. -/
def ofLeaf (l : Leaf) : JsonValue :=
  .object (field "text" (.string l.text) ::
    (flagField "bold" l.marks.bold ++ flagField "italic" l.marks.italic ++
      flagField "code" l.marks.code ++
      (l.marks.links.toList.getLast?.map (textField "link")).toList))

/-- The fields that only some kinds have. -/
def kindFields (k : Kind) : List JsonField :=
  match k with
  | .code language => [textField "language" language]
  | .image url => [textField "url" url]
  | _ => []

mutual

/-- A block as a value. -/
def ofBlock : Block → JsonValue
  | ⟨_, kind, children⟩ =>
    .object (textField "type" kind.storedType ::
      (kindFields kind ++ [field "children" (.array (ofNodes children))]))

/-- Nodes as values. -/
def ofNodes : List Node → List JsonValue
  | [] => []
  | .leaf l :: rest => ofLeaf l :: ofNodes rest
  | .block b :: rest => ofBlock b :: ofNodes rest

end

end Stored

/-! ## Reading -/

namespace Stored

/-- What a value is as a plain value. -/
inductive Shape where
  /-- `null` -/
  | null
  /-- A truth value. -/
  | bool (value : Bool)
  /-- A string. -/
  | string (value : Text)
  /-- Anything else. -/
  | other
deriving DecidableEq, Repr

/-- All that may be asked of a value. -/
structure Reading where
  /-- What it is as a plain value. -/
  shape : Shape
  /-- What it is as a node. -/
  node : Option Node
  /-- What it is as a list of nodes. -/
  nodes : Option (List Node)

namespace Reading

/-- A reading as a string that may be left out. -/
def text? (r : Reading) : Option (Option String) :=
  match r.shape with
  | .null => some none
  | .string t => some (some (String.ofList t))
  | _ => none

/-- A reading as a truth value. -/
def bool? (r : Reading) : Option Bool :=
  match r.shape with
  | .bool b => some b
  | _ => none

end Reading

/-- The readings of the fields of a name. -/
def named (name : String) (fields : List (Text × Reading)) : List Reading :=
  (fields.filter fun f => f.1 == name.toList).map Prod.snd

/-- The reading of a field that may be left out, or none if the field comes twice. -/
def atMostOne (name : String) (fields : List (Text × Reading)) : Option (Option Reading) :=
  match named name fields with
  | [] => some none
  | [r] => some (some r)
  | _ => none

/-- A string that may be left out. -/
def optionalText (r : Option Reading) : Option (Option String) :=
  match r with
  | none => some none
  | some r => r.text?

/-- A flag that is off if it is left out. -/
def optionalFlag (r : Option Reading) : Option Bool :=
  match r with
  | none => some false
  | some r => r.bool?

/-- A block of the readings of its fields. -/
def block? (type language url children : Option Reading) : Option Node := do
  let type ← optionalText type
  let language ← optionalText language
  let url ← optionalText url
  let children ← (← children).nodes
  some (.block (.ofKind (.ofStored type language url) children))

/-- A leaf of the readings of its fields. -/
def leaf? (text bold italic code link : Option Reading) : Option Node := do
  let text ← match (← text).shape with
    | .string t => some t
    | _ => none
  let bold ← optionalFlag bold
  let italic ← optionalFlag italic
  let code ← optionalFlag code
  let link ← optionalText link
  let links := match link with
    | some url => NameSet.empty.insert url
    | none => ∅
  some (.leaf { text, marks := { bold, italic, code, links } })

/-- The node of an object. -/
def ofFields? (fields : List (Text × Reading)) : Option Node :=
  let block := do
    let type ← atMostOne "type" fields
    let language ← atMostOne "language" fields
    let url ← atMostOne "url" fields
    let children ← atMostOne "children" fields
    block? type language url children
  let leaf := do
    let text ← atMostOne "text" fields
    let bold ← atMostOne "bold" fields
    let italic ← atMostOne "italic" fields
    let code ← atMostOne "code" fields
    let link ← atMostOne "link" fields
    leaf? text bold italic code link
  block.or leaf

/-- The node of an array that gives the fields in order. -/
def ofItems? (items : List Reading) : Option Node :=
  let block := match items with
    | [type, language, url, children] =>
      block? (some type) (some language) (some url) (some children)
    | _ => none
  let leaf :=
    if items.length ≤ 5 then leaf? items[0]? items[1]? items[2]? items[3]? items[4]? else none
  block.or leaf

mutual

/-- Reads a value. -/
def Reading.of : JsonValue → Reading
  | .null => ⟨.null, none, none⟩
  | .bool b => ⟨.bool b, none, none⟩
  | .number => ⟨.other, none, none⟩
  | .string t => ⟨.string t, none, none⟩
  | .array items =>
    let items := Reading.ofItems items
    ⟨.other, ofItems? items, items.mapM Reading.node⟩
  | .object fields => ⟨.other, ofFields? (Reading.ofFields fields), none⟩

/-- Reads the items of an array. -/
def Reading.ofItems : List JsonValue → List Reading
  | [] => []
  | v :: rest => Reading.of v :: Reading.ofItems rest

/-- Reads the fields of an object. -/
def Reading.ofFields : List JsonField → List (Text × Reading)
  | [] => []
  | ⟨name, v⟩ :: rest => (name, Reading.of v) :: Reading.ofFields rest

end

/-- A node at the root as a block: a leaf becomes a paragraph. -/
def rootBlock : Node → Block
  | .leaf l => .ofKind .paragraph [.leaf l]
  | .block b => b

end Stored

namespace Document

/-- A document as JSON text. -/
def toJson (d : Document) : Text :=
  (JsonValue.array (d.blocks.map Stored.ofBlock)).write

/-- The document that a JSON text stores. -/
def ofJson? (t : Text) : Option Document := do
  let v ← JsonValue.ofText? t
  let nodes ← (Stored.Reading.of v).nodes
  some (.ofBlocks (nodes.map Stored.rootBlock))

/-- The document of the content of a file: stored, or else one paragraph of text. -/
def ofContent (t : Text) : Document :=
  if t.isEmpty then .empty
  else (ofJson? t).getD (.ofBlocks [.ofText .paragraph t])

end Document

end BlockNotes
