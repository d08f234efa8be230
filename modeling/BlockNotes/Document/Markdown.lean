import BlockNotes.Document.Basic

/-!
# Markdown

A document as markdown, one way only.  Each block ends in a blank line, the
items of a list stand close together, and a quotation has its mark at the start
of every line.  The text ends in exactly one line feed.
-/

namespace BlockNotes

namespace Markdown

/-- A text between two others. -/
def wrap (before after : String) (t : Text) : Text :=
  before.toList ++ t ++ after.toList

/-- A text set as a mark says. -/
def setMark (t : Text) : Mark → Text
  | .bold => wrap "**" "**" t
  | .italic => wrap "_" "_" t
  | .code => wrap "`" "`" t
  | .link url => wrap "[" ("](" ++ url ++ ")") t

/-- A leaf with its marks; an empty one vanishes. -/
def ofLeaf (l : Leaf) : Text :=
  if l.text.isEmpty then [] else l.marks.toList.foldl setMark l.text

/-- What a block holds, as the text of one line: leaves with their marks, blocks without. -/
def inline : List Node → Text
  | [] => []
  | .leaf l :: rest => ofLeaf l ++ inline rest
  | .block b :: rest => b.text ++ inline rest

/-- A text without the line feeds at its end. -/
def trimEnd (t : Text) : Text :=
  t.dropEndWhile (· = '\n')

/-- A text with the mark of a quotation at the start of every line. -/
def quoted (t : Text) : Text :=
  "> ".toList ++ (trimEnd t).flatMap fun c => if c = '\n' then "\n> ".toList else [c]

mutual

/-- A block as markdown. -/
def ofBlock : Block → Text
  | ⟨_, kind, children⟩ =>
    match kind with
    | .paragraph => inline children ++ "\n\n".toList
    | .heading level =>
      List.replicate level '#' ++ ' ' :: inline children ++ "\n\n".toList
    | .quote =>
      let body := if children.all Node.isLeaf then inline children else ofChildren children
      quoted body ++ "\n\n".toList
    | .code language =>
      "```".toList ++ (if language = Kind.textLanguage then [] else language.toList) ++
        '\n' :: Node.textOf children ++ "\n```\n\n".toList
    | .bulletList | .numberedList => ofChildren children ++ ['\n']
    | .listItem => "- ".toList ++ inline children ++ ['\n']
    | .image url => ("![](" ++ url ++ ")\n\n").toList

/-- The blocks among nodes as markdown. -/
def ofChildren : List Node → Text
  | [] => []
  | .leaf _ :: rest => ofChildren rest
  | .block b :: rest => ofBlock b ++ ofChildren rest

end

end Markdown

/-- A document as markdown. -/
def Document.toMarkdown (d : Document) : Text :=
  Markdown.trimEnd (Markdown.ofChildren d.children) ++ ['\n']

end BlockNotes
