import BlockNotes.Document.Markdown
import BlockNotes.Proofs.Document.Prose
import BlockNotes.Proofs.Document.Selection

/-!
# What is exported

Markdown is written by recursion on the blocks, and the kind of a block decides
what of it is written: its leaves, the blocks in it, or all text below it.  Two
kinds take the blocks only, lists always and quotations where one of the children
is a block.  Leaves that stand there are lost (`Document.exists_run_not_exported`), and
these are the only ones: the rest of the prose appears, in order
(`Document.run_exports`).
-/

namespace BlockNotes

/-- Whether of the children of a block only the blocks are written. -/
def Block.writesBlocks (b : Block) : Bool :=
  b.kind.isList || decide (b.kind = .quote) && !b.isTextBlock

/-! ## The parts of a block -/

namespace Markdown

open Text (AppearsIn)

theorem sublist_wrap (before after : String) (t : Text) : t.Sublist (wrap before after t) :=
  (List.sublist_append_right _ t).trans (List.sublist_append_left _ _)

/-- Marks are put around a text. -/
theorem sublist_setMark (t : Text) (m : Mark) : t.Sublist (setMark t m) := by
  cases m <;> exact sublist_wrap _ _ t

theorem sublist_foldl_setMark (ms : List Mark) (t : Text) : t.Sublist (ms.foldl setMark t) := by
  induction ms generalizing t with
  | nil => exact List.Sublist.refl t
  | cons m ms ih => exact (sublist_setMark t m).trans (ih _)

theorem sublist_ofLeaf (l : Leaf) : l.text.Sublist (ofLeaf l) := by
  unfold ofLeaf
  split
  next h => rw [List.isEmpty_iff.mp h]
  next => exact sublist_foldl_setMark _ l.text

/-- On one line stands all text below a block. -/
theorem textOf_sublist_inline (ns : List Node) : (Node.textOf ns).Sublist (inline ns) := by
  induction ns with
  | nil => exact List.Sublist.refl []
  | cons n ns ih =>
    cases n with
    | leaf l => exact (sublist_ofLeaf l).append ih
    | block b => exact (List.Sublist.refl b.text).append ih

theorem appearsIn_inline (ns : List Node) : (Node.proseOf ns).AppearsIn (inline ns) :=
  .of_sublist ((Node.proseOf_sublist_textOf ns).trans (textOf_sublist_inline ns))

/-- Only line feeds are cut off at the end. -/
theorem filter_trimEnd (t : Text) : (trimEnd t).filter (· ≠ '\n') = t.filter (· ≠ '\n') := by
  have hdrop : ∀ t : Text, (t.dropWhile (· = '\n')).filter (· ≠ '\n') = t.filter (· ≠ '\n') := by
    intro t
    induction t with
    | nil => rfl
    | cons c t ih =>
      rw [List.dropWhile_cons]
      split
      next hc => rw [ih, List.filter_cons_of_neg (by simpa using hc)]
      next => rfl
  rw [trimEnd, Text.dropEndWhile, List.filter_reverse, hdrop, List.filter_reverse,
    List.reverse_reverse]

/-- In a quotation only line feeds become something else. -/
theorem filter_sublist_quoted (t : Text) : (t.filter (· ≠ '\n')).Sublist (quoted t) := by
  have hmarks : ∀ t : Text, (t.filter (· ≠ '\n')).Sublist
      (t.flatMap fun c => if c = '\n' then "\n> ".toList else [c]) := by
    intro t
    induction t with
    | nil => exact List.Sublist.refl []
    | cons c t ih =>
      rw [List.flatMap_cons]
      by_cases hc : c = '\n'
      · rw [List.filter_cons_of_neg (by simpa using hc)]
        exact ih.trans (List.sublist_append_right _ _)
      · rw [List.filter_cons_of_pos (by simpa using hc), if_neg hc]
        exact (List.Sublist.refl [c]).append ih
  rw [← filter_trimEnd]
  exact (hmarks _).trans (List.sublist_append_right _ _)

/-! ## Blocks -/

mutual

/-- The prose of a block appears, as far as it is written. -/
theorem appearsIn_ofBlock : (b : Block) →
    (b.proseBut Block.writesBlocks).AppearsIn (ofBlock b)
  | ⟨id, kind, children⟩ => by
    have hinline : (Node.proseOf children).AppearsIn (inline children) := appearsIn_inline children
    have hbelow := appearsIn_ofChildren children
    cases kind with
    | paragraph =>
      rw [Block.proseBut, ofBlock]
      exact hinline.trans_sublist (List.sublist_append_left _ _)
    | heading level =>
      rw [Block.proseBut, ofBlock]
      exact (hinline.trans_sublist (List.sublist_cons_self ' ' _)).between _ _
    | bulletList =>
      rw [Block.proseBut, ofBlock]
      exact hbelow.trans_sublist (List.sublist_append_left _ _)
    | numberedList =>
      rw [Block.proseBut, ofBlock]
      exact hbelow.trans_sublist (List.sublist_append_left _ _)
    | listItem =>
      rw [Block.proseBut, ofBlock]
      exact hinline.between _ _
    | quote =>
      have hbody : (Block.proseBut Block.writesBlocks ⟨id, .quote, children⟩).AppearsIn
          (if children.all Node.isLeaf then inline children else ofChildren children) := by
        rw [Block.proseBut, if_neg (by decide)]
        split
        next hwrites =>
          rw [if_neg (by simpa [Block.writesBlocks, Kind.isList, Block.isTextBlock] using hwrites)]
          exact hbelow
        next hwrites =>
          rw [if_pos (by simpa [Block.writesBlocks, Kind.isList, Block.isTextBlock] using hwrites)]
          exact hinline
      rw [ofBlock]
      exact (hbody.of_filter (filter_sublist_quoted _)).trans_sublist
        (List.sublist_append_left _ _)
    | code language =>
      rw [Block.proseBut, ofBlock]
      have htext : (Node.proseOf children).AppearsIn (Node.textOf children) :=
        .of_sublist (Node.proseOf_sublist_textOf children)
      exact (htext.trans_sublist (List.sublist_cons_self '\n' _)).between _ _
    | image url => exact .nil _

theorem appearsIn_ofChildren : (ns : List Node) →
    (Node.proseButOf Block.writesBlocks ns).AppearsIn (ofChildren ns)
  | [] => .nil []
  | .leaf _ :: rest => appearsIn_ofChildren rest
  | .block b :: rest => (appearsIn_ofBlock b).append (appearsIn_ofChildren rest)

end

end Markdown

/-! ## Documents -/

namespace Document

theorem proseBut_appearsIn_toMarkdown (d : Document) :
    (d.proseBut Block.writesBlocks).AppearsIn d.toMarkdown := by
  refine (Markdown.appearsIn_ofChildren d.children).of_filter ?_
  rw [← Markdown.filter_trimEnd]
  exact List.filter_sublist.trans (List.sublist_append_left _ ['\n'])

/-- The markdown of a document after any run of commands.  The prose appears in it, line feeds aside
and without the leaves that stand directly in a list, or beside blocks in a quotation.  Where there
are no such leaves, the whole prose appears. -/
theorem run_exports (bs : List Block) (cs : List Command) :
    let d := (ofBlocks bs).run cs
    (d.proseBut Block.writesBlocks).AppearsIn d.toMarkdown ∧
      (d.NoneSkipped Block.writesBlocks → d.prose.AppearsIn d.toMarkdown) := by
  intro d
  have hwritten := proseBut_appearsIn_toMarkdown d
  refine ⟨hwritten, fun hnone => ?_⟩
  have husable : d.Usable := (usable_ofBlocks bs).run (wellNumbered_ofBlocks bs) cs
  rwa [proseBut_eq_prose husable.settled.areBlocks hnone] at hwritten

/-- A list in a quotation. -/
theorem run_exports_list :
    let d := (ofBlocks [.ofKind .quote [.block (.ofKind .bulletList
      [.block (.ofText .listItem ['a']), .block (.ofText .listItem ['b'])])]]).run [.insertText ['c']]
    d.prose = ['c', 'a', 'b'] ∧ d.prose.AppearsIn d.toMarkdown := by
  intro d
  have hchildren : d.children = [.block ⟨1, .quote, [.block ⟨2, .bulletList, [
      .block ⟨3, .listItem, [.leaf (.ofText ['c', 'a'])]⟩,
      .block ⟨4, .listItem, [.leaf (.ofText ['b'])]⟩]⟩]⟩] := by rfl
  refine ⟨by rfl, (run_exports _ _).2 ?_⟩
  rw [NoneSkipped, hchildren]
  simp [Block.writesBlocks, Kind.isList, Block.isTextBlock, Node.isLeaf, Node.AreBlocks]

/-- A paragraph is made a list.  It is still there, and it is not written. -/
theorem exists_run_not_exported :
    let d := (ofBlocks [.ofText .paragraph ['a', 'b', 'c']]).run [.setKind [0] .bulletList]
    d.prose = ['a', 'b', 'c'] ∧ d.toMarkdown = ['\n'] ∧ ¬ d.prose.AppearsIn d.toMarkdown := by
  intro d
  have hprose : d.prose = ['a', 'b', 'c'] := by rfl
  have hmarkdown : d.toMarkdown = ['\n'] := by rfl
  refine ⟨hprose, hmarkdown, ?_⟩
  rw [hprose, hmarkdown]
  decide

end Document

end BlockNotes
