import BlockNotes.Proofs.Document.Stored
import BlockNotes.Proofs.Editor.Fresh

/-!
# What an editor saves is what it loads

Whatever is done to an editor, its document has only run commands that bring in no
marks (`Editor.runsTo_run`).  So a document that can be stored as it is can still be
stored after it was edited, and the round trip of documents is one of editors
(`Document.load_save`).
-/

namespace BlockNotes

namespace Editor

variable {τ : Type} [Tokenizer τ]

/-- An operation runs commands that bring in no marks. -/
theorem runsTo_act {e : Editor τ} (he : progress.Good e) (a : EditorAction) :
    e.document.RunsTo (e.act a).document := by
  by_cases htick : a = .tick
  · subst htick
    exact (advance_tick he).1.run
  · by_cases hlanguages : ∃ languages, a = .setLanguages languages
    · obtain ⟨languages, rfl⟩ := hlanguages
      exact .refl _
    · exact (advance_act_of_ne htick (fun languages h => hlanguages ⟨languages, h⟩) he).run

/-- All along a run of an editor its document has run commands that bring in no marks. -/
theorem runsTo_run {start : Editor τ} (hstart : progress.Good start) (hfresh : ¬ start.IsStale)
    (as : List EditorAction) : start.document.RunsTo (start.run as).document := by
  induction as using List.reverseRecOn with
  | nil => exact .refl _
  | append_singleton as a ih =>
    have hact : start.run (as ++ [a]) = (start.run as).act a := run_append start as [a]
    rw [hact]
    exact ih.trans (runsTo_act (good_run hstart hfresh as).1 a)

end Editor

namespace Document

variable {d : Document}

/-- A document without more links on a leaf than can be stored has a round trip: it is read back
from what is written for it, with the same tree but for identities, and what is then written is the
same text.  Every document that is loaded is such a one, and no editor makes it another. -/
theorem load_save (hd : d.Reachable) (hlinks : d.AtMostOneLink)
    (hdepth : d.stored.depth ≤ JsonValue.maxOpen) :
    (∃ d', ofJson? d.toJson = some d' ∧ Node.bareAll d'.children = Node.bareAll d.children ∧
      d'.toJson = d.toJson) ∧
    (∀ t d', ofJson? t = some d' → d'.AtMostOneLink) ∧ (∀ t, (ofContent t).AtMostOneLink) ∧
    ∀ {τ : Type} [Tokenizer τ] (tokenizer : τ) (options : EditorOptions) (as : List EditorAction),
      ((Editor.ofDocument d tokenizer options).run as).document.AtMostOneLink := by
  refine ⟨?_, ?_, ?_, ?_⟩
  · have hkinds := ((Node.allMadeOf_iff _).mp hd.madeOf).1
    exact hd.settled.exists_ofJson?_toJson ((Node.allMadeOf_iff _).mpr ⟨hkinds, hlinks⟩) hdepth
  · intro t d' h
    obtain ⟨bs, rfl, hbs⟩ := exists_of_ofJson? h
    exact (madeOf_ofBlocks trivial (Nat.zero_le 1) hbs).atMostOneLink
  · intro t
    obtain ⟨bs, heq, hbs⟩ := exists_of_ofContent t
    rw [heq]
    exact (madeOf_ofBlocks trivial (Nat.zero_le 1) hbs).atMostOneLink
  · intro τ _ tokenizer options as
    obtain ⟨hstart, hfresh⟩ := Editor.good_ofDocument hd.wellNumbered tokenizer options
    exact (Editor.runsTo_run hstart hfresh as).atMostOneLink hd.wellNumbered hlinks

/-- A list item with a link in it is split, and a line feed is typed. -/
theorem load_save_linked :
    let bs := [Block.ofKind .bulletList [.block (.ofKind .listItem
      [.leaf { text := ['a', '"'], marks := { links := NameSet.empty.insert "b.org" } },
        .leaf { text := ['c'], marks := { bold := true } }])], Block.ofText (.code "rust") ['\t']]
    let d := (ofBlocks bs).run [.splitBlock, .insertText ['\n']]
    ∃ d', ofJson? d.toJson = some d' ∧ Node.bareAll d'.children = Node.bareAll d.children ∧
      d'.toJson = d.toJson := by
  intro bs d
  have hd : d.Reachable := by
    refine .perform (.perform (.ofBlocks ?_) trivial) trivial
    have hleaves : ∀ ls : List Leaf, Node.AllMadeOf Kind.IsCanonical (fun _ => True) (ls.map .leaf) :=
      fun ls => Node.allMadeOf_map_leaf.mpr fun _ _ => trivial
    rw [List.forall_mem_cons, List.forall_mem_singleton]
    exact ⟨Block.madeOf_ofKind _ (Node.allMadeOf_singleton.mpr
      (Block.madeOf_ofKind _ (hleaves [_, _]))), Block.madeOf_ofKind _ (hleaves [_])⟩
  exact (load_save hd (by decide) (by decide)).1

end Document

end BlockNotes
