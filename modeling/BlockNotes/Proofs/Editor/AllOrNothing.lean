import BlockNotes.Proofs.Autoformat.AllOrNothing
import BlockNotes.Proofs.Editor.Fresh

/-!
# Inputs to an editor happen or do not

An observed operation is all or nothing if its steps on the draft are: a draft that
is left alone has the version that it had, so the coordinator is told of a mere selection
and does nothing.  With that, what is known of a draft is known of the editor around it
(`Editor.inputs_all_or_nothing`).
-/

namespace BlockNotes

variable {τ : Type} [Tokenizer τ]

namespace EditorM

variable {α : Type} {e : Editor τ}

theorem allOrNothing_observed {m : DraftM α} (hm : AllOrNothing m e.draft) :
    AllOrNothing (observed m) e := by
  intro halt e' h
  rw [observed_eq] at h
  cases hrun : m e.draft with
  | ok a s =>
    rw [hrun] at h
    cases h
  | error halt' s =>
    rw [hrun] at h
    cases h
    have hversion : e.draft.document.version = e.document.version := rfl
    rw [hm _ s hrun, if_pos hversion]
    rfl

theorem allOrNothing_insertBreak (hd : e.document.Ready) : AllOrNothing insertBreak e := by
  refine allOrNothing_observed (.get ?_)
  split
  next => exact .throw
  next path b _ =>
    split
    next => exact DraftM.allOrNothing_perform hd.regular.nodup _
    next =>
      split
      next => exact (DraftM.allOrNothing_checkFence hd).bind fun _ _ _ => .pure _
      next => exact (DraftM.allOrNothing_perform hd.regular.nodup _).bind fun _ _ _ => ⟨_, _, rfl⟩

/-- The block is found again after it has left its list, and then it can be given any kind. -/
theorem allOrNothing_toggleBlock (hd : e.document.Ready) (kind : Kind) :
    AllOrNothing (toggleBlock kind) e := by
  refine allOrNothing_observed (.get (DraftM.allOrNothing_orRefuse ?_))
  rintro ⟨path, b⟩ hblock
  obtain ⟨r, n, -, hsite⟩ := hd.exists_site hblock
  refine DraftM.allOrNothing_leaveList hd hsite.blockAt? hsite.isTextBlock ?_
  intro path' c t ht hc
  split
  next =>
    obtain ⟨_, d', c', hkind, -⟩ := ht.exists_setKind hc .paragraph
    exact ⟨_, _, DraftM.perform_of_ok hkind⟩
  next =>
    split
    next =>
      obtain ⟨_, d₁, c', hkind, hrebuilt, -⟩ := ht.exists_setKind hc .listItem
      obtain ⟨_, d₂, hwrap⟩ := Document.exists_wrapBlock hrebuilt.swapped.blockAt?_single kind
      exact DraftM.completes_perform hkind ⟨_, _, DraftM.perform_of_ok hwrap⟩
    next =>
      obtain ⟨_, d', c', hkind, -⟩ := ht.exists_setKind hc kind
      exact ⟨_, _, DraftM.perform_of_ok hkind⟩

theorem allOrNothing_insertImage (hd : e.document.Ready) (url : String) :
    AllOrNothing (insertImage url) e := by
  refine allOrNothing_observed (.get (DraftM.allOrNothing_orRefuse ?_))
  rintro ⟨path, b⟩ _
  dsimp only
  split
  next => exact DraftM.allOrNothing_perform hd.regular.nodup _
  next => exact DraftM.allOrNothing_perform hd.regular.nodup _

/-- The tabulator key gets through to the editor in a code block only. -/
theorem allOrNothing_tab (hd : e.document.Ready) {modifiers : Modifiers} {m : EditorM τ Unit}
    (h : ofKey? e ⟨.tab, modifiers⟩ = some m) : AllOrNothing m e := by
  unfold ofKey? at h
  dsimp only at h
  split at h
  next => cases h
  next =>
    split at h
    next hcode =>
      cases h
      unfold Editor.inCode at hcode
      cases hblock : e.document.currentBlock? with
      | none =>
        rw [hblock] at hcode
        cases hcode
      | some x =>
        rw [hblock] at hcode
        exact allOrNothing_observed (DraftM.allOrNothing_tab hd hblock hcode)
    next => cases h

end EditorM

namespace Editor

open EditorM (insertBreak toggleBlock insertImage ofKey?)

/-- In a ready document every input that is dealt with by several commands happens as a whole or
leaves everything alone: the tree, the selection, the version, the next identity, the tasks that
wait and the published spans. -/
theorem inputs_all_or_nothing {e : Editor τ} (he : e.document.Ready) :
    (∀ text, AllOrNothing (DraftM.insertText text) e.draft) ∧
    (∀ unit, AllOrNothing (DraftM.deleteBackward unit) e.draft) ∧
    AllOrNothing DraftM.checkFence e.draft ∧
    AllOrNothing insertBreak e ∧
    (∀ kind, AllOrNothing (toggleBlock kind) e) ∧
    (∀ url, AllOrNothing (insertImage url) e) ∧
    ∀ modifiers m, ofKey? e ⟨.tab, modifiers⟩ = some m → AllOrNothing m e :=
  ⟨DraftM.allOrNothing_insertText he, DraftM.allOrNothing_deleteBackward he,
    DraftM.allOrNothing_checkFence he, EditorM.allOrNothing_insertBreak he,
    EditorM.allOrNothing_toggleBlock he, EditorM.allOrNothing_insertImage he,
    fun _ _ h => EditorM.allOrNothing_tab he h⟩

/-- Behind an image: text cannot be typed there and the line cannot be broken, and nothing is left
behind of the attempts. -/
theorem inputs_all_or_nothing_image :
    let d := (Document.ofBlocks [.ofText .paragraph ['x'], .ofText (.image "a.png") ['y']]).run
      [.select (.collapsed ⟨[1, 0], 1⟩)]
    let e := ofDocument d Registry.empty {}
    (∃ halt, DraftM.insertText ['z'] e.draft = .error halt e.draft) ∧
      ∃ halt, insertBreak e = .error halt e := by
  intro d e
  have hsound : ∀ b ∈ [Block.ofText .paragraph ['x'], .ofText (.image "a.png") ['y']],
      b.Everywhere Block.Sound := by
    rw [List.forall_mem_cons, List.forall_mem_singleton]
    exact ⟨Block.everywhere_sound_ofText _ _, Block.everywhere_sound_ofText _ _⟩
  have he : e.document.Ready := by
    refine ⟨Document.regular_run hsound (List.forall_mem_singleton.mpr trivial), by decide, ?_⟩
    rintro _ ⟨⟩
    exact ⟨Document.addresses_iff.mpr ⟨⟨2, 1⟩, by rfl⟩, Document.addresses_iff.mpr ⟨⟨2, 1⟩, by rfl⟩⟩
  obtain ⟨hinsert, -, -, hbreak, -⟩ := inputs_all_or_nothing he
  constructor
  · cases hrun : DraftM.insertText ['z'] e.draft with
    | ok a s => cases hrun
    | error halt s => exact ⟨halt, by rw [hinsert _ _ _ hrun]⟩
  · cases hrun : insertBreak e with
    | ok a s => cases hrun
    | error halt s => exact ⟨halt, by rw [hbreak _ _ hrun]⟩

end Editor

end BlockNotes
