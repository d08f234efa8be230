import BlockNotes.Proofs.Document.Shape
import BlockNotes.Proofs.Steps

/-!
# Edits that stop early or not at all

An edit is *checked* if it is refused before it has changed anything or else
gives an answer (`EditM.Checked`); it is never lost.  It is *certain* if it gives
an answer (`EditM.Certain`).  The rule for sequences has two forms, and together they are
why a failed command leaves the document alone.  Behind a step that has changed
nothing a checked edit may follow (`Checked.guard`), and behind any other step
the rest has to be certain (`Checked.bind`).

What an edit may do to a document is said by `Document.Edited`: identities only
go away, apart from those that are given out on the way; version and selection
stay; and a shaped tree stays shaped.  The last one may depend on a condition,
as an inserted block comes from outside.
-/

namespace BlockNotes

/-! ## What an edit may do -/

/-- The tree of a document was changed, under a condition on which its shape depends. -/
structure Document.Edited (G : Prop) (d d' : Document) : Prop extends Document.Numbered d d' where
  version : d'.version = d.version
  selection : d'.selection = d.selection
  shaped : G → d.Shaped → d'.Shaped

namespace Document.Edited

variable {G : Prop} {d d' d'' : Document}

theorem refl (d : Document) : Edited G d d :=
  ⟨.refl d, rfl, rfl, fun _ h => h⟩

theorem trans (h : Edited G d d') (h' : Edited G d' d'') : Edited G d d'' :=
  ⟨h.toNumbered.trans h'.toNumbered, h'.version.trans h.version, h'.selection.trans h.selection,
    fun hG hd => h'.shaped hG (h.shaped hG hd)⟩

/-- Putting other children into a place, and maybe giving out identities for them. -/
theorem put {p : Path} {cs new : List Node} {next : BlockId}
    (hcs : Node.childrenAt? d.children p = some cs) (hnext : d.nextId ≤ next)
    (hcount : ∀ i, (Node.idsOf new).count i ≤
      (Node.idsOf cs).count i + issued d.nextId next i)
    (hshape : G → d.Shaped → Node.Shaped (Node.setChildren d.children p new)) :
    Edited G d { d with children := Node.setChildren d.children p new, nextId := next } := by
  refine ⟨⟨hnext, ?_⟩, rfl, rfl, hshape⟩
  intro i
  have hi := Node.count_idsOf_setChildren hcs new i
  have hi' := hcount i
  dsimp only [ids] at hi hi' ⊢
  omega

theorem put_same {p : Path} {cs new : List Node}
    (hcs : Node.childrenAt? d.children p = some cs)
    (hcount : ∀ i, (Node.idsOf new).count i ≤ (Node.idsOf cs).count i)
    (hshape : G → d.Shaped → Node.Shaped (Node.setChildren d.children p new)) :
    Edited G d { d with children := Node.setChildren d.children p new } :=
  put hcs (Nat.le_refl _) (fun i => Nat.le_add_right_of_le (hcount i)) hshape

/-- Putting leaves in the place of leaves. -/
theorem put_leaves {p : Path} {b : Block} {new : List Node} (hb : d.blockAt? p = some b)
    (hnew : Node.AreLeaves new) :
    Edited G d { d with children := Node.setChildren d.children p new } := by
  refine put_same (Node.childrenAt?_of_blockAt? hb) ?_ fun _ hd => hd.putLeaves hb hnew
  intro i
  rw [Node.idsOf_eq_nil (Node.areLeaves_iff.mp hnew)]
  exact Nat.zero_le _

/-- Changing the leaves among the children of a block. -/
theorem put_blocks {p : Path} {b : Block} {new : List Node} (hb : d.blockAt? p = some b)
    (hnew : new.map Node.block? = b.children.map Node.block?) :
    Edited G d { d with children := Node.setChildren d.children p new } := by
  have hcs : Node.childrenAt? d.children p = some b.children := Node.childrenAt?_of_blockAt? hb
  refine put_same hcs ?_ ?_
  · intro i
    have hids : Node.idsOf new = Node.idsOf b.children := Node.idsOf_eq_of_map_block? hnew
    exact Nat.le_of_eq (congrArg (List.count i) hids)
  · intro _ hd
    refine hd.setChildren hcs (Node.everywhere_of_map_block? hnew (hd.sound_of_childrenAt? hcs)) ?_ ?_
    · have hleaf : new.map Node.isLeaf = b.children.map Node.isLeaf :=
        Node.map_isLeaf_eq_of_map_block? hnew
      exact (Node.homogeneous_iff_of_map_isLeaf hleaf).mpr (hd.homogeneous_of_childrenAt? hcs)
    · rintro rfl
      cases hb

end Document.Edited

/-! ## Checked and certain edits -/

namespace EditM

variable {α β : Type} {d : Document}

/-- The edit gives an answer. -/
def Certain (m : EditM α) (d : Document) (Q : α → Document → Prop) : Prop :=
  ∃ a d', m d = .ok a d' ∧ Q a d'

/-- The edit is refused and leaves the document as it was, or gives an answer. -/
def Checked (m : EditM α) (d : Document) (Q : α → Document → Prop) : Prop :=
  (∃ e, m d = .error (.refused e) d) ∨ Certain m d Q

variable {m : EditM α} {f : α → EditM β} {P : α → Document → Prop} {Q : β → Document → Prop}

theorem Certain.bind (hm : Certain m d P) (hf : ∀ a d', P a d' → Certain (f a) d' Q) :
    Certain (m >>= f) d Q := by
  obtain ⟨a, d', hok, hP⟩ := hm
  obtain ⟨b, d'', hok', hQ⟩ := hf a d' hP
  exact ⟨b, d'', (bind_of_ok hok).trans hok', hQ⟩

theorem Certain.step {a : α} {d' : Document} (hm : m d = .ok a d') (hf : Certain (f a) d' Q) :
    Certain (m >>= f) d Q := by
  obtain ⟨b, d'', hok, hQ⟩ := hf
  exact ⟨b, d'', (bind_of_ok hm).trans hok, hQ⟩

theorem Certain.checked {m : EditM α} (hm : Certain m d P) : Checked m d P :=
  .inr hm

theorem Certain.mono {P' : α → Document → Prop} (hm : Certain m d P)
    (h : ∀ a d', P a d' → P' a d') : Certain m d P' := by
  obtain ⟨a, d', hok, hP⟩ := hm
  exact ⟨a, d', hok, h a d' hP⟩

theorem Checked.mono {P' : α → Document → Prop} (hm : Checked m d P)
    (h : ∀ a d', P a d' → P' a d') : Checked m d P' :=
  hm.imp_right fun hm => hm.mono h

/-- Once something may have changed, the rest has to be certain. -/
theorem Checked.bind (hm : Checked m d P) (hf : ∀ a d', P a d' → Certain (f a) d' Q) :
    Checked (m >>= f) d Q := by
  rcases hm with ⟨e, herr⟩ | hm
  · exact .inl ⟨e, bind_of_error herr⟩
  · exact .inr (hm.bind hf)

/-- As long as nothing has changed, the rest may stop. -/
theorem Checked.guard {P : α → Prop} (hm : Checked m d fun a d' => d' = d ∧ P a)
    (hf : ∀ a, P a → Checked (f a) d Q) : Checked (m >>= f) d Q := by
  rcases hm with ⟨e, herr⟩ | ⟨a, d', hok, rfl, hP⟩
  · exact .inl ⟨e, bind_of_error herr⟩
  · rw [Checked, Certain, bind_of_ok hok]
    exact hf a hP

/-! ## Single steps -/

theorem Certain.pure {a : α} (h : P a d) : Certain (pure a) d P :=
  ⟨a, d, rfl, h⟩

theorem Checked.pure {a : α} (h : P a d) : Checked (pure a) d P :=
  .inr (.pure h)

theorem Checked.refuse (e : DocumentError) : Checked (refuse e) d P :=
  .inl ⟨_, rfl⟩

theorem Checked.bind_pure {a : α} (h : Checked (f a) d Q) : Checked (Pure.pure a >>= f) d Q :=
  h

theorem Certain.get {f : Document → EditM β} (h : Certain (f d) d Q) : Certain (get >>= f) d Q :=
  h

theorem Checked.get {f : Document → EditM β} (h : Checked (f d) d Q) : Checked (get >>= f) d Q :=
  h

theorem Certain.modify {g : Document → Document} {f : PUnit → EditM β}
    (h : Certain (f ⟨⟩) (g d) Q) : Certain (modify g >>= f) d Q :=
  h

theorem Certain.putChildren {p : Path} {ns : List Node} {f : PUnit → EditM β}
    (h : Certain (f ⟨⟩) { d with children := Node.setChildren d.children p ns } Q) :
    Certain (putChildren p ns >>= f) d Q :=
  h

theorem Certain.issueId {f : BlockId → EditM β}
    (h : Certain (f d.nextId) { d with nextId := d.nextId + 1 } Q) :
    Certain (issueId >>= f) d Q :=
  h

theorem Checked.orRefuse {o : Option α} {e : DocumentError}
    (h : ∀ a, o = some a → Checked (f a) d Q) : Checked (orRefuse o e >>= f) d Q := by
  cases o with
  | none => exact .inl ⟨_, rfl⟩
  | some a => exact h a rfl

theorem Checked.ofExcept {o : Except DocumentError α}
    (h : ∀ a, o = .ok a → Checked (f a) d Q) : Checked (ofExcept o >>= f) d Q := by
  cases o with
  | error e => exact .inl ⟨_, rfl⟩
  | ok a => exact h a rfl

theorem Certain.orRefuse {o : Option α} {e : DocumentError} {a : α} (ho : o = some a)
    (h : Certain (f a) d Q) : Certain (orRefuse o e >>= f) d Q := by
  cases ho
  exact h

theorem Certain.orLost {o : Option α} {a : α} (ho : o = some a) (h : Certain (f a) d Q) :
    Certain (orLost o >>= f) d Q := by
  cases ho
  exact h

theorem Certain.splitPath {p : Path} {i : Nat} {f : Path × Nat → EditM β}
    (h : Certain (f (p, i)) d Q) : Certain (splitPath (p ++ [i]) >>= f) d Q :=
  .orRefuse (Path.split?_concat p i) h

theorem Checked.splitPath {path : Path} {f : Path × Nat → EditM β}
    (h : ∀ p i, path = p ++ [i] → Checked (f (p, i)) d Q) :
    Checked (splitPath path >>= f) d Q := by
  refine .orRefuse ?_
  rintro ⟨p, i⟩ hsplit
  exact h p i (Path.eq_concat_of_split? hsplit)

/-! ## Answers -/

/-- Whatever answer the edit gives, something holds of it.  Nothing is said about an edit that stops. -/
def Answers (m : EditM α) (d : Document) (Q : α → Document → Prop) : Prop :=
  ∀ a d', m d = .ok a d' → Q a d'

theorem Certain.answers (h : Certain m d P) : Answers m d P := by
  intro a d' hok
  obtain ⟨b, d'', hok', hP⟩ := h
  cases hok.symm.trans hok'
  exact hP

theorem Checked.answers (h : Checked m d P) : Answers m d P := by
  rcases h with ⟨e, herr⟩ | h
  · intro a d' hok
    cases herr.symm.trans hok
  · exact h.answers

/-- What is known of every answer is known of a checked edit. -/
theorem Checked.of_answers {P' : α → Document → Prop} (h : Checked m d P) (hP : Answers m d P') :
    Checked m d P' := by
  rcases h with herr | ⟨a, d', hok, -⟩
  · exact .inl herr
  · exact .inr ⟨a, d', hok, hP a d' hok⟩

theorem Answers.mono {P' : α → Document → Prop} (hm : Answers m d P)
    (h : ∀ a d', P a d' → P' a d') : Answers m d P' :=
  fun a d' hok => h a d' (hm a d' hok)

theorem Answers.bind (hm : Answers m d P) (hf : ∀ a d', P a d' → Answers (f a) d' Q) :
    Answers (m >>= f) d Q := by
  intro b d'' h
  cases hrun : m d with
  | ok a d' =>
    rw [bind_of_ok hrun] at h
    exact hf a d' (hm a d' hrun) b d'' h
  | error e d' =>
    rw [bind_of_error hrun] at h
    cases h

/-- Nothing is asked of the first step. -/
theorem Answers.skip (hf : ∀ a d', Answers (f a) d' Q) : Answers (m >>= f) d Q :=
  Answers.bind (P := fun _ _ => True) (fun _ _ _ => trivial) fun a d' _ => hf a d'

theorem Answers.pure {a : α} (h : P a d) : Answers (Pure.pure a) d P := by
  intro b d' hok
  cases hok
  exact h

theorem Answers.throw {halt : Halt} : Answers (throw halt : EditM α) d P := by
  intro b d' hok
  cases hok

theorem Answers.get {f : Document → EditM β} (h : Answers (f d) d Q) : Answers (get >>= f) d Q :=
  h

theorem Answers.modify {g : Document → Document} {f : PUnit → EditM β}
    (h : Answers (f ⟨⟩) (g d) Q) : Answers (modify g >>= f) d Q :=
  h

theorem Answers.orRefuse {o : Option α} {e : DocumentError}
    (h : ∀ a, o = some a → Answers (f a) d Q) : Answers (EditM.orRefuse o e >>= f) d Q := by
  cases o with
  | none =>
    intro b d' hok
    cases hok
  | some a => exact h a rfl

theorem Answers.ofExcept {o : Except DocumentError α}
    (h : ∀ a, o = .ok a → Answers (f a) d Q) : Answers (EditM.ofExcept o >>= f) d Q := by
  cases o with
  | error e =>
    intro b d' hok
    cases hok
  | ok a => exact h a rfl

theorem Answers.orLost {o : Option α} (h : ∀ a, o = some a → Answers (f a) d Q) :
    Answers (EditM.orLost o >>= f) d Q := by
  cases o with
  | none =>
    intro b d' hok
    cases hok
  | some a => exact h a rfl

/-! ## What edits come to -/

/-- What an edit leaves behind: an edited document, and the same one if it names no block. -/
structure Outcome (G : Prop) (d : Document) (e : Effect) (d' : Document) : Prop where
  edited : Document.Edited G d d'
  /-- If no block changed, nothing did. -/
  idle : e.changed = [] → d' = d

theorem Outcome.of_ne {G : Prop} {d d' : Document} {e : Effect}
    (h : Document.Edited G d d') (hne : e.changed ≠ []) : Outcome G d e d' :=
  ⟨h, fun hnil => absurd hnil hne⟩

end EditM

end BlockNotes
