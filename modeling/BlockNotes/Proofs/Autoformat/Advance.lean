import BlockNotes.Editor.Indent
import BlockNotes.Proofs.Document.Preserved

/-!
# Where inputs lead a draft

However an input to a draft ends, also if it stops after some of its commands,
the draft is only moved on (`Draft.Advance`): it has run commands that bring in no
marks, identities are given out in ascending order, the version does not go back
and is the same only if the tree is, and tasks are put behind those that wait.

This is a progress in the sense of `Keeps`.  It holds of a single command as a
case analysis of what commands come to (`DraftM.keeps_perform`), and every
handler is a sequence of commands, questions and tasks.  Questions do not change
anything, so the proofs follow the branches of the handlers and nothing else.
They are never lost.  The tabulator key, which cuts texts, is another matter.

Nothing of this is about where a command leads.  So the handlers keep any progress
that commands keep, and the tasks that a handler puts off (`DraftM.Allows`).
-/

namespace BlockNotes

/-- A draft was moved on. -/
structure Draft.Advance (s t : Draft) : Prop where
  /-- Identities are given out in ascending order. -/
  numbered : Document.Numbered s.document t.document
  /-- The version does not go back. -/
  version_le : s.document.version ≤ t.document.version
  /-- In the same version the tree is the same. -/
  same : t.document.version = s.document.version → t.document.children = s.document.children
  /-- Tasks are put behind those that wait. -/
  tasks : s.tasks <+: t.tasks
  /-- The document has run commands that bring in no marks. -/
  run : s.document.RunsTo t.document

theorem Draft.Advance.refl (s : Draft) : Draft.Advance s s :=
  ⟨.refl _, Nat.le_refl _, fun _ => rfl, List.prefix_rfl, Document.RunsTo.refl _⟩

theorem Draft.Advance.trans {s t u : Draft} (h : Draft.Advance s t) (h' : Draft.Advance t u) :
    Draft.Advance s u := by
  refine ⟨h.numbered.trans h'.numbered, Nat.le_trans h.version_le h'.version_le, ?_,
    h.tasks.trans h'.tasks, h.run.trans h'.run⟩
  intro hsame
  have hle := h.version_le
  have hle' := h'.version_le
  rw [h'.same (by omega), h.same (by omega)]

/-- What inputs do to a draft whose identities are in order. -/
def Draft.progress : Progress Draft where
  Good s := s.document.WellNumbered
  Leads := Draft.Advance
  refl := Draft.Advance.refl
  trans := Draft.Advance.trans
  good hs h := hs.numbered h.numbered

namespace DraftM

variable {L : Prop} {α β : Type}

/-! ## Steps -/

theorem perform_eq (c : Command) (s : Draft) :
    perform c s = match s.document.apply c with
      | (.ok _, d) => .ok ⟨⟩ { s with document := d }
      | (.error halt, d) => .error halt { s with document := d } := by
  rw [perform, get_bind]
  cases s.document.apply c with
  | mk result d => cases result <;> rfl

theorem perform_of_ok {s : Draft} {c : Command} {p : Patch} {d' : Document}
    (h : s.document.apply c = (.ok p, d')) : perform c s = .ok ⟨⟩ { s with document := d' } := by
  rw [perform_eq, h]

theorem perform_of_error {s : Draft} {c : Command} {halt : Halt} {d' : Document}
    (h : s.document.apply c = (.error halt, d')) :
    perform c s = .error halt { s with document := d' } := by
  rw [perform_eq, h]

/-- A question that has an answer. -/
theorem ofExcept_of_ok {s : Draft} {o : Except DocumentError α} {a : α} (h : o = .ok a) :
    ofExcept o s = .ok a s := by
  rw [h]
  rfl

/-- A command moves a draft on and is never lost. -/
theorem keeps_perform (c : Command) (hc : c.Plain) : Keeps Draft.progress L (perform c) := by
  intro s hs
  have hs : s.document.WellNumbered := hs
  have happlied := Document.applied_apply hs.nodup c
  have hnumbered := happlied.numbered
  have hrun : s.document.RunsTo (s.document.apply c).2 := .perform hc
  rw [perform_eq]
  generalize s.document.apply c = x at happlied hnumbered hrun ⊢
  refine ⟨?_, ?_⟩
  · intro _ t h
    cases happlied with
    | refused e => cases h
    | selected r =>
      cases h
      exact ⟨hnumbered, Nat.le_refl _, fun _ => rfl, List.prefix_rfl, hrun⟩
    | committed d' changed r edited named =>
      cases h
      exact ⟨hnumbered, Nat.le_succ _, fun hsame => absurd hsame (Nat.succ_ne_self _),
        List.prefix_rfl, hrun⟩
  · intro halt t h
    cases happlied with
    | refused e =>
      cases h
      exact ⟨.refl s, nofun⟩
    | selected r => cases h
    | committed d' changed r edited named => cases h

theorem keeps_later (t : Task) : Keeps Draft.progress L (later t) :=
  .modify fun _ _ => ⟨.refl _, Nat.le_refl _, fun _ => rfl, List.prefix_append _ _,
    Document.RunsTo.refl _⟩

/-- A progress of drafts with distinct identities that commands keep, and tasks of a sort. -/
structure Allows (P : Progress Draft) (T : Task → Prop) : Prop where
  /-- The identities are in order. -/
  numbered : ∀ {s}, P.Good s → s.document.WellNumbered
  /-- Commands that bring in no marks. -/
  perform : ∀ {L : Prop} (c : Command), c.Plain → Keeps P L (DraftM.perform c)
  /-- Tasks that are put off. -/
  later : ∀ {L : Prop} (t : Task), T t → Keeps P L (DraftM.later t)

/-- A draft is moved on by all commands and tasks. -/
theorem allows_progress : Allows Draft.progress fun _ => True :=
  ⟨fun hs => hs, keeps_perform, fun t _ => keeps_later t⟩

variable {P : Progress Draft} {T : Task → Prop}

theorem keeps_refuse (e : DocumentError) : Keeps P L (refuse e : DraftM α) :=
  .throw nofun

theorem keeps_ofExcept (o : Except DocumentError α) : Keeps P L (ofExcept o) := by
  cases o with
  | ok a => exact .pure a
  | error e => exact keeps_refuse e

theorem keeps_orRefuse (o : Option α) (e : DocumentError) : Keeps P L (orRefuse o e) := by
  cases o with
  | some a => exact .pure a
  | none => exact keeps_refuse e

namespace Allows

theorem leaveList (h : Allows P T) (path : Path) (id : BlockId) :
    Keeps P L (leaveList path id) := by
  unfold DraftM.leaveList
  refine .get ?_
  intro s
  dsimp only
  split
  next =>
    refine (h.perform _ (by trivial)).bind ?_
    intro _
    exact .get fun _ => keeps_orRefuse _ _
  next => exact .get fun _ => keeps_orRefuse _ _

/-! ## Inputs -/

theorem forwardInsert (h : Allows P T) (text : Text) : Keeps P L (forwardInsert text) :=
  (h.perform _ (by trivial)).bind fun _ => .pure _

theorem shortcut (h : Allows P T) (path : Path) (before : Range) (t : Trigger) :
    Keeps P L (shortcut path before t) := by
  unfold DraftM.shortcut
  refine (h.perform _ (by trivial)).bind ?_
  intro _
  refine (h.perform _ (by trivial)).bind ?_
  intro _
  split
  next => exact (h.perform _ (by trivial)).bind fun _ => .pure _
  next => exact .pure _

/-- Typing puts something off in a code block only. -/
theorem keepsFrom_insertText (h : Allows P T) {s : Draft} (hs : P.Good s)
    (hcode : ∀ path b, s.document.currentBlock? = some (path, b) → b.kind.isCode = true →
      T .refresh ∧ ∀ r, T (.restore r)) (text : Text) : KeepsFrom P L (insertText text) s := by
  unfold DraftM.insertText
  refine .ask rfl ?_
  dsimp only
  split
  next => exact h.forwardInsert text s hs
  next path block hblock =>
    split
    next hkind =>
      obtain ⟨hrefresh, hrestore⟩ := hcode path block hblock hkind
      refine ((h.perform _ (by trivial)).bind ?_) s hs
      intro _
      refine (h.later _ hrefresh).bind ?_
      intro _
      refine .get ?_
      intro t
      split
      next => exact (h.later _ (hrestore _)).bind fun _ => .pure _
      next => exact .pure _
    next =>
      split
      next => exact h.forwardInsert text s hs
      next =>
        split
        next => exact h.forwardInsert text s hs
        next =>
          refine ((keeps_ofExcept _).bind ?_) s hs
          intro start
          split
          next => exact h.forwardInsert text
          next => exact h.shortcut _ _ _

theorem insertText (h : Allows P T) (hrefresh : T .refresh) (hrestore : ∀ r, T (.restore r))
    (text : Text) : Keeps P L (insertText text) :=
  fun _ hs => h.keepsFrom_insertText hs (fun _ _ _ _ => ⟨hrefresh, hrestore⟩) text

theorem forwardDelete (h : Allows P T) (unit : DeleteUnit) : Keeps P L (forwardDelete unit) :=
  (h.perform _ (by trivial)).bind fun _ => .pure _

theorem deleteBackward (h : Allows P T) (unit : DeleteUnit) :
    Keeps P L (deleteBackward unit) := by
  have hrevert : ∀ (path : Path) (kind : Kind), Keeps P L (do
      DraftM.perform (.setKind path .paragraph)
      pure (Transition.reverted kind)) := fun _ _ => (h.perform _ (by trivial)).bind fun _ => .pure _
  unfold DraftM.deleteBackward
  refine .get ?_
  intro s
  dsimp only
  split
  next p path block _ _ =>
    refine (keeps_ofExcept _).bind ?_
    intro q
    split
    next => exact h.forwardDelete unit
    next =>
      split
      next => exact hrevert _ _
      next => exact h.forwardDelete unit
    next =>
      split
      next =>
        refine (h.leaveList _ _).bind ?_
        intro path
        exact (h.perform _ (by trivial)).bind fun _ => .pure _
      next => exact h.forwardDelete unit
    next =>
      split
      next => exact hrevert _ _
      next => exact h.forwardDelete unit
  next => exact h.forwardDelete unit

theorem checkFence (h : Allows P T) (hrefresh : T .refresh) : Keeps P L checkFence := by
  have hkind : ∀ (path : Path) (kind : Kind), Keeps P L (do
      DraftM.perform (.setKind path kind)
      DraftM.later .refresh
      pure true) := by
    intro path kind
    refine (h.perform _ (by trivial)).bind ?_
    intro _
    exact (h.later _ hrefresh).bind fun _ => .pure _
  unfold DraftM.checkFence
  refine .get ?_
  intro s
  dsimp only
  split
  next => exact .pure _
  next path block _ =>
    split
    next => exact .pure _
    next =>
      split
      next => exact .pure _
      next fence _ =>
        refine (keeps_ofExcept _).bind ?_
        intro first
        refine (keeps_ofExcept _).bind ?_
        intro last
        refine (h.perform _ (by trivial)).bind ?_
        intro _
        split
        next => exact hkind _ _
        next => exact (h.perform _ (by trivial)).bind fun _ => hkind _ _

end Allows

end DraftM

end BlockNotes
