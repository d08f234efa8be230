import BlockNotes.Proofs.Editor.AllOrNothing
import BlockNotes.Proofs.Editor.Settle

/-!
# What a tick puts back

Text that goes into a code block puts off that the selection behind it is put back.  When that
happens it is not asked where the cursor is by then.  So a tick may move a cursor that was moved
after the text was typed.

What can be said is where it moves to.  Each selection that waits was the selection right after
text was typed in code, since the last tick (`Editor.typedSince_of_waits`).  A tick in which no
check for a fence does anything leaves the tree and the version alone, and of the selections that
wait it is the last one with a place that counts (`Document.Restored`).

A check that does something makes a block code.  It may also stop on the way, but only where a
document is not ready (`Editor.StopsHalfway`).
-/

namespace BlockNotes

/-! ## What waits -/

/-- A task that puts a selection back. -/
def Task.IsRestore (t : Task) : Prop :=
  ∃ r, t = .restore r

/-- The text that an operation types. -/
def EditorAction.text? : EditorAction → Option Text
  | .insertText text => some text
  | .press ⟨.char c, _⟩ => some [c]
  | _ => none

/-- What an operation that starts in code or elsewhere leaves to be put back behind the tasks there
were: from code the selection that it leaves, and else nothing. -/
def Draft.LeavesBehind (code : Prop) (ts : List Task) (s : Draft) : Prop :=
  (∃ r, code ∧ s.tasks = ts ++ [.refresh, .restore r] ∧ s.document.selection = some r) ∨
    Task.PutBehind (¬ ·.IsRestore) ts s.tasks

/-- What waits to be put back has waited before, or it was left behind. -/
theorem Draft.LeavesBehind.waits {code : Prop} {ts front back : List Task} {s : Draft} {r : Range}
    (h : s.LeavesBehind code ts) (hs : s.tasks = front ++ .restore r :: back) :
    (∃ back', ts = front ++ .restore r :: back') ∨
      code ∧ s.tasks = front ++ [.restore r] ∧ s.document.selection = some r := by
  -- Where the tasks behind those there were begin, in front of the selection or behind it.
  have hsplit : ∀ new, ts ++ new = front ++ .restore r :: back →
      (∃ back', ts = front ++ .restore r :: back') ∨
        ∃ front', front = ts ++ front' ∧ new = front' ++ .restore r :: back := by
    intro new hnew
    rcases List.append_eq_append_iff.mp hnew with ⟨front', hfront, hnew⟩ | ⟨back', hts, hnew⟩
    · exact .inr ⟨front', hfront, hnew⟩
    · cases back' with
      | nil => exact .inr ⟨[], by rw [hts, List.append_nil, List.append_nil], hnew.symm⟩
      | cons t back' =>
        cases hnew
        exact .inl ⟨back', hts⟩
  rcases h with ⟨r', hcode, htasks, hr'⟩ | ⟨new, htasks, hnew⟩
  · rcases hsplit _ (htasks.symm.trans hs) with hearlier | ⟨front', rfl, hlast⟩
    · exact .inl hearlier
    · right
      cases front' with
      | nil => cases hlast
      | cons t front' =>
        obtain ⟨rfl, htail⟩ := List.cons.inj hlast
        obtain ⟨rfl, hr⟩ | ⟨-, hr⟩ := List.append_eq_singleton_iff.mp htail.symm
        · cases hr
          refine ⟨hcode, ?_, hr'⟩
          rw [htasks, List.append_assoc]
          rfl
        · cases hr
  · rcases hsplit _ (htasks.symm.trans hs) with hearlier | ⟨front', -, rfl⟩
    · exact .inl hearlier
    · exact absurd ⟨r, rfl⟩ (hnew (.restore r) (List.mem_append_right _ List.mem_cons_self))

theorem DraftM.leavesBehind_insertText {s : Draft} (hs : s.document.WellNumbered) (text : Text) :
    (endOf (insertText text) s).LeavesBehind
      (∃ path b, s.document.currentBlock? = some (path, b) ∧ b.kind.isCode = true) s.tasks := by
  by_cases hcode : ∃ path b, s.document.currentBlock? = some (path, b) ∧ b.kind.isCode = true
  · obtain ⟨path, b, hblock, hkind⟩ := hcode
    unfold endOf insertText
    rw [get_bind]
    dsimp only
    rw [hblock]
    dsimp only
    rw [if_pos hkind]
    cases happly : s.document.apply (.insertText text) with
    | mk result d =>
      cases result with
      | error halt =>
        rw [bind_of_error (perform_of_error happly)]
        exact .inr (.refl _)
      | ok p =>
        rw [bind_of_ok (perform_of_ok happly)]
        obtain ⟨children, selection, version, nextId⟩ := d
        cases selection with
        | none =>
          refine .inr ⟨[.refresh], rfl, ?_⟩
          exact List.forall_mem_singleton.mpr nofun
        | some r =>
          refine .inl ⟨r, ⟨path, b, rfl, hkind⟩, ?_, rfl⟩
          exact List.append_assoc s.tasks [.refresh] [.restore r]
  · right
    have hkeeps := (allows_putsOff (¬ ·.IsRestore)).keepsFrom_insertText (L := True) hs
      (fun path b hblock hkind => absurd ⟨path, b, hblock, hkind⟩ hcode) text
    exact hkeeps.leads_endOf.2

namespace EditorM

variable {τ : Type} {α : Type}

theorem endOf_tolerate (m : EditorM τ α) (e : Editor τ) : endOf (tolerate m) e = endOf m e := by
  unfold endOf tolerate
  cases m e with
  | ok a e' => rfl
  | error halt e' => cases halt <;> rfl

theorem draft_endOf_unobserved (m : DraftM α) (e : Editor τ) :
    (endOf (unobserved m) e).draft = endOf m e.draft := by
  unfold endOf unobserved
  cases m e.draft <;> rfl

variable [Tokenizer τ]

theorem draft_endOf_observed (m : DraftM α) (e : Editor τ) :
    (endOf (observed m) e).draft = endOf m e.draft := by
  unfold endOf
  rw [observed_eq]
  cases m e.draft <;> rfl

/-- A key does what it stands for. -/
theorem endOf_press {e : Editor τ} {k : KeyPress} {m : EditorM τ Unit} (h : ofKey? e k = some m) :
    endOf (press k) e = endOf m e := by
  have hpress : press k e = (tolerate m >>= fun _ => pure true) e := by
    rw [press, get_bind, h]
  have heq : endOf (press k) e = endOf (tolerate m >>= fun _ => pure true) e := by
    rw [endOf, hpress]
    rfl
  rw [heq, endOf_bind_pure, endOf_tolerate]

end EditorM

namespace Editor

variable {τ : Type}

theorem inCode_iff {e : Editor τ} : e.inCode = true ↔
    ∃ path b, e.document.currentBlock? = some (path, b) ∧ b.kind.isCode = true := by
  unfold inCode
  rw [Option.any_eq_true]
  constructor
  · rintro ⟨⟨path, b⟩, hblock, hkind⟩
    exact ⟨path, b, hblock, hkind⟩
  · rintro ⟨path, b, hblock, hkind⟩
    exact ⟨⟨path, b⟩, hblock, hkind⟩

variable [Tokenizer τ]

theorem act_eq_endOf (e : Editor τ) (a : EditorAction) : e.act a = endOf a.steps e := by
  unfold act endOf
  cases a.steps e <;> rfl

/-- What types text takes it in, or it is a key that the editor leaves alone. -/
theorem draft_act_of_text? {e : Editor τ} {a : EditorAction} {text : Text}
    (ha : a.text? = some text) :
    (e.act a).draft = endOf (DraftM.insertText text) e.draft ∨ (e.act a).draft = e.draft := by
  rw [act_eq_endOf]
  cases a with
  | insertText text' =>
    cases ha
    left
    rw [EditorAction.steps, endOf_bind_pure, EditorM.insertText, EditorM.draft_endOf_observed]
  | press k =>
    obtain ⟨key, modifiers⟩ := k
    cases key with
    | char c =>
      cases ha
      rw [EditorAction.steps, endOf_bind_pure]
      cases hkey : EditorM.ofKey? e ⟨.char c, modifiers⟩ with
      | none =>
        right
        rw [endOf, EditorM.press, get_bind, hkey]
        rfl
      | some m =>
        left
        have hm : discard (EditorM.insertText [c]) = m := by
          unfold EditorM.ofKey? at hkey
          dsimp only at hkey
          split at hkey
          next => cases hkey
          next => exact Option.some.inj hkey
        rw [EditorM.endOf_press hkey, ← hm, discard_eq, endOf_bind_pure, EditorM.insertText,
          EditorM.draft_endOf_observed]
    | _ => cases ha
  | _ => cases ha

/-- Only typing in code leaves a selection to be put back, and a tick leaves none. -/
theorem leavesBehind_act {e : Editor τ} (he : progress.Good e) {a : EditorAction} (ha : a ≠ .tick) :
    (e.act a).draft.LeavesBehind ((∃ text, a.text? = some text) ∧ e.inCode = true)
      e.draft.tasks := by
  cases htext : a.text? with
  | some text =>
    rcases draft_act_of_text? (e := e) htext with hdraft | hdraft
    · rw [hdraft]
      rcases DraftM.leavesBehind_insertText he.1 text with ⟨r, hcode, htasks, hselection⟩ | hbehind
      · exact .inl ⟨r, ⟨⟨text, rfl⟩, inCode_iff.mpr hcode⟩, htasks, hselection⟩
      · exact .inr hbehind
    · exact .inr (hdraft ▸ .refl _)
  | none =>
    right
    by_cases hlanguages : ∃ languages, a = .setLanguages languages
    · obtain ⟨languages, rfl⟩ := hlanguages
      exact ⟨[.refresh], rfl, List.forall_mem_singleton.mpr nofun⟩
    · have hkeeps : Keeps (putsOff (τ := τ) (¬ ·.IsRestore)) True a.steps := by
        refine (EditorM.allows_putsOff _).steps nofun nofun ha
          (fun languages h => hlanguages ⟨languages, h⟩) ?_ ?_ (fun _ _ _ => trivial)
        · rintro ⟨_, modifiers⟩ c rfl rfl
          cases htext
        · rintro text rfl
          cases htext
      rw [act_eq_endOf]
      exact (KeepsFrom.of_keeps hkeeps he.1).leads_endOf.2

/-- A selection was that right after text was typed in code, no tick came since, and what waited at
the time in front of it is known. -/
def TypedSince (start : Editor τ) (as : List EditorAction) (ts : List Task) (r : Range) : Prop :=
  ∃ before a after, as = before ++ a :: after ∧ .tick ∉ after ∧ (∃ text, a.text? = some text) ∧
    (start.run before).inCode = true ∧
    (start.run (before ++ [a])).draft.tasks = ts ++ [.restore r] ∧
    (start.run (before ++ [a])).document.selection = some r

theorem TypedSince.concat {start : Editor τ} {as : List EditorAction} {ts : List Task} {r : Range}
    (h : TypedSince start as ts r) {a : EditorAction} (ha : a ≠ .tick) :
    TypedSince start (as ++ [a]) ts r := by
  obtain ⟨before, a', after, rfl, hafter, hrest⟩ := h
  refine ⟨before, a', after ++ [a], List.append_assoc _ _ _, ?_, hrest⟩
  rw [List.mem_append, List.mem_singleton]
  exact fun hmem => hmem.elim hafter fun h => ha h.symm

/-- Each selection that waits to be put back was the selection right after text was typed in code,
and no tick came since. -/
theorem typedSince_of_waits {start : Editor τ} (hstart : progress.Good start)
    (hfresh : ¬ start.IsStale) (hnone : start.draft.tasks = []) {as : List EditorAction}
    {ts us : List Task} {r : Range} (h : (start.run as).draft.tasks = ts ++ .restore r :: us) :
    TypedSince start as ts r := by
  induction as using List.reverseRecOn generalizing us with
  | nil =>
    have hnil : ts ++ .restore r :: us = [] := h.symm.trans hnone
    exact absurd (List.append_eq_nil_iff.mp hnil).2 (List.cons_ne_nil _ _)
  | append_singleton as a ih =>
    have hgood := (good_run hstart hfresh as).1
    have hact : start.run (as ++ [a]) = (start.run as).act a := run_append start as [a]
    rw [hact] at h
    by_cases htick : a = .tick
    · subst htick
      obtain ⟨e₁, -, hok, -, hrefresh, -⟩ := exists_ticks hgood
      have htasks : ((start.run as).act .tick).draft.tasks = e₁.draft.tasks := by
        rw [act, EditorAction.steps, bind_of_ok hok]
        rfl
      have hmem : Task.restore r ∈ e₁.draft.tasks :=
        (htasks.symm.trans h) ▸ List.mem_append_right _ List.mem_cons_self
      cases hrefresh _ hmem
    · rcases (leavesBehind_act hgood htick).waits h with
        ⟨us', hearlier⟩ | ⟨⟨htext, hcode⟩, htasks, hr⟩
      · exact (ih hearlier).concat htick
      · refine ⟨as, a, [], rfl, List.not_mem_nil, htext, hcode, ?_, ?_⟩
        · exact (congrArg (·.draft.tasks) hact).trans htasks
        · exact (congrArg (·.document.selection) hact).trans hr

end Editor

/-! ## What counts -/

namespace Document

/-- A document with a selection that was put back, if the tasks ask for one that has a place.  The
last such task counts. -/
def Restored (ts : List Task) (d d' : Document) : Prop :=
  (∀ r, .restore r ∈ ts → ¬ d.AddressesBoth r) ∧ d' = d ∨
    ∃ before r after, ts = before ++ .restore r :: after ∧ d.AddressesBoth r ∧
      (∀ r', .restore r' ∈ after → ¬ d.AddressesBoth r') ∧ d' = { d with selection := some r }

variable {ts : List Task} {t : Task} {d d' : Document} {r : Range}

theorem Restored.nil (d : Document) : Restored [] d d :=
  .inl ⟨fun _ h => absurd h List.not_mem_nil, rfl⟩

/-- A first task that does nothing does not count. -/
theorem Restored.skip (ht : ∀ r, t = .restore r → ¬ d.AddressesBoth r) (h : Restored ts d d') :
    Restored (t :: ts) d d' := by
  rcases h with ⟨hnone, rfl⟩ | ⟨before, r, after, rfl, hr, hlast, rfl⟩
  · refine .inl ⟨?_, rfl⟩
    intro r hmem
    rcases List.mem_cons.mp hmem with h | h
    · exact ht r h.symm
    · exact hnone r h
  · exact .inr ⟨t :: before, r, after, rfl, hr, hlast, rfl⟩

/-- A first selection that is put back counts if no other one does. -/
theorem Restored.select (h : Restored ts { d with selection := some r } d')
    (hr : d.AddressesBoth r) : Restored (.restore r :: ts) d d' := by
  rcases h with ⟨hnone, rfl⟩ | ⟨before, r', after, rfl, hr', hlast, rfl⟩
  · exact .inr ⟨[], r, ts, rfl, hr, hnone, rfl⟩
  · exact .inr ⟨.restore r :: before, r', after, rfl, hr', hlast, rfl⟩

/-- A range without a place is not selected. -/
theorem exists_apply_select_of_not (h : ¬ d.AddressesBoth r) :
    ∃ e, d.apply (.select r) = (.error (.refused e), d) := by
  unfold apply EditM.apply EditM.select
  dsimp only
  rw [get_bind]
  cases hanchor : d.blockPoint r.anchor with
  | error e => exact ⟨e, rfl⟩
  | ok p =>
    cases hfocus : d.blockPoint r.focus with
    | error e => exact ⟨e, rfl⟩
    | ok q => exact absurd ⟨addresses_iff.mpr ⟨p, hanchor⟩, addresses_iff.mpr ⟨q, hfocus⟩⟩ h

end Document

/-- A check that answers no has done nothing. -/
theorem DraftM.eq_of_checkFence_eq_false {s t : Draft} (h : checkFence s = .ok false t) :
    t = s := by
  have hyes : ∀ (path : Path) (kind : Kind) (u : Draft), (do
      perform (.setKind path kind)
      later .refresh
      pure true) u ≠ .ok false t := by
    intro path kind u h
    obtain ⟨-, u', -, h⟩ := exists_of_bind_ok h
    obtain ⟨-, u'', -, h⟩ := exists_of_bind_ok h
    cases h
  unfold checkFence at h
  rw [get_bind] at h
  dsimp only at h
  cases hblock : s.document.currentBlock? with
  | none =>
    rw [hblock] at h
    cases h
    rfl
  | some x =>
    obtain ⟨path, block⟩ := x
    rw [hblock] at h
    dsimp only at h
    by_cases hkind : (block.kind.isCode || block.kind.isVoid) = true
    · rw [if_pos hkind] at h
      cases h
      rfl
    · rw [if_neg hkind] at h
      cases hfence : Fence.ofText? block.text with
      | none =>
        rw [hfence] at h
        cases h
        rfl
      | some fence =>
        rw [hfence] at h
        obtain ⟨first, s₁, -, h⟩ := exists_of_bind_ok h
        obtain ⟨last, s₂, -, h⟩ := exists_of_bind_ok h
        obtain ⟨-, s₃, -, h⟩ := exists_of_bind_ok h
        cases fence with
        | opened language => exact absurd h (hyes _ _ _)
        | complete language body =>
          obtain ⟨-, s₄, -, h⟩ := exists_of_bind_ok h
          exact absurd h (hyes _ _ _)

namespace EditorM

variable {τ : Type} [Tokenizer τ]

/-- A selection with a place is put back. -/
theorem document_restore {e : Editor τ} {r : Range} (hr : e.document.AddressesBoth r) :
    (endOf (runTask (.restore r)) e).document = { e.document with selection := some r } := by
  obtain ⟨p, hp⟩ := Document.addresses_iff.mp hr.1
  obtain ⟨q, hq⟩ := Document.addresses_iff.mp hr.2
  have happly : e.draft.document.apply (.select r) = _ := Document.apply_select hp hq
  rw [runTask, endOf_tolerate, Editor.document, draft_endOf_unobserved, endOf, DraftM.perform_eq,
    happly]
  rfl

/-- A selection without a place is not. -/
theorem document_restore_of_not {e : Editor τ} {r : Range} (hr : ¬ e.document.AddressesBoth r) :
    (endOf (runTask (.restore r)) e).document = e.document := by
  obtain ⟨_, happly⟩ := Document.exists_apply_select_of_not hr
  have happly : e.draft.document.apply (.select r) = _ := happly
  rw [runTask, endOf_tolerate, Editor.document, draft_endOf_unobserved, endOf, DraftM.perform_eq,
    happly]

/-- Tasks among which the checks do nothing. -/
theorem restored_forM {ts : List Task} {e e' : Editor τ}
    (hquiet : ∀ before after e₁, ts = before ++ .checkFence :: after →
      before.forM runTask e = .ok ⟨⟩ e₁ → endOf DraftM.checkFence e₁.draft = e₁.draft)
    (h : ts.forM runTask e = .ok ⟨⟩ e') : Document.Restored ts e.document e'.document := by
  induction ts generalizing e with
  | nil =>
    cases h
    exact .nil _
  | cons t ts ih =>
    obtain ⟨_, e₁, hrun, h⟩ := exists_of_bind_ok h
    have hend : endOf (runTask t) e = e₁ := by rw [endOf, hrun]
    have hrest : Document.Restored ts e₁.document e'.document := by
      refine ih ?_ h
      intro before after e₂ hsplit hrun'
      exact hquiet (t :: before) after e₂ (congrArg (t :: ·) hsplit) ((bind_of_ok hrun).trans hrun')
    cases t with
    | refresh =>
      cases hrun
      exact hrest.skip nofun
    | checkFence =>
      have hdraft : e₁.draft = e.draft := by
        rw [← hend, runTask, endOf_tolerate, draft_endOf_observed]
        exact hquiet [] ts e rfl rfl
      have hdocument : e₁.document = e.document := congrArg Draft.document hdraft
      rw [hdocument] at hrest
      exact hrest.skip nofun
    | restore r =>
      rw [← hend] at hrest
      by_cases hr : e.document.AddressesBoth r
      · rw [document_restore hr] at hrest
        exact hrest.select hr
      · rw [document_restore_of_not hr] at hrest
        refine hrest.skip ?_
        rintro _ ⟨⟩
        exact hr

end EditorM

namespace Editor

variable {τ : Type} [Tokenizer τ]

/-- In the next tick a check for a fence has its turn on a draft. -/
def Checks (e : Editor τ) (s : Draft) : Prop :=
  ∃ before after e₁, e.draft.tasks = before ++ .checkFence :: after ∧
    before.forM EditorM.runTask (e.waiting []) = .ok ⟨⟩ e₁ ∧ s = e₁.draft

/-- In the next tick a check makes a block code. -/
def Converts (e : Editor τ) : Prop :=
  ∃ s t, e.Checks s ∧ DraftM.checkFence s = .ok true t

/-- In the next tick a check has done something when it fails, in a document that is not ready. -/
def StopsHalfway (e : Editor τ) : Prop :=
  ∃ s halt t, e.Checks s ∧ DraftM.checkFence s = .error halt t ∧ t ≠ s ∧ ¬ s.document.Ready

/-- If no check makes a block code and none stops halfway, the checks do nothing. -/
theorem endOf_checkFence {e : Editor τ} (hnone : ¬ e.Converts) (hhalfway : ¬ e.StopsHalfway)
    {s : Draft} (hs : e.Checks s) : endOf DraftM.checkFence s = s := by
  cases hcheck : DraftM.checkFence s with
  | ok answer t =>
    cases answer with
    | true => exact absurd ⟨s, t, hs, hcheck⟩ hnone
    | false => rw [endOf, hcheck, DraftM.eq_of_checkFence_eq_false hcheck]
  | error halt t =>
    rw [endOf, hcheck]
    by_contra hchanged
    refine hhalfway ⟨s, halt, t, hs, hcheck, hchanged, ?_⟩
    exact fun hready => hchanged (DraftM.allOrNothing_checkFence hready _ _ hcheck)

/-- Whatever was done to an editor over any document: a tick in which no check for a fence makes a
block code leaves the tree and the version alone, unless a check stops halfway in a document that is
not ready.  Of the selections that wait it puts back the last one that has a place, wherever the
cursor is by then.  Each of them was the selection right after text was typed in code, and no tick
came since. -/
theorem tick_restores (bs : List Block) (cs : List Command) (tokenizer : τ)
    (options : EditorOptions) (as : List EditorAction)
    (hnone : ¬ ((ofDocument ((Document.ofBlocks bs).run cs) tokenizer options).run as).Converts) :
    let start := ofDocument ((Document.ofBlocks bs).run cs) tokenizer options
    let e := start.run as
    (Document.Restored e.draft.tasks e.document (e.act .tick).document ∨ e.StopsHalfway) ∧
    ∀ ts r us, e.draft.tasks = ts ++ .restore r :: us → TypedSince start as ts r := by
  intro start e
  have hd := Document.wellNumbered_run (Document.wellNumbered_ofBlocks bs) cs
  obtain ⟨hstart, hfresh⟩ := good_ofDocument hd tokenizer options
  refine ⟨?_, fun ts r us h => typedSince_of_waits hstart hfresh rfl h⟩
  by_cases hhalfway : e.StopsHalfway
  · exact .inr hhalfway
  left
  obtain ⟨e₁, -, hok, hforM, -⟩ := exists_ticks (e := e) (good_run hstart hfresh as).1
  have htick : e.act .tick = e₁ := by
    rw [act, EditorAction.steps, bind_of_ok hok]
    rfl
  rw [htick]
  refine EditorM.restored_forM (e := e.waiting []) ?_ hforM
  intro before after e₂ hsplit hrun
  exact endOf_checkFence hnone hhalfway ⟨before, after, e₂, hsplit, hrun, rfl⟩

/-- A letter is typed in code and the cursor goes elsewhere. -/
theorem tick_restores_typed :
    let start := ofDocument
      ((Document.ofBlocks [⟨0, .code "text", [.leaf { text := ['a', 'b'] }]⟩]).run [])
      Registry.empty {}
    let as := [.insertText ['x'], .select (.collapsed ⟨[0, 0], 3⟩)]
    let e := start.run as
    ¬ e.Converts ∧
    (Document.Restored e.draft.tasks e.document (e.act .tick).document ∨ e.StopsHalfway) ∧
    ∀ ts r us, e.draft.tasks = ts ++ .restore r :: us → TypedSince start as ts r := by
  intro start as e
  have hnone : ¬ e.Converts := by
    rintro ⟨s, t, ⟨before, after, -, hsplit, -⟩, -⟩
    have htasks : e.draft.tasks = [.refresh, .restore (.collapsed ⟨[0, 0], 1⟩)] := by rfl
    have hmem : Task.checkFence ∈ e.draft.tasks :=
      hsplit ▸ List.mem_append_right _ List.mem_cons_self
    rw [htasks] at hmem
    exact absurd hmem (by decide)
  exact ⟨hnone, tick_restores _ [] _ _ as hnone⟩

/-- There the cursor goes back behind the letter. -/
theorem exists_tick_moves_cursor :
    let e := (ofDocument (Document.ofBlocks [⟨0, .code "text", [.leaf { text := ['a', 'b'] }]⟩])
      Registry.empty {}).run [.insertText ['x'], .select (.collapsed ⟨[0, 0], 3⟩)]
    .checkFence ∉ e.draft.tasks ∧ e.document.selection = some (.collapsed ⟨[0, 0], 3⟩) ∧
      (e.act .tick).document.selection = some (.collapsed ⟨[0, 0], 1⟩) := by
  decide +kernel

end Editor

end BlockNotes
