import BlockNotes.Proofs.Editor.Fresh

/-!
# Work that is put off settles

Which tasks are put off is a progress of its own: behind the tasks that wait there are
new ones of a sort (`Draft.putsOff`), and the sort depends on the handler.  Commands
put nothing off.

So a task that runs puts off nothing but that the spans are computed again
(`EditorM.keeps_runTask`), and that task puts off nothing and leaves the draft alone
(`EditorM.exists_forM_refresh`).  Hence two ticks empty the queue, whatever it holds, and
the second of them does not change the document (`Editor.ticks_settle`).
-/

namespace BlockNotes

/-! ## Putting tasks off -/

/-- Tasks of a sort are put behind others. -/
def Task.PutBehind (T : Task → Prop) (ts us : List Task) : Prop :=
  ∃ new, us = ts ++ new ∧ ∀ t ∈ new, T t

namespace Task.PutBehind

variable {T : Task → Prop} {ts us vs : List Task}

theorem refl (ts : List Task) : PutBehind T ts ts :=
  ⟨[], (List.append_nil ts).symm, List.forall_mem_nil _⟩

theorem trans (h : PutBehind T ts us) (h' : PutBehind T us vs) : PutBehind T ts vs := by
  obtain ⟨new, rfl, hnew⟩ := h
  obtain ⟨new', rfl, hnew'⟩ := h'
  exact ⟨new ++ new', List.append_assoc _ _ _, List.forall_mem_append.mpr ⟨hnew, hnew'⟩⟩

end Task.PutBehind

/-- What handlers do to the tasks of a draft: they put off tasks of a sort. -/
def Draft.putsOff (T : Task → Prop) : Progress Draft where
  Good s := s.document.WellNumbered
  Leads s t := Document.Numbered s.document t.document ∧ Task.PutBehind T s.tasks t.tasks
  refl _ := ⟨.refl _, .refl _⟩
  trans h h' := ⟨h.1.trans h'.1, h.2.trans h'.2⟩
  good hs h := hs.numbered h.1

/-- What operations do to the tasks of an editor. -/
def Editor.putsOff {τ : Type} (T : Task → Prop) : Progress (Editor τ) where
  Good e := e.document.WellNumbered
  Leads e e' := Document.Numbered e.document e'.document ∧
    Task.PutBehind T e.draft.tasks e'.draft.tasks
  refl _ := ⟨.refl _, .refl _⟩
  trans h h' := ⟨h.1.trans h'.1, h.2.trans h'.2⟩
  good he h := he.numbered h.1

namespace DraftM

variable {L : Prop} {T : Task → Prop}

/-- A command puts nothing off, however it ends. -/
theorem tasks_perform (c : Command) (s : Draft) :
    (∀ a t, perform c s = .ok a t → t.tasks = s.tasks) ∧
      ∀ halt t, perform c s = .error halt t → t.tasks = s.tasks := by
  rw [perform_eq]
  generalize s.document.apply c = x
  obtain ⟨result, d⟩ := x
  cases result with
  | ok p =>
    refine ⟨?_, nofun⟩
    rintro a t ⟨⟩
    rfl
  | error halt =>
    refine ⟨nofun, ?_⟩
    rintro halt' t ⟨⟩
    rfl

theorem allows_putsOff (T : Task → Prop) : Allows (Draft.putsOff T) T := by
  refine ⟨fun hs => hs, ?_, ?_⟩
  · intro L c hc s hs
    obtain ⟨hok, herr⟩ := keeps_perform (L := L) c hc s hs
    obtain ⟨htasks, htasks'⟩ := tasks_perform c s
    refine ⟨?_, ?_⟩
    · intro a t h
      exact ⟨(hok a t h).numbered, htasks a t h ▸ .refl _⟩
    · intro halt t h
      obtain ⟨hadvance, hlost⟩ := herr halt t h
      exact ⟨⟨hadvance.numbered, htasks' halt t h ▸ .refl _⟩, hlost⟩
  · intro L t ht
    refine .modify fun s _ => ⟨.refl _, [t], rfl, ?_⟩
    exact List.forall_mem_singleton.mpr ht

end DraftM

namespace EditorM

variable {τ : Type} {L : Prop} {α : Type} {T : Task → Prop}

/-- Steps that the coordinator does not learn of put off what they put off from the draft. -/
theorem putsOff_unobserved {m : DraftM α} (hm : Keeps (Draft.putsOff T) L m) :
    Keeps (Editor.putsOff (τ := τ) T) L (unobserved m) := by
  intro e he
  obtain ⟨hok, herr⟩ := hm e.draft he
  unfold unobserved
  cases hrun : m e.draft with
  | ok a s =>
    refine ⟨?_, nofun⟩
    rintro _ e' ⟨⟩
    exact hok a s hrun
  | error halt s =>
    refine ⟨nofun, ?_⟩
    rintro halt' e' ⟨⟩
    exact herr halt s hrun

variable [Tokenizer τ]

theorem putsOff_observed {m : DraftM α} (hm : Keeps (Draft.putsOff T) L m) :
    Keeps (Editor.putsOff (τ := τ) T) L (observed m) := by
  intro e he
  obtain ⟨hok, herr⟩ := hm e.draft he
  rw [observed_eq]
  cases hrun : m e.draft with
  | ok a s =>
    refine ⟨?_, nofun⟩
    rintro _ e' ⟨⟩
    exact hok a s hrun
  | error halt s =>
    refine ⟨nofun, ?_⟩
    rintro halt' e' ⟨⟩
    exact herr halt s hrun

theorem allows_putsOff (T : Task → Prop) :
    Allows (Editor.putsOff (τ := τ) T) (Draft.putsOff T) T :=
  ⟨DraftM.allows_putsOff T, fun he => he, putsOff_observed⟩

/-! ## Tasks -/

/-- A task that runs puts off nothing but computing the spans. -/
theorem keeps_runTask (t : Task) :
    Keeps (Editor.putsOff (τ := τ) (· = .refresh)) L (runTask t) := by
  cases t with
  | refresh => exact .modify fun e _ => (Editor.putsOff _).refl e
  | checkFence => exact keeps_tolerate (putsOff_observed ((DraftM.allows_putsOff _).checkFence rfl))
  | restore r =>
    exact keeps_tolerate (putsOff_unobserved ((DraftM.allows_putsOff _).perform _ (by trivial)))

theorem keeps_forM_runTask (ts : List Task) :
    Keeps (Editor.putsOff (τ := τ) (· = .refresh)) L (ts.forM runTask) := by
  induction ts with
  | nil => exact .pure _
  | cons t ts ih => exact (keeps_runTask t).bind fun _ => ih

/-- Computing the spans, any number of times, concerns the coordinator alone. -/
theorem exists_forM_refresh {ts : List Task} (hts : ∀ t ∈ ts, t = .refresh) (e : Editor τ) :
    ∃ c, ts.forM runTask e = .ok ⟨⟩ { e with coordinator := c } := by
  induction ts generalizing e with
  | nil => exact ⟨e.coordinator, rfl⟩
  | cons t ts ih =>
    obtain ⟨rfl, hrest⟩ := List.forall_mem_cons.mp hts
    exact ih hrest { e with coordinator := e.coordinator.refreshIfStale e.document }

end EditorM

/-! ## Ticks -/

namespace Editor

variable {τ : Type} [Tokenizer τ]

/-- The editor with other tasks that wait. -/
def waiting (e : Editor τ) (ts : List Task) : Editor τ :=
  { e with draft := { e.draft with tasks := ts } }

/-- From any editor whose identities are in order two ticks leave nothing to do. -/
theorem exists_ticks {e : Editor τ} (he : progress.Good e) : ∃ e₁ e₂,
    EditorM.tick e = .ok e.draft.tasks.length e₁ ∧
    e.draft.tasks.forM EditorM.runTask (e.waiting []) = .ok ⟨⟩ e₁ ∧
    (∀ t ∈ e₁.draft.tasks, t = .refresh) ∧
    EditorM.tick e₁ = .ok e₁.draft.tasks.length e₂ ∧ e₂.document = e₁.document ∧
    e₂.draft.tasks = [] ∧ EditorM.tick e₂ = .ok 0 e₂ := by
  obtain ⟨e₁, hforM, -, -⟩ := EditorM.exists_forM_runTask e.draft.tasks (e := e.waiting []) he
  obtain ⟨-, new, hnew, hrefresh⟩ := (EditorM.keeps_forM_runTask (L := True) e.draft.tasks
    (e.waiting []) he.1).1 _ _ hforM
  have htasks : e₁.draft.tasks = new := hnew
  rw [← htasks] at hrefresh
  obtain ⟨c, hforM'⟩ := EditorM.exists_forM_refresh hrefresh (e₁.waiting [])
  exact ⟨e₁, { e₁.waiting [] with coordinator := c }, EditorM.tick_of_forM hforM, hforM, hrefresh,
    EditorM.tick_of_forM hforM', rfl, rfl, rfl⟩

/-- Whatever was done to an editor over any document, and whatever tasks wait: a tick runs these, in
order, on an editor without tasks, and gives their number.  What waits afterwards is nothing but
computing the spans.  The next tick leaves the document alone, and all ticks after it have nothing
to do. -/
theorem ticks_settle (bs : List Block) (cs : List Command) (tokenizer : τ) (options : EditorOptions)
    (as : List EditorAction) (ts : List Task) :
    let e := ((ofDocument ((Document.ofBlocks bs).run cs) tokenizer options).run as).waiting ts
    ∃ e₁ e₂ : Editor τ, EditorM.tick e = .ok ts.length e₁ ∧
      ts.forM EditorM.runTask (e.waiting []) = .ok ⟨⟩ e₁ ∧
      (∀ t ∈ e₁.draft.tasks, t = .refresh) ∧
      EditorM.tick e₁ = .ok e₁.draft.tasks.length e₂ ∧ e₂.document = e₁.document ∧
      e₂.draft.tasks = [] ∧ EditorM.tick e₂ = .ok 0 e₂ ∧
      ∀ n, e₂.run (List.replicate n .tick) = e₂ := by
  intro e
  have hd := Document.wellNumbered_run (Document.wellNumbered_ofBlocks bs) cs
  obtain ⟨hstart, hfresh⟩ := good_ofDocument hd tokenizer options
  obtain ⟨e₁, e₂, htick, hforM, hrefresh, htick', hsame, hnone, hidle⟩ :=
    exists_ticks (e := e) (good_run hstart hfresh as).1
  refine ⟨e₁, e₂, htick, hforM, hrefresh, htick', hsame, hnone, hidle, ?_⟩
  have hact : e₂.act .tick = e₂ := by
    rw [act, EditorAction.steps, bind_of_ok hidle]
    rfl
  intro n
  induction n with
  | zero => rfl
  | succ n ih =>
    show (e₂.act .tick).run (List.replicate n .tick) = e₂
    rw [hact, ih]

/-- A block is split in front of a fence.  The first tick makes it a code block and puts off that
the spans are computed, which the second one does. -/
example : let e := (ofDocument (Document.ofBlocks [.ofText .paragraph "x```js".toList])
      Registry.empty {}).run [.select (.collapsed ⟨[0, 0], 1⟩), .insertBreak]
    e.draft.tasks = [.checkFence] ∧ (e.run [.tick]).draft.tasks = [.refresh] ∧
      (e.run [.tick, .tick]).draft.tasks = [] := by
  decide +kernel

end Editor

end BlockNotes
