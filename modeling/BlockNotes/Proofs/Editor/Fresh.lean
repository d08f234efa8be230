import BlockNotes.Proofs.Autoformat.Tab
import BlockNotes.Proofs.Editor.Motion
import BlockNotes.Proofs.Editor.Run

/-!
# The published spans are never silently out of date

What an editor publishes is *stale* if the document has code and the highlights
are not those of the document.  Operations do not make it so, with one exception:
other languages change what the highlights should be.  But then a task waits
that computes them again.

The argument is about three numbers.  Within one version of the document the tree
is the same, so what was computed from this version still counts
(`Coordinator.Tracks`).  An observed operation that leaves the version alone
leaves the tree alone, and one that does not has the highlights computed again if
there is code (`Editor.advance_finish`).  And the coordinator counts how often it
has computed, so that an operation after which something is stale cannot have
computed anything (`Editor.Advance.stale`).

A tick takes the tasks away before it runs them.  What it may find stale is put
right by the task that waited for it, and the tasks around it do not undo that
(`EditorM.exists_forM_runTask`).
-/

namespace BlockNotes

variable {τ : Type} [Tokenizer τ]

/-! ## What depends on the tree alone -/

theorem Document.walk_congr {d d' : Document} (h : d'.children = d.children) :
    d'.walk = d.walk := by
  unfold walk
  rw [h]

theorem Document.hasCode_congr {d d' : Document} (h : d'.children = d.children) :
    d'.hasCode = d.hasCode := by
  unfold hasCode
  rw [walk_congr h]

theorem Highlights.ofDocument_congr {d d' : Document} (h : d'.children = d.children)
    (tokenizer : τ) (fallback : String) :
    ofDocument tokenizer fallback d' = ofDocument tokenizer fallback d := by
  unfold ofDocument Document.matching
  rw [Document.walk_congr h]

/-! ## Versions -/

namespace Document

/-- A document has come from another one: its version is at least that of the other one, and in the
same version the tree is the same. -/
structure Since (d d' : Document) : Prop where
  version_le : d.version ≤ d'.version
  same : d'.version = d.version → d'.children = d.children

variable {d d' d'' : Document}

theorem Since.refl (d : Document) : Since d d :=
  ⟨Nat.le_refl _, fun _ => rfl⟩

theorem Since.trans (h : Since d d') (h' : Since d' d'') : Since d d'' := by
  refine ⟨Nat.le_trans h.version_le h'.version_le, ?_⟩
  intro hsame
  have hle := h.version_le
  have hle' := h'.version_le
  rw [h'.same (by omega), h.same (by omega)]

theorem Applied.since {c : Command} {x : Except Halt Patch × Document} (h : Applied d c x) :
    Since d x.2 := by
  cases h with
  | refused e => exact .refl d
  | selected s => exact ⟨Nat.le_refl _, fun _ => rfl⟩
  | committed d' changed s edited named =>
    exact ⟨Nat.le_succ _, fun hsame => absurd hsame (Nat.succ_ne_self _)⟩

/-- The tree does not change without the version growing, whatever commands are run. -/
theorem since_run (hd : d.WellNumbered) (cs : List Command) : Since d (d.run cs) := by
  induction cs generalizing d with
  | nil => exact .refl d
  | cons c cs ih =>
    have happlied := applied_apply hd.nodup c
    exact happlied.since.trans (ih (hd.numbered happlied.numbered))

end Document

/-! ## Coordinators -/

namespace Coordinator

/-- The highlights are those of a document. -/
def Current (c : Coordinator τ) (d : Document) : Prop :=
  c.highlights = .ofDocument c.tokenizer c.fallback d

/-- What was computed from a version is not from the future, and in the version that it was
computed from it is current. -/
structure Tracks (c : Coordinator τ) (d : Document) : Prop where
  /-- It is not from the future. -/
  le : ∀ v, c.builtFor = some v → v ≤ d.version
  /-- It is current in its version. -/
  current : c.builtFor = some d.version → d.hasCode = true → c.Current d

theorem current_refresh (c : Coordinator τ) {d : Document} (h : d.hasCode = true) :
    (c.refresh d).Current d := by
  rw [refresh, if_pos h]
  rfl

theorem refresh_of_not_hasCode (c : Coordinator τ) {d : Document} (h : d.hasCode = false) :
    c.refresh d = c := by
  rw [refresh, if_neg (by rw [h]; exact Bool.false_ne_true)]

/-- After computing again the coordinator tracks the document, also if there was no need to. -/
theorem tracks_refresh {c : Coordinator τ} {d : Document}
    (hle : ∀ v, c.builtFor = some v → v ≤ d.version) : (c.refresh d).Tracks d := by
  cases hcode : d.hasCode with
  | true =>
    refine ⟨?_, fun _ _ => current_refresh c hcode⟩
    intro v hv
    rw [refresh, if_pos hcode] at hv
    cases hv
    exact Nat.le_refl _
  | false =>
    rw [refresh_of_not_hasCode c hcode]
    exact ⟨hle, fun _ h => absurd (hcode.symm.trans h) Bool.false_ne_true⟩

end Coordinator

/-! ## Editors -/

namespace Editor

/-- There is code, and its published spans are not those of the document. -/
def IsStale (e : Editor τ) : Prop :=
  e.document.hasCode = true ∧ ¬ e.coordinator.Current e.document

/-- An editor was moved on. -/
structure Advance (e e' : Editor τ) : Prop where
  /-- Identities are given out in ascending order. -/
  numbered : Document.Numbered e.document e'.document
  /-- The coordinator still tracks the document. -/
  tracks : e.coordinator.Tracks e.document → e'.coordinator.Tracks e'.document
  /-- Tasks are put behind those that wait. -/
  tasks : e.draft.tasks <+: e'.draft.tasks
  /-- The document has run commands that bring in no marks. -/
  run : e.document.RunsTo e'.document
  /-- What is stale was stale before, and nothing was computed since. -/
  stale : e'.IsStale → e.IsStale ∧ e'.coordinator.recomputations = e.coordinator.recomputations

theorem Advance.refl (e : Editor τ) : Advance e e :=
  ⟨.refl _, fun h => h, List.prefix_rfl, Document.RunsTo.refl _, fun h => ⟨h, rfl⟩⟩

theorem Advance.trans {e e' e'' : Editor τ} (h : Advance e e') (h' : Advance e' e'') :
    Advance e e'' := by
  refine ⟨h.numbered.trans h'.numbered, fun ht => h'.tracks (h.tracks ht), h.tasks.trans h'.tasks,
    h.run.trans h'.run, ?_⟩
  intro hstale
  obtain ⟨hstale', hcount'⟩ := h'.stale hstale
  obtain ⟨hstale'', hcount⟩ := h.stale hstale'
  exact ⟨hstale'', hcount'.trans hcount⟩

/-- What operations do to an editor whose identities are in order and whose coordinator tracks
the document. -/
def progress : Progress (Editor τ) where
  Good e := e.document.WellNumbered ∧ e.coordinator.Tracks e.document
  Leads := Advance
  refl := Advance.refl
  trans := Advance.trans
  good he h := ⟨he.1.numbered h.numbered, h.tracks he.2⟩

/-- A draft that was moved on within one version. -/
theorem advance_of_version_eq {e : Editor τ} {s : Draft} (h : Draft.Advance e.draft s)
    (hversion : s.document.version = e.document.version) : Advance e { e with draft := s } := by
  have hchildren : s.document.children = e.document.children := h.same hversion
  have hcode : s.document.hasCode = e.document.hasCode := Document.hasCode_congr hchildren
  have hcurrent : e.coordinator.Current s.document ↔ e.coordinator.Current e.document := by
    unfold Coordinator.Current
    rw [Highlights.ofDocument_congr hchildren]
  refine ⟨h.numbered, ?_, h.tasks, h.run, ?_⟩
  · intro htracks
    refine ⟨?_, ?_⟩
    · intro v hv
      exact Nat.le_trans (htracks.le v hv) h.version_le
    · intro hbuilt hhas
      show e.coordinator.Current s.document
      rw [hcurrent]
      exact htracks.current (hbuilt.trans (congrArg some hversion)) (hcode.symm.trans hhas)
  · rintro ⟨hhas, hnot⟩
    exact ⟨⟨hcode.symm.trans hhas, fun hcur => hnot (hcurrent.mpr hcur)⟩, rfl⟩

/-- What an observed operation leaves behind: the draft that it came to, and a coordinator that
knows whether the version changed. -/
theorem advance_finish {e : Editor τ} {s : Draft} (h : Draft.Advance e.draft s)
    (htracks : e.coordinator.Tracks e.document) :
    Advance e { e with
      draft := s
      coordinator := e.coordinator.onChange s.document
        (if s.document.version = e.document.version then Origin.selection else .content) } := by
  by_cases hversion : s.document.version = e.document.version
  · rw [if_pos hversion]
    exact advance_of_version_eq h hversion
  · rw [if_neg hversion]
    have hle : ∀ v, e.coordinator.builtFor = some v → v ≤ s.document.version := fun v hv =>
      Nat.le_trans (htracks.le v hv) h.version_le
    refine ⟨h.numbered, fun _ => Coordinator.tracks_refresh hle, h.tasks, h.run, ?_⟩
    rintro ⟨hhas, hnot⟩
    exact absurd (Coordinator.current_refresh e.coordinator hhas) hnot

/-- Computing again unless it was computed from this version puts things right. -/
theorem advance_refreshIfStale {e : Editor τ} (htracks : e.coordinator.Tracks e.document) :
    Advance e { e with coordinator := e.coordinator.refreshIfStale e.document } ∧
      ¬ IsStale { e with coordinator := e.coordinator.refreshIfStale e.document } := by
  have hfresh : ¬ IsStale { e with coordinator := e.coordinator.refreshIfStale e.document } := by
    rintro ⟨hhas, hnot⟩
    refine hnot ?_
    show (e.coordinator.refreshIfStale e.document).Current e.document
    unfold Coordinator.refreshIfStale
    split
    next hbuilt => exact htracks.current hbuilt hhas
    next => exact Coordinator.current_refresh _ hhas
  refine ⟨⟨.refl _, ?_, List.prefix_rfl, Document.RunsTo.refl _,
    fun hstale => absurd hstale hfresh⟩, hfresh⟩
  intro _
  show (e.coordinator.refreshIfStale e.document).Tracks e.document
  unfold Coordinator.refreshIfStale
  split
  next => exact htracks
  next => exact Coordinator.tracks_refresh htracks.le

end Editor

/-! ## Operations -/

namespace EditorM

variable {L : Prop} {α β : Type}

theorem observed_eq (m : DraftM α) (e : Editor τ) :
    observed m e = match m e.draft with
      | .ok a s => .ok a { e with
          draft := s
          coordinator := e.coordinator.onChange s.document
            (if s.document.version = e.document.version then Origin.selection else .content) }
      | .error halt s => .error halt { e with
          draft := s
          coordinator := e.coordinator.onChange s.document
            (if s.document.version = e.document.version then Origin.selection else .content) } := by
  rw [observed, get_bind]
  cases m e.draft <;> rfl

theorem observed_of_ok {m : DraftM α} {e : Editor τ} {a : α} {s : Draft} (h : m e.draft = .ok a s) :
    ∃ e', observed m e = .ok a e' ∧ e'.draft = s := by
  rw [observed_eq, h]
  exact ⟨_, rfl, rfl⟩

/-- An observed operation leaves the unit of indentation as it is. -/
theorem indent_of_observed {m : DraftM α} {e e' : Editor τ} {a : α} (h : observed m e = .ok a e') :
    e'.indent = e.indent := by
  rw [observed_eq] at h
  cases hrun : m e.draft with
  | ok a' s =>
    rw [hrun] at h
    cases h
    rfl
  | error halt s =>
    rw [hrun] at h
    cases h

/-- An observed operation moves the editor on. -/
theorem keeps_observed {m : DraftM α} (hm : Keeps Draft.progress L m) :
    Keeps (Editor.progress (τ := τ)) L (observed m) := by
  rintro e ⟨hnumbered, htracks⟩
  obtain ⟨hok, herr⟩ := hm e.draft hnumbered
  rw [observed_eq]
  cases hrun : m e.draft with
  | ok a s =>
    refine ⟨?_, nofun⟩
    intro _ e' h
    cases h
    exact Editor.advance_finish (hok a s hrun) htracks
  | error halt s =>
    refine ⟨nofun, ?_⟩
    intro halt' e' h
    cases h
    obtain ⟨hadvance, hlost⟩ := herr halt s hrun
    exact ⟨Editor.advance_finish hadvance htracks, hlost⟩

/-- A progress of editors that a tolerated operation keeps if the operation does, and an observed one
if its steps keep a progress of drafts, which commands keep and tasks of a sort. -/
structure Allows (Q : Progress (Editor τ)) (P : Progress Draft) (T : Task → Prop) : Prop where
  /-- Commands and tasks. -/
  draft : DraftM.Allows P T
  /-- The identities are in order. -/
  numbered : ∀ {e}, Q.Good e → e.document.WellNumbered
  /-- Observed operations. -/
  observed : ∀ {L : Prop} {α : Type} {m : DraftM α}, Keeps P L m → Keeps Q L (observed m)

/-- An editor is moved on by all commands and tasks. -/
theorem allows_progress : Allows (Editor.progress (τ := τ)) Draft.progress fun _ => True :=
  ⟨DraftM.allows_progress, fun he => he.1, keeps_observed⟩

variable {Q : Progress (Editor τ)} {P : Progress Draft} {T : Task → Prop}

omit [Tokenizer τ] in
/-- What is tolerated comes to its end unless it is lost. -/
theorem exists_tolerate {m : EditorM τ α} (hm : Keeps Q False m) {e : Editor τ}
    (he : Q.Good e) : ∃ e', tolerate m e = .ok ⟨⟩ e' ∧ Q.Leads e e' := by
  obtain ⟨hok, herr⟩ := hm e he
  unfold tolerate
  cases hrun : m e with
  | ok a e' => exact ⟨e', rfl, hok a e' hrun⟩
  | error halt e' =>
    obtain ⟨hadvance, hlost⟩ := herr halt e' hrun
    cases halt with
    | refused error => exact ⟨e', rfl, hadvance⟩
    | lost => exact (hlost rfl).elim

omit [Tokenizer τ] in
theorem keeps_tolerate {m : EditorM τ α} (hm : Keeps Q L m) : Keeps Q L (tolerate m) := by
  intro e he
  obtain ⟨hok, herr⟩ := hm e he
  unfold tolerate
  cases hrun : m e with
  | ok a e' =>
    refine ⟨?_, nofun⟩
    intro _ t h
    cases h
    exact hok a _ hrun
  | error halt e' =>
    obtain ⟨hadvance, hlost⟩ := herr halt e' hrun
    cases halt with
    | refused error =>
      refine ⟨?_, nofun⟩
      intro _ t h
      cases h
      exact hadvance
    | lost =>
      refine ⟨nofun, ?_⟩
      intro halt' t h
      cases h
      exact ⟨hadvance, hlost⟩

namespace Allows

theorem insertBreak (h : Allows Q P T) (hrefresh : T .refresh) (hfence : T .checkFence) :
    Keeps Q L insertBreak := by
  refine h.observed ?_
  refine .get ?_
  intro s
  split
  next => exact DraftM.keeps_refuse _
  next path block _ =>
    split
    next => exact h.draft.perform _ (by trivial)
    next =>
      split
      next => exact (h.draft.checkFence hrefresh).bind fun _ => .pure _
      next => exact (h.draft.perform _ (by trivial)).bind fun _ => h.draft.later _ hfence

theorem select (h : Allows Q P T) (r : Range) : Keeps Q L (select r) :=
  h.observed (h.draft.perform _ (by trivial))

/-- Moving the cursor asks the document and selects. -/
theorem moveCursor (h : Allows Q P T) (m : Motion) (extend : Bool) :
    Keeps Q L (moveCursor m extend) := by
  unfold EditorM.moveCursor
  refine .get_of_good ?_
  intro e he
  dsimp only
  split
  next => exact .pure _
  next s _ =>
    split
    next => exact .throw nofun
    next p hp =>
      split
      next => exact .pure _
      next hlost => exact absurd hlost (Motion.surroundings_ne_lost (h.numbered he).nodup hp)
      next around _ =>
        split
        next => exact .pure _
        next q _ => exact h.select _

theorem toggleBlock (h : Allows Q P T) (kind : Kind) : Keeps Q L (toggleBlock kind) := by
  refine h.observed ?_
  refine .get ?_
  intro s
  refine (DraftM.keeps_orRefuse _ _).bind ?_
  rintro ⟨path, block⟩
  refine (h.draft.leaveList _ _).bind ?_
  intro path'
  split
  next => exact h.draft.perform _ (by trivial)
  next =>
    split
    next =>
      exact (h.draft.perform _ (by trivial)).bind fun _ => h.draft.perform _ (by trivial)
    next => exact h.draft.perform _ (by trivial)

theorem insertImage (h : Allows Q P T) (url : String) : Keeps Q L (insertImage url) := by
  have himage : Node.MadeOf Kind.IsCanonical (· = {}) (.block (.ofText (.image url) [])) :=
    Block.madeOf_ofKind _ (Node.allMadeOf_singleton.mpr (.leaf rfl))
  refine h.observed ?_
  refine .get ?_
  intro s
  refine (DraftM.keeps_orRefuse _ _).bind ?_
  rintro ⟨path, block⟩
  dsimp only
  split
  next => exact h.draft.perform _ ⟨himage, Block.everywhere_sound_ofText _ _⟩
  next => exact h.draft.perform _ ⟨himage, Block.everywhere_sound_ofText _ _⟩

/-- A key does one of the operations, or nothing. -/
theorem press (h : Allows Q P T) {k : KeyPress} (hrefresh : T .refresh) (hfence : T .checkFence)
    (hrestore : ∀ c, k.key = .char c → ∀ r, T (.restore r)) (htab : k.key = .tab → L) :
    Keeps Q L (press k) := by
  have hkey : ∀ (e : Editor τ) (m : EditorM τ Unit), ofKey? e k = some m → Keeps Q L m := by
    intro e m hm
    unfold ofKey? at hm
    dsimp only at hm
    split at hm
    next => cases hm
    next =>
      cases hk : k.key with
      | char c =>
        rw [hk] at hm
        cases hm
        exact (h.observed (h.draft.insertText hrefresh (hrestore c hk) _)).discard
      | enter =>
        rw [hk] at hm
        cases hm
        exact h.insertBreak hrefresh hfence
      | tab =>
        rw [hk] at hm
        dsimp only at hm
        split at hm
        next =>
          cases hm
          exact h.observed (h.draft.tab (htab hk) _ _)
        next => cases hm
      | backspace =>
        rw [hk] at hm
        cases hm
        exact (h.observed (h.draft.deleteBackward _)).discard
      | escape =>
        rw [hk] at hm
        cases hm
      | _ =>
        rw [hk] at hm
        cases hm
        exact h.moveCursor _ _
  unfold EditorM.press
  refine .get ?_
  intro e
  split
  next => exact .pure _
  next m hm => exact (keeps_tolerate (hkey e m hm)).bind fun _ => .pure _

/-- An operation that is no tick and leaves the languages as they are.  Only the tabulator key may be
lost, and only characters and text put off that a selection is restored. -/
theorem steps (h : Allows Q P T) {a : EditorAction} (hrefresh : T .refresh) (hfence : T .checkFence)
    (htick : a ≠ .tick) (hlanguages : ∀ languages, a ≠ .setLanguages languages)
    (hkey : ∀ k c, a = .press k → k.key = .char c → ∀ r, T (.restore r))
    (htext : ∀ text, a = .insertText text → ∀ r, T (.restore r))
    (htab : ∀ k, a = .press k → k.key = .tab → L) : Keeps Q L a.steps := by
  cases a with
  | press k =>
    exact (h.press hrefresh hfence (hkey k · rfl) (htab k rfl)).bind fun _ => .pure _
  | insertText text =>
    exact (h.observed (h.draft.insertText hrefresh (htext text rfl) text)).bind fun _ => .pure _
  | deleteBackward unit => exact (h.observed (h.draft.deleteBackward unit)).bind fun _ => .pure _
  | insertBreak => exact h.insertBreak hrefresh hfence
  | select r => exact h.select r
  | moveCursor m extend => exact h.moveCursor m extend
  | toggleBlock kind => exact h.toggleBlock kind
  | insertImage url => exact h.insertImage url
  | setLanguages languages => exact absurd rfl (hlanguages languages)
  | tick => exact absurd rfl htick

end Allows

/-! ## Ticks -/

/-- Setting a selection back moves the editor on, also without the coordinator learning of it. -/
theorem keeps_restore (r : Range) :
    Keeps (Editor.progress (τ := τ)) L (unobserved (DraftM.perform (.select r))) := by
  rintro e ⟨hnumbered, -⟩
  obtain ⟨hok, herr⟩ := DraftM.keeps_perform (L := L) (.select r) trivial e.draft hnumbered
  obtain ⟨result, s, hselect⟩ := Document.exists_apply_select e.document r
  have hselect : e.draft.document.apply (.select r) = (result, { e.document with selection := s }) :=
    hselect
  unfold unobserved
  rw [DraftM.perform_eq, hselect] at hok herr ⊢
  cases result with
  | ok p =>
    refine ⟨?_, nofun⟩
    intro _ e' h
    cases h
    exact Editor.advance_of_version_eq (hok _ _ rfl) rfl
  | error halt =>
    refine ⟨nofun, ?_⟩
    intro halt' e' h
    cases h
    obtain ⟨hadvance, hlost⟩ := herr _ _ rfl
    exact ⟨Editor.advance_of_version_eq hadvance rfl, hlost⟩

/-- A task comes to its end, and after the one that computes highlights nothing is stale. -/
theorem exists_runTask (t : Task) {e : Editor τ} (he : Editor.progress.Good e) :
    ∃ e', runTask t e = .ok ⟨⟩ e' ∧ Editor.Advance e e' ∧ (t = .refresh → ¬ e'.IsStale) := by
  cases t with
  | refresh =>
    obtain ⟨hadvance, hfresh⟩ := Editor.advance_refreshIfStale he.2
    exact ⟨_, rfl, hadvance, fun _ => hfresh⟩
  | checkFence =>
    obtain ⟨e', hok, hadvance⟩ :=
      exists_tolerate (keeps_observed (DraftM.allows_progress.checkFence trivial)) he
    exact ⟨e', hok, hadvance, nofun⟩
  | restore r =>
    obtain ⟨e', hok, hadvance⟩ := exists_tolerate (keeps_restore r) he
    exact ⟨e', hok, hadvance, nofun⟩

/-- Tasks come to their end, and if one of them computes highlights nothing is stale at the end. -/
theorem exists_forM_runTask (ts : List Task) {e : Editor τ} (he : Editor.progress.Good e) :
    ∃ e', ts.forM runTask e = .ok ⟨⟩ e' ∧ Editor.Advance e e' ∧
      (Task.refresh ∈ ts → ¬ e'.IsStale) := by
  induction ts generalizing e with
  | nil => exact ⟨e, rfl, .refl e, fun h => absurd h List.not_mem_nil⟩
  | cons t ts ih =>
    obtain ⟨e', hok, hadvance, hfresh⟩ := exists_runTask t he
    obtain ⟨e'', hok', hadvance', hfresh'⟩ := ih (Editor.progress.good he hadvance)
    refine ⟨e'', (bind_of_ok hok).trans hok', hadvance.trans hadvance', ?_⟩
    intro hmem hstale
    rcases List.mem_cons.mp hmem with rfl | hmem
    · exact hfresh rfl (hadvance'.stale hstale).1
    · exact hfresh' hmem hstale

/-- A tick runs the tasks that wait, on an editor without tasks. -/
theorem tick_of_forM {e e' : Editor τ}
    (h : e.draft.tasks.forM runTask { e with draft := { e.draft with tasks := [] } } = .ok ⟨⟩ e') :
    (tick : EditorM τ Nat) e = .ok e.draft.tasks.length e' := by
  rw [tick, get_bind]
  show (e.draft.tasks.forM runTask >>= fun _ => pure e.draft.tasks.length)
    { e with draft := { e.draft with tasks := [] } } = _
  rw [bind_of_ok h]
  rfl

/-- A tick comes to its end. -/
theorem exists_tick {e : Editor τ} (he : Editor.progress.Good e) :
    ∃ e', (tick : EditorM τ Nat) e = .ok e.draft.tasks.length e' ∧
      Editor.Advance { e with draft := { e.draft with tasks := [] } } e' ∧
      (Task.refresh ∈ e.draft.tasks → ¬ e'.IsStale) := by
  obtain ⟨e', hok, hadvance, hfresh⟩ := exists_forM_runTask e.draft.tasks
    (e := { e with draft := { e.draft with tasks := [] } }) he
  exact ⟨e', tick_of_forM hok, hadvance, hfresh⟩

end EditorM

/-! ## Runs -/

namespace Editor

/-- An operation other than a tick keeps the progress, with the languages as they are.  Only the
tabulator key may be lost. -/
theorem keeps_steps {L : Prop} {a : EditorAction} (htick : a ≠ .tick)
    (hlanguages : ∀ languages, a ≠ .setLanguages languages)
    (htab : ∀ k, a = .press k → k.key = .tab → L) : Keeps (progress (τ := τ)) L a.steps :=
  EditorM.allows_progress.steps trivial trivial htick hlanguages (fun _ _ _ _ _ => trivial)
    (fun _ _ _ => trivial) htab

/-- Steps that keep the progress, taken as an operation. -/
theorem advance_act {a : EditorAction} (ha : Keeps (progress (τ := τ)) True a.steps) {e : Editor τ}
    (he : progress.Good e) : Advance e (e.act a) := by
  obtain ⟨hok, herr⟩ := ha e he
  unfold act
  cases hrun : a.steps e with
  | ok x e' => exact hok x e' hrun
  | error halt e' => exact (herr halt e' hrun).1

/-- An operation other than a tick, with the languages as they are, moves the editor on. -/
theorem advance_act_of_ne {a : EditorAction} (htick : a ≠ .tick)
    (hlanguages : ∀ languages, a ≠ .setLanguages languages) {e : Editor τ} (he : progress.Good e) :
    Advance e (e.act a) :=
  advance_act (keeps_steps htick hlanguages fun _ _ _ => trivial) he

/-- A tick moves on an editor without tasks.  If the task that computes highlights was among them,
nothing is stale afterwards. -/
theorem advance_tick {e : Editor τ} (he : progress.Good e) :
    Advance { e with draft := { e.draft with tasks := [] } } (e.act .tick) ∧
      progress.Good (e.act .tick) ∧
      (Task.refresh ∈ e.draft.tasks → ¬ (e.act .tick).IsStale) := by
  obtain ⟨e', hok, hadvance, hfresh⟩ := EditorM.exists_tick he
  have htick : e.act .tick = e' := by
    rw [act, EditorAction.steps, bind_of_ok hok]
    rfl
  rw [htick]
  exact ⟨hadvance, progress.good (s := { e with draft := { e.draft with tasks := [] } }) he hadvance,
    hfresh⟩

/-- Since the last time that highlights were computed other languages were offered. -/
def LanguagesSince (start : Editor τ) (as : List EditorAction) : Prop :=
  ∃ before languages after, as = before ++ .setLanguages languages :: after ∧
    (start.run (before ++ [.setLanguages languages])).coordinator.recomputations =
      (start.run as).coordinator.recomputations

/-- As long as nothing is computed, that stays so. -/
theorem LanguagesSince.concat {start : Editor τ} {as : List EditorAction}
    (h : LanguagesSince start as) {a : EditorAction}
    (hcount : (start.run (as ++ [a])).coordinator.recomputations =
      (start.run as).coordinator.recomputations) : LanguagesSince start (as ++ [a]) := by
  obtain ⟨before, languages, after, rfl, heq⟩ := h
  exact ⟨before, languages, after ++ [a], by simp, heq.trans hcount.symm⟩

/-- A new editor is in order, and nothing is stale. -/
theorem good_ofDocument {d : Document} (hd : d.WellNumbered) (tokenizer : τ)
    (options : EditorOptions) :
    progress.Good (ofDocument d tokenizer options) ∧ ¬ (ofDocument d tokenizer options).IsStale := by
  refine ⟨⟨hd, Coordinator.tracks_refresh ?_⟩, ?_⟩
  · intro v hv
    cases hv
  · rintro ⟨hhas, hnot⟩
    exact hnot (Coordinator.current_refresh _ hhas)

/-- All along a run the editor is in order, and what is stale waits to be computed. -/
theorem good_run {start : Editor τ} (hstart : progress.Good start) (hfresh : ¬ start.IsStale)
    (as : List EditorAction) :
    progress.Good (start.run as) ∧ ((start.run as).IsStale →
      Task.refresh ∈ (start.run as).draft.tasks ∧ LanguagesSince start as) := by
  induction as using List.reverseRecOn with
  | nil => exact ⟨hstart, fun hstale => absurd hstale hfresh⟩
  | append_singleton as a ih =>
    obtain ⟨hgood, hwaits⟩ := ih
    have hact : start.run (as ++ [a]) = (start.run as).act a := run_append start as [a]
    rw [hact]
    by_cases htick : a = .tick
    · subst htick
      obtain ⟨hadvance, hgood', hright⟩ := advance_tick hgood
      refine ⟨hgood', ?_⟩
      intro hstale
      -- What a tick leaves stale it has found stale, and then the task was there.
      obtain ⟨hstale', -⟩ := hadvance.stale hstale
      exact absurd hstale (hright (hwaits hstale').1)
    · by_cases hlanguages : ∃ languages, a = .setLanguages languages
      · obtain ⟨languages, rfl⟩ := hlanguages
        refine ⟨⟨hgood.1, ?_⟩, ?_⟩
        · refine ⟨?_, ?_⟩
          · intro v hv
            cases hv
          · intro hbuilt
            cases hbuilt
        · intro _
          exact ⟨List.mem_append_right _ List.mem_cons_self, as, languages, [], rfl, rfl⟩
      · have hadvance := advance_act_of_ne htick (fun languages h => hlanguages ⟨languages, h⟩) hgood
        refine ⟨progress.good hgood hadvance, ?_⟩
        intro hstale
        obtain ⟨hstale', hcount⟩ := hadvance.stale hstale
        obtain ⟨hmem, hsince⟩ := hwaits hstale'
        refine ⟨hadvance.tasks.subset hmem, hsince.concat ?_⟩
        rw [hact]
        exact hcount

/-- Whatever is done to an editor over a document, made of any blocks and changed by any commands
before: if the document has code then what is published are its highlights, or other languages were
offered since they were computed and a task waits that computes them again. -/
theorem run_current_or_waiting (bs : List Block) (cs : List Command) (tokenizer : τ)
    (options : EditorOptions) (as : List EditorAction) :
    let start := ofDocument ((Document.ofBlocks bs).run cs) tokenizer options
    let e := start.run as
    e.document.hasCode = true →
      e.coordinator.highlights =
        .ofDocument e.coordinator.tokenizer e.coordinator.fallback e.document ∨
      (∃ before languages after, as = before ++ .setLanguages languages :: after ∧
        (start.run (before ++ [.setLanguages languages])).coordinator.recomputations =
          e.coordinator.recomputations) ∧ Task.refresh ∈ e.draft.tasks := by
  intro start e hhas
  have hd := Document.wellNumbered_run (Document.wellNumbered_ofBlocks bs) cs
  obtain ⟨hstart, hfresh⟩ := good_ofDocument hd tokenizer options
  obtain ⟨-, hwaits⟩ := good_run hstart hfresh as
  by_cases hcurrent : e.coordinator.Current e.document
  · exact .inl hcurrent
  · obtain ⟨hmem, hsince⟩ := hwaits ⟨hhas, hcurrent⟩
    exact .inr ⟨hsince, hmem⟩

/-- A code block is typed into, other languages are offered, and the cursor goes to a paragraph. -/
theorem run_current_or_waiting_typed :
    let bs := [⟨0, .code "rust", [.leaf { text := ['x'] }]⟩, Block.ofText .paragraph ['a', 'b']]
    let start := ofDocument ((Document.ofBlocks bs).run []) Registry.empty {}
    let as := [.insertText ['y'], .setLanguages ["zig"], .select (.collapsed ⟨[1, 0], 1⟩)]
    let e := start.run as
    e.document.hasCode = true ∧ (e.coordinator.highlights =
        .ofDocument e.coordinator.tokenizer e.coordinator.fallback e.document ∨
      (∃ before languages after, as = before ++ .setLanguages languages :: after ∧
        (start.run (before ++ [.setLanguages languages])).coordinator.recomputations =
          e.coordinator.recomputations) ∧ Task.refresh ∈ e.draft.tasks) :=
  ⟨by decide, run_current_or_waiting _ _ _ _ _ (by decide)⟩

end Editor

end BlockNotes
