import BlockNotes.Proofs.Editor.Fresh
import BlockNotes.Proofs.Grammar.TokenText

/-!
# Skipping what is already computed

A coordinator does not know documents, it only remembers the version of the one that its
highlights were computed from.  Whatever it was called for, it has seen a document of
that version since the languages were last set, and the highlights are those of this
document (`Coordinator.Remembers.run`).

So the check for staleness gives what computing again gives, unless another document was
shown that has the same version (`Coordinator.Remembers.refreshIfStale`).  Among the
stages that one document goes through there is no such document, as in the same version
the tree is the same.
-/

namespace BlockNotes

variable {τ : Type} [Tokenizer τ]

/-- What a coordinator is called for. -/
inductive CoordinatorCall where
  | onChange (d : Document) (origin : Origin)
  | refresh (d : Document)
  | refreshIfStale (d : Document)
  | setLanguages (languages : List String)

/-- The documents that were shown since the languages were last set, before and after a call. -/
def CoordinatorCall.shownAfter (ds : List Document) : CoordinatorCall → List Document
  | onChange d _ | refresh d | refreshIfStale d => ds ++ [d]
  | setLanguages _ => []

/-- The documents of some calls since the languages were last set. -/
def CoordinatorCall.shown (calls : List CoordinatorCall) : List Document :=
  calls.foldl shownAfter []

namespace Coordinator

/-- The coordinator after a call. -/
def call (c : Coordinator τ) : CoordinatorCall → Coordinator τ
  | .onChange d origin => c.onChange d origin
  | .refresh d => c.refresh d
  | .refreshIfStale d => c.refreshIfStale d
  | .setLanguages languages => c.setLanguages languages

/-- The coordinator after a list of calls. -/
def run (c : Coordinator τ) (calls : List CoordinatorCall) : Coordinator τ :=
  calls.foldl call c

/-- The version that a coordinator remembers is that of a document among some, and it has the
highlights of this document. -/
def Remembers (c : Coordinator τ) (ds : List Document) : Prop :=
  ∀ v, c.builtFor = some v → ∃ d ∈ ds, d.version = v ∧ c.Current d

variable {c : Coordinator τ} {d : Document} {ds ds' : List Document}

theorem Remembers.mono (h : c.Remembers ds) (hds : ds ⊆ ds') : c.Remembers ds' := by
  intro v hv
  obtain ⟨d, hd, hversion, hcurrent⟩ := h v hv
  exact ⟨d, hds hd, hversion, hcurrent⟩

theorem Remembers.refresh (h : c.Remembers ds) (d : Document) :
    (c.refresh d).Remembers (ds ++ [d]) := by
  cases hcode : d.hasCode with
  | true =>
    intro v hv
    rw [Coordinator.refresh, if_pos hcode] at hv
    exact ⟨d, List.mem_append_right _ (List.mem_singleton_self d), Option.some.inj hv,
      current_refresh c hcode⟩
  | false =>
    rw [refresh_of_not_hasCode c hcode]
    exact h.mono (List.subset_append_left _ _)

/-- A call shows its document, or sets the languages. -/
theorem Remembers.call (h : c.Remembers ds) (x : CoordinatorCall) :
    (c.call x).Remembers (x.shownAfter ds) := by
  have hmore : ∀ d, c.Remembers (ds ++ [d]) := fun d => h.mono (List.subset_append_left _ _)
  cases x with
  | onChange d origin =>
    cases origin with
    | selection => exact hmore d
    | content => exact h.refresh d
  | refresh d => exact h.refresh d
  | refreshIfStale d =>
    rw [Coordinator.call, refreshIfStale]
    split
    next => exact hmore d
    next => exact h.refresh d
  | setLanguages languages =>
    intro v hv
    cases hv

theorem Remembers.run (h : c.Remembers ds) (calls : List CoordinatorCall) :
    (c.run calls).Remembers (calls.foldl CoordinatorCall.shownAfter ds) := by
  induction calls generalizing c ds with
  | nil => exact h
  | cons x calls ih => exact ih (h.call x)

theorem remembers_ofTokenizer (tokenizer : τ) (fallback : String) (languages : List String) :
    (ofTokenizer tokenizer fallback languages).Remembers [] := by
  intro v hv
  cases hv

/-- The check gives what computing again gives, unless the highlights are those of another document
that has the same version. -/
theorem Remembers.refreshIfStale (h : c.Remembers ds) (d : Document) :
    (c.refreshIfStale d).highlights = (c.refresh d).highlights ∨
      ∃ d' ∈ ds, d'.version = d.version ∧ c.Current d' ∧ ¬ c.Current d := by
  by_cases hbuilt : c.builtFor = some d.version
  · rw [Coordinator.refreshIfStale, if_pos hbuilt]
    cases hcode : d.hasCode with
    | false => exact .inl (by rw [refresh_of_not_hasCode c hcode])
    | true =>
      by_cases hcurrent : c.Current d
      · left
        rw [Coordinator.refresh, if_pos hcode]
        exact hcurrent
      · obtain ⟨d', hd', hversion, hcurrent'⟩ := h _ hbuilt
        exact .inr ⟨d', hd', hversion, hcurrent', hcurrent⟩
  · exact .inl (by rw [Coordinator.refreshIfStale, if_neg hbuilt])

end Coordinator

/-! ## The stages of one document -/

namespace Document

variable {d d' start : Document}

/-- A document at one time of a run. -/
def StageOf (start : Document) (cs : List Command) (d : Document) : Prop :=
  ∃ n, d = start.run (cs.take n)

/-- Of two stages of a document one has come from the other. -/
theorem since_of_stageOf {cs : List Command} (hstart : start.WellNumbered)
    (h : StageOf start cs d) (h' : StageOf start cs d') : Since d d' ∨ Since d' d := by
  have hlater : ∀ {m n}, m ≤ n → Since (start.run (cs.take m)) (start.run (cs.take n)) := by
    intro m n hmn
    have hsplit := List.take_append_drop m (cs.take n)
    rw [List.take_take, Nat.min_eq_left hmn] at hsplit
    rw [← hsplit, run_append]
    exact since_run (wellNumbered_run hstart _) _
  obtain ⟨m, rfl⟩ := h
  obtain ⟨n, rfl⟩ := h'
  exact (Nat.le_total m n).imp hlater hlater

theorem children_eq_of_stageOf {cs : List Command} (hstart : start.WellNumbered)
    (h : StageOf start cs d) (h' : StageOf start cs d') (hversion : d'.version = d.version) :
    d'.children = d.children := by
  rcases since_of_stageOf hstart h h' with hsince | hsince
  · exact hsince.same hversion
  · exact (hsince.same hversion.symm).symm

end Document

namespace Coordinator

open CoordinatorCall (shown)

/-- Whatever a coordinator was called for: checking for staleness gives the table and the warnings that
computing again gives, unless those in place were computed, since the languages were last set, from a
document of the same version that has others.  Where all documents shown since then are stages of one
document, it always does. -/
theorem refreshIfStale_run (tokenizer : τ) (fallback : String) (languages : List String)
    (calls : List CoordinatorCall) (d : Document) :
    let c := (ofTokenizer tokenizer fallback languages).run calls
    ((c.refreshIfStale d).highlights = (c.refresh d).highlights ∨
      ∃ d' ∈ shown calls, d'.version = d.version ∧
        c.highlights = .ofDocument c.tokenizer c.fallback d' ∧
        c.highlights ≠ .ofDocument c.tokenizer c.fallback d) ∧
    ∀ bs cs, (∀ d' ∈ d :: shown calls, (Document.ofBlocks bs).StageOf cs d') →
      (c.refreshIfStale d).highlights = (c.refresh d).highlights := by
  intro c
  have hremembers : c.Remembers (shown calls) :=
    (remembers_ofTokenizer tokenizer fallback languages).run calls
  refine ⟨hremembers.refreshIfStale d, ?_⟩
  intro bs cs hstages
  rw [List.forall_mem_cons] at hstages
  rcases hremembers.refreshIfStale d with hsame | ⟨d', hd', hversion, hcurrent, hnot⟩
  · exact hsame
  · have hchildren := Document.children_eq_of_stageOf (Document.wellNumbered_ofBlocks bs)
      hstages.1 (hstages.2 d' hd') hversion
    refine absurd ?_ hnot
    rw [Current, ← Highlights.ofDocument_congr hchildren]
    exact hcurrent

/-- A code block is typed into, which leaves the check nothing to do. -/
theorem refreshIfStale_run_typed :
    let bs := [Block.ofText (.code "rust") ['x']]
    let cs := [Command.select (.collapsed ⟨[0, 0], 1⟩), .insertText ['y']]
    let d := (Document.ofBlocks bs).run cs
    let calls := [.refresh (Document.ofBlocks bs), .setLanguages ["zig"], .onChange d .content]
    let c := (ofTokenizer Registry.empty "text" []).run calls
    c.builtFor = some d.version ∧ (c.refreshIfStale d).highlights = (c.refresh d).highlights := by
  intro bs cs d calls c
  have hd : (Document.ofBlocks bs).StageOf cs d := ⟨2, rfl⟩
  refine ⟨by decide, (refreshIfStale_run Registry.empty "text" [] calls d).2 bs cs ?_⟩
  rw [show shown calls = [d] from rfl]
  simpa using hd

/-- Two new documents have the same version.  After the highlights of the first one were computed the
check leaves them for the second one too, where the parentheses stand behind a letter. -/
theorem refreshIfStale_ne_of_new :
    let first := Document.ofBlocks [.ofText (.code "parentheses") ['(', 'b', ')']]
    let second := Document.ofBlocks [.ofText (.code "parentheses") ['a', '(', 'b', ')']]
    let c := (ofTokenizer Registry.parentheses "text" []).run [.refresh first]
    second.ids.Nodup ∧
      (c.refreshIfStale second).highlights.table ≠ (c.refresh second).highlights.table := by
  decide +kernel

end Coordinator

end BlockNotes
