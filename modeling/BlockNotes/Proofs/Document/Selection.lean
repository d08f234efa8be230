import BlockNotes.Proofs.Document.Invariant
import BlockNotes.Proofs.Document.Position

/-!
# Where the selection goes

What becomes of an edited document (`Document.committed`), and when a command
comes to that (`Document.apply_cases`).  Whatever is known of the edit of a
command is known of the command through this one case analysis.

The selection of a document is *usable* if both of its ends address a place.  A
selection that is set is checked, and one that is carried through an edit is
resolved in a settled tree, where whatever is resolved addresses a place.  The
one way out of this is a tree without any block where a cursor can stand.  There
an end that is not resolved has nowhere to go, and the selection becomes a fixed
point whether something is there or not (`Document.run_ofBlocks_selection`).
-/

namespace BlockNotes.Document

variable {d : Document}

/-! ## What becomes of an edited document -/

/-- The tree in normal form, the selection at its place and the version one higher. -/
def committed (d : Document) (place : Option BlockRange) : Document :=
  { d.normalize with
    selection := place.map d.normalize.resolveRange
    version := d.normalize.version + 1 }

/-- What becomes of a document after an edit. -/
def finished (d : Document) (saved : Option BlockRange) (e : Effect) : Document :=
  if e.changed = [] then d else d.committed (e.target.or saved)

theorem finished_stay (saved : Option BlockRange) (id : BlockId) (ids : List BlockId) :
    d.finished saved (.stay (id :: ids)) = d.committed saved :=
  if_neg (List.cons_ne_nil id ids)

theorem finished_goTo (saved : Option BlockRange) (id : BlockId) (ids : List BlockId)
    (p : BlockPoint) :
    d.finished saved (.goTo (id :: ids) p) = d.committed (some (.collapsed p)) :=
  if_neg (List.cons_ne_nil id ids)

/-- The edit of a command, with the selection that it starts from. -/
def edit (d : Document) (c : Command) : EditM Effect :=
  EditM.ofCommand (d.selection.bind d.blockRange?) c

theorem apply_eq {c : Command} (hc : c.editsContent = true) :
    EditM.apply c d = (d.edit c >>= fun e =>
      if e.changed.isEmpty then EditM.patch .selection []
      else EditM.commit (d.selection.bind d.blockRange?) e) d := by
  cases c with
  | select r => cases hc
  | _ => rfl

/-- A command finishes what its edit comes to, and its patch names the blocks that the edit does. -/
theorem exists_apply_of_edit {c : Command} (hc : c.editsContent = true) {e : Effect} {d' : Document}
    (hok : d.edit c d = .ok e d') :
    ∃ p, p.changed = e.changed ∧
      d.apply c = (.ok p, d'.finished (d.selection.bind d.blockRange?) e) := by
  rw [apply, apply_eq hc, bind_of_ok hok, finished]
  simp only [List.isEmpty_iff]
  by_cases hnil : e.changed = []
  · rw [if_pos hnil, if_pos hnil]
    exact ⟨_, hnil.symm, rfl⟩
  · rw [if_neg hnil, if_neg hnil]
    exact ⟨_, rfl, rfl⟩

theorem apply_of_certain {c : Command} (hc : c.editsContent = true) {Q : Effect → Document → Prop}
    (h : EditM.Certain (d.edit c) d Q) :
    ∃ e d' p, Q e d' ∧ d.apply c = (.ok p, d'.finished (d.selection.bind d.blockRange?) e) := by
  obtain ⟨e, d', hok, hQ⟩ := h
  obtain ⟨p, -, happly⟩ := exists_apply_of_edit hc hok
  exact ⟨e, d', p, hQ, happly⟩

/-- A command that edits is refused, or it finishes what its edit comes to. -/
theorem apply_cases {c : Command} (hc : c.editsContent = true) {Q : Effect → Document → Prop}
    (h : EditM.Checked (d.edit c) d Q) :
    (∃ e, d.apply c = (.error (.refused e), d)) ∨
      ∃ e d' p, Q e d' ∧
        d.apply c = (.ok p, d'.finished (d.selection.bind d.blockRange?) e) := by
  rcases h with ⟨e, herr⟩ | h
  · left
    exact ⟨e, by rw [apply, apply_eq hc, bind_of_error herr]⟩
  · exact .inr (apply_of_certain hc h)

/-- Where a command has succeeded, its edit gave an answer. -/
theorem exists_edit_of_apply_ok {c : Command} (hc : c.editsContent = true) {p : Patch}
    {d' : Document} (h : d.apply c = (.ok p, d')) :
    ∃ e d₁, d.edit c d = .ok e d₁ ∧ p.changed = e.changed ∧
      d' = d₁.finished (d.selection.bind d.blockRange?) e := by
  cases hrun : d.edit c d with
  | ok e d₁ =>
    obtain ⟨p', hchanged, happly⟩ := exists_apply_of_edit hc hrun
    cases h.symm.trans happly
    exact ⟨e, d₁, rfl, hchanged, rfl⟩
  | error halt d₁ =>
    rw [apply, apply_eq hc, bind_of_error hrun] at h
    cases h

theorem exists_of_apply_ok {c : Command} (hc : c.editsContent = true) {p : Patch} {d' : Document}
    (h : d.apply c = (.ok p, d')) {Q : Effect → Document → Prop} (hQ : EditM.Answers (d.edit c) d Q) :
    ∃ e d₁, Q e d₁ ∧ d' = d₁.finished (d.selection.bind d.blockRange?) e := by
  obtain ⟨e, d₁, hrun, -, hd'⟩ := exists_edit_of_apply_ok hc h
  exact ⟨e, d₁, hQ e d₁ hrun, hd'⟩

/-! ## Usable selections -/

/-- Both ends of a range address a place. -/
def AddressesBoth (d : Document) (r : Range) : Prop :=
  d.Addresses r.anchor ∧ d.Addresses r.focus

/-- A settled tree, with a selection that addresses a place wherever a cursor can stand. -/
structure Usable (d : Document) : Prop where
  settled : d.Settled
  selection : ∀ s, d.selection = some s →
    d.AddressesBoth s ∨ d.textBlocks = [] ∧ s = .collapsed ⟨[0, 0], 0⟩

/-- In a settled document an end of a range goes to a place, if there is a block where a cursor can
stand. -/
theorem Settled.resolved (hd : d.Settled) (p : BlockPoint) :
    (∃ q, (d.resolve? p).or d.firstPoint? = some q ∧ d.Addresses q) ∨
      (d.resolve? p).or d.firstPoint? = none ∧ d.textBlocks = [] := by
  cases hp : d.resolve? p with
  | some q => exact .inl ⟨q, rfl, addresses_of_resolve? hd hp⟩
  | none =>
    rw [Option.none_or]
    rcases firstPoint?_cases hd with ⟨hnone, hfirst⟩ | hfirst
    · exact .inr ⟨hfirst, hnone⟩
    · exact .inl hfirst

theorem Settled.resolveRange_cases (hd : d.Settled) (r : BlockRange) :
    d.AddressesBoth (d.resolveRange r) ∨
      d.textBlocks = [] ∧ d.resolveRange r = .collapsed ⟨[0, 0], 0⟩ := by
  unfold resolveRange
  rcases hd.resolved r.anchor with ⟨p, hp, hanchor⟩ | ⟨hp, hnone⟩
  · rcases hd.resolved r.focus with ⟨q, hq, hfocus⟩ | ⟨hq, hnone⟩
    · rw [hp, hq]
      exact .inl ⟨hanchor, hfocus⟩
    · rw [hp, hq]
      exact .inr ⟨hnone, rfl⟩
  · rw [hp]
    exact .inr ⟨hnone, rfl⟩

theorem usable_committed (d : Document) (place : Option BlockRange) : (d.committed place).Usable := by
  have hsettled := settled_normalize d
  refine ⟨⟨hsettled.nonempty, hsettled.areBlocks, hsettled.blocks⟩, ?_⟩
  intro s hs
  obtain ⟨r, -, rfl⟩ := Option.map_eq_some_iff.mp hs
  exact hsettled.resolveRange_cases r

/-- A range that is selected has been checked. -/
theorem Usable.select (hd : d.Usable) (r : Range) : (d.perform (.select r)).Usable := by
  unfold perform apply EditM.apply EditM.select
  dsimp only
  rw [get_bind]
  cases hanchor : d.blockPoint r.anchor with
  | error e => exact hd
  | ok p =>
    cases hfocus : d.blockPoint r.focus with
    | error e => exact hd
    | ok q =>
      refine ⟨⟨hd.settled.nonempty, hd.settled.areBlocks, hd.settled.blocks⟩, ?_⟩
      intro s hs
      cases hs
      exact .inl ⟨addresses_iff.mpr ⟨p, hanchor⟩, addresses_iff.mpr ⟨q, hfocus⟩⟩

/-! ## Runs -/

theorem usable_ofBlocks (bs : List Block) : (ofBlocks bs).Usable := by
  have hsettled := settled_normalize
    ⟨(Node.adoptAll (bs.map .block) 1).1, none, 0, (Node.adoptAll (bs.map .block) 1).2⟩
  refine ⟨⟨hsettled.nonempty, hsettled.areBlocks, hsettled.blocks⟩, ?_⟩
  intro s hs
  obtain ⟨p, hp, rfl⟩ := Option.map_eq_some_iff.mp hs
  rcases firstPoint?_cases hsettled with ⟨-, hnone⟩ | ⟨q, hq, haddr⟩
  · cases hnone.symm.trans hp
  · cases hq.symm.trans hp
    exact .inl ⟨haddr, haddr⟩

/-- A command leaves the selection usable. -/
theorem Usable.perform (hd : d.Usable) (hids : d.ids.Nodup) (c : Command) :
    (d.perform c).Usable := by
  cases hc : c.editsContent with
  | false =>
    cases c with
    | select r => exact hd.select r
    | _ => cases hc
  | true =>
    rw [Document.perform]
    rcases apply_cases hc (EditM.checked_ofCommand hids _ c) with ⟨e, h⟩ | ⟨e, d', p, ⟨-, hidle⟩, h⟩
    · rw [h]
      exact hd
    · rw [h, finished]
      split
      next hnil =>
        rw [hidle hnil]
        exact hd
      next => exact usable_committed d' _

theorem Usable.run (hd : d.Usable) (hnumbered : d.WellNumbered) (cs : List Command) :
    (d.run cs).Usable := by
  induction cs generalizing d with
  | nil => exact hd
  | cons c cs ih =>
    have hstep := hnumbered.numbered (applied_apply hnumbered.nodup c).numbered
    exact ih (hd.perform hnumbered.nodup c) hstep

/-- In every run of commands on a new document both ends of a selection address a place, as long as
there is a block where a cursor can stand.  Without one the selection may also be the fixed point
that a range without a place goes to. -/
theorem run_ofBlocks_selection (bs : List Block) (cs : List Command) (s : Range)
    (hs : ((ofBlocks bs).run cs).selection = some s) :
    ((ofBlocks bs).run cs).AddressesBoth s ∨
      ((ofBlocks bs).run cs).textBlocks = [] ∧ s = .collapsed ⟨[0, 0], 0⟩ :=
  ((usable_ofBlocks bs).run (wellNumbered_ofBlocks bs) cs).selection s hs

/-- The end of a text that was typed, next to an image. -/
theorem run_ofBlocks_selection_typed :
    let d := (ofBlocks [.ofText (.image "a.png") [], .ofText .paragraph ['x']]).run
      [.insertText ['y']]
    d.selection = some (.collapsed ⟨[1, 0], 1⟩) ∧ d.AddressesBoth (.collapsed ⟨[1, 0], 1⟩) := by
  intro d
  have hs : d.selection = some (.collapsed ⟨[1, 0], 1⟩) := by rfl
  refine ⟨hs, ?_⟩
  rcases run_ofBlocks_selection _ _ _ hs with h | ⟨h, -⟩
  · exact h
  · exact absurd h (by decide)

/-- A quotation with an image in it and a paragraph with the cursor.  When the paragraph is removed,
the cursor goes to the fixed point, and that is the image and not a leaf. -/
theorem exists_run_selection_not_addresses :
    let d := ofBlocks [.ofKind .quote [.block (.ofText (.image "a.png") [])],
      .ofText .paragraph ['x']]
    (d.apply (.removeBlock [1])).1.isOk = true ∧
      (d.run [.removeBlock [1]]).selection = some (.collapsed ⟨[0, 0], 0⟩) ∧
      ¬ (d.run [.removeBlock [1]]).Addresses ⟨[0, 0], 0⟩ := by
  intro d
  refine ⟨by rfl, by rfl, ?_⟩
  rw [addresses_iff]
  rintro ⟨q, hq⟩
  have herr : (d.run [.removeBlock [1]]).blockPoint ⟨[0, 0], 0⟩ = .error (.invalidPath [0, 0]) := by
    rfl
  cases herr.symm.trans hq

end BlockNotes.Document
