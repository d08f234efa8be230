import BlockNotes.Document.Apply
import BlockNotes.Proofs.Document.TextEdits

/-!
# Commands happen or do not

What `Document.apply` can come to, in one inductive type with one constructor for
each outcome (`Document.Applied`): the command is refused and the document is the
one from before, or only the selection moves, or an edited tree is brought into
normal form and the version grows by one.  Everything that holds along runs of
commands is a case analysis of it.

The first constructor is where it matters that edits are checked
(`EditM.checked_ofCommand`): bringing the tree into normal form and resolving the
selection cannot fail, so a command that stops has been refused by its edit, and
there before the first change (`Document.apply_eq_self_of_error`).
-/

namespace BlockNotes

/-- What an inserted block has to be for the tree to keep its shape. -/
def Command.Sound : Command → Prop
  | .insertBlock _ b => b.Everywhere Block.Sound
  | _ => True

namespace EditM

variable {d : Document}

/-- The edit of a command is refused before it has changed anything, or comes to its end. -/
theorem checked_ofCommand (hd : d.ids.Nodup) (saved : Option BlockRange) (c : Command) :
    Checked (ofCommand saved c) d (Outcome c.Sound d) := by
  cases c with
  | insertText text => exact checked_insertText hd text
  | deleteBackward unit => exact checked_deleteBackward hd unit
  | deleteRange r =>
    refine (checked_deleteRange (G := True) hd r).bind ?_
    intro x d' hx
    exact .pure (.of_ne hx.edited hx.changed)
  | splitBlock => exact checked_splitBlock hd
  | setKind path kind => exact checked_setKind path kind
  | wrapBlock path kind => exact checked_wrapBlock path kind
  | unwrapBlock path => exact checked_unwrapBlock path
  | liftBlock path => exact checked_liftBlock path
  | insertBlock path block => exact checked_insertBlock path block
  | removeBlock path => exact checked_removeBlock path saved
  | select r => exact .pure ⟨.refl d, fun _ => rfl⟩

end EditM

namespace Document

/-- What a command comes to. -/
inductive Applied (d : Document) (c : Command) : Except Halt Patch × Document → Prop where
  /-- It is refused. -/
  | refused (e : DocumentError) : Applied d c (.error (.refused e), d)
  /-- It goes to a selection, or does nothing. -/
  | selected (s : Option Range) :
      Applied d c (.ok ⟨.selection, [], s, d.version⟩, { d with selection := s })
  /-- It changes blocks. -/
  | committed (d' : Document) (changed : List BlockId) (s : Option Range)
      (edited : Edited c.Sound d d') (named : changed ≠ []) :
      Applied d c (.ok ⟨.content, changed, s, d.version + 1⟩,
        { d'.normalize with selection := s, version := d.version + 1 })

/-- Normal form is a matter of the tree. -/
theorem version_normalize (d : Document) : d.normalize.version = d.version := by
  unfold normalize
  dsimp only
  split <;> rfl

end Document

namespace EditM

variable {d : Document}

theorem checked_select (r : Range) :
    Checked (select r) d fun p d' => Document.Applied d (.select r) (.ok p, d') := by
  unfold select
  refine .get (.ofExcept ?_)
  intro _ _
  refine .ofExcept ?_
  intro _ _
  exact .inr ⟨_, _, rfl, .selected (some r)⟩

/-- Bringing an edited tree into normal form comes to an end. -/
theorem certain_commit {c : Command} {d' : Document} {e : Effect} (saved : Option BlockRange)
    (hedited : Document.Edited c.Sound d d') (hne : e.changed ≠ []) :
    Certain (commit saved e) d' fun p d'' => Document.Applied d c (.ok p, d'') := by
  refine ⟨_, _, rfl, ?_⟩
  have hversion : d'.normalize.version = d.version :=
    (Document.version_normalize d').trans hedited.version
  simp only [hversion]
  exact .committed d' e.changed _ hedited hne

theorem checked_apply (hd : d.ids.Nodup) (c : Command) :
    Checked (apply c) d fun p d' => Document.Applied d c (.ok p, d') := by
  unfold apply
  split
  next r => exact checked_select r
  next =>
    refine .get ((checked_ofCommand hd _ _).bind ?_)
    rintro e d' ⟨hedited, hidle⟩
    split
    next hnil =>
      cases hidle (List.isEmpty_iff.mp hnil)
      exact ⟨_, _, rfl, .selected _⟩
    next hne => exact certain_commit _ hedited fun hnil => hne (List.isEmpty_iff.mpr hnil)

end EditM

namespace Document

/-- Where identities are distinct, a command comes to one of the three. -/
theorem applied_apply {d : Document} (hd : d.ids.Nodup) (c : Command) : Applied d c (d.apply c) := by
  unfold apply
  rcases EditM.checked_apply hd c with ⟨e, herr⟩ | ⟨p, d', hok, h⟩
  · rw [herr]
    exact .refused e
  · rw [hok]
    exact h

/-- Where no command has happened the document is as it was. -/
theorem Applied.eq_of_error {d : Document} {c : Command} {x : Except Halt Patch × Document}
    (h : Applied d c x) {halt : Halt} (herr : x.1 = .error halt) : x.2 = d := by
  cases h with
  | refused e => rfl
  | selected s => cases herr
  | committed d' changed s edited named => cases herr

/-- Selecting changes neither the tree nor the version. -/
theorem exists_apply_select (d : Document) (r : Range) :
    ∃ result s, d.apply (.select r) = (result, { d with selection := s }) := by
  unfold apply EditM.apply EditM.select
  dsimp only
  rw [get_bind]
  cases d.blockPoint r.anchor with
  | error e => exact ⟨_, _, rfl⟩
  | ok p =>
    cases d.blockPoint r.focus with
    | error e => exact ⟨_, _, rfl⟩
    | ok q => exact ⟨_, _, rfl⟩

/-- A command that fails leaves the document as it was: the tree, the selection, the version and
the next identity. -/
theorem apply_eq_self_of_error {d : Document} {c : Command} {halt : Halt} (hd : d.ids.Nodup)
    (h : (d.apply c).1 = .error halt) : (d.apply c).2 = d :=
  (applied_apply hd c).eq_of_error h

/-- A selection from a paragraph back to an image: the first block may be edited, but the one
where the deletion would start may not. -/
theorem apply_eq_self_of_error_split :
    let d : Document :=
      { children := [.block ⟨1, .image "a.png", [.leaf {}]⟩,
          .block ⟨2, .paragraph, [.leaf { text := ['a', 'b'] }, .block ⟨3, .quote, []⟩]⟩,
          .block ⟨4, .paragraph, [.leaf { text := ['c'] }]⟩]
        selection := some ⟨⟨[2, 0], 1⟩, ⟨[0, 0], 0⟩⟩
        version := 7
        nextId := 5 }
    (d.apply .splitBlock).1 = .error (.refused (.notATextBlock [0])) ∧
      (d.apply .splitBlock).2 = d :=
  ⟨by rfl, apply_eq_self_of_error (by decide) (by rfl)⟩

end Document

end BlockNotes
