import BlockNotes.Proofs.Autoformat.Advance
import BlockNotes.Proofs.Document.Cursor
import BlockNotes.Proofs.Document.Replacement
import BlockNotes.Proofs.Document.Slice

/-!
# Typing a space

A space behind a trigger takes the trigger away and gives the block another kind, and any
other text is put in as it is (`DraftM.insertText_typed`).

What stands before the cursor is read leaf by leaf, and it may have any marks.  It is a
first part of the text of the block (`Document.Site.textIn_start`), so as many
characters go away as the trigger has.  After each of the commands the block is at the
path that was found before them (`Document.Reworked`, `Document.Rebuilt`).
-/

namespace BlockNotes

/-! ## Triggers -/

namespace Trigger

/-- What can stand before a space: the trigger that it is, the kind that the block gets and the kind
of the list that comes around it. -/
def table : List (Text × Trigger × Kind × Option Kind) := [
  (['#'], heading1, .heading 1, none),
  (['#', '#'], heading2, .heading 2, none),
  (['>'], quote, .quote, none),
  (['-'], bullet, .listItem, some .bulletList),
  (['*'], bullet, .listItem, some .bulletList),
  (['+'], bullet, .listItem, some .bulletList),
  (['1', '.'], numbered, .listItem, some .numberedList)]

variable {t : Trigger} {before : Text} {kind : Kind} {list? : Option Kind}

/-- The table has everything that is read as a trigger. -/
theorem mem_table : (before, t, kind, list?) ∈ table ↔
    ofText? before = some t ∧ t.kind = kind ∧ t.list? = list? := by
  constructor
  · intro h
    simp only [table, List.mem_cons, List.not_mem_nil, or_false, Prod.mk.injEq] at h
    rcases h with h | h | h | h | h | h | h <;> obtain ⟨rfl, rfl, rfl, rfl⟩ := h <;>
      exact ⟨rfl, rfl, rfl⟩
  · rintro ⟨h, rfl, rfl⟩
    unfold ofText? at h
    split at h <;> cases h <;> decide

theorem canonical_kind (t : Trigger) : t.kind.canonical = t.kind := by
  cases t <;> rfl

theorem canonical_list {list : Kind} (h : t.list? = some list) : list.canonical = list := by
  cases t <;> cases h <;> rfl

end Trigger

/-! ## The commands -/

/-- A block with leaves at a path has lost its first characters and become another kind of block, where
it was or as all that is in a new list there, with the cursor at its start.  All blocks elsewhere are
as they were. -/
structure Document.Retyped (d : Document) (path : Path) (b : Block) (k : Nat) (kind : Kind)
    (list? : Option Kind) (d' : Document) : Prop where
  block : ∃ c, c.id = b.id ∧ c.kind = kind ∧ Node.AreLeaves c.children ∧
    Node.marked c.children = (Node.marked b.children).drop k ∧
    d'.blockAt? path = some (match list? with
      | none => c
      | some list => ⟨d.nextId, list, [.block c]⟩)
  fresh : d.nextId ∉ d.ids
  outside : SameOutside path d d'
  cursor : d'.CursorAt ⟨b.id, 0⟩

namespace DraftM

variable {s : Draft} {path : Path} {b : Block} {p q : Point} {n : Nat} {text : Text} {t : Trigger}

/-- A trigger is taken away, and the block becomes what it says. -/
theorem exists_shortcut (hs : s.document.Ready) (hp : s.document.Site p path b n)
    {before after : Text} (htext : b.text = before ++ after) (hbytes : before.bytes = n)
    (t : Trigger) :
    ∃ d', shortcut path ⟨⟨path ++ [0], 0⟩, p⟩ t s = .ok (.shortcut t) { s with document := d' } ∧
      s.document.Retyped path b before.length t.kind t.list? d' := by
  obtain ⟨-, hfirst⟩ := hp.startOf_eq
  obtain ⟨hstart, hstop⟩ := Document.site_start_stop hfirst hp (Nat.zero_le n)
  obtain ⟨_, d₁, c, hdelete, hreworked, -, hmarked⟩ := hs.regular.exists_deleteRange hstart hstop
  obtain ⟨_, d₂, c', hset, hrebuilt, hrecast, hnext⟩ :=
    hreworked.cursor.regular.exists_setKind hreworked.cursor.blockAt? t.kind
  have hkind := hrecast.kind_eq.trans t.canonical_kind
  have hrest : Node.marked c'.children = (Node.marked b.children).drop before.length := by
    rw [hrecast.marked_eq, hmarked, ← Block.text_eq_ownText hp.isTextBlock, htext, ← hbytes,
      Text.charsBefore_append]
    simp
  have hleaves := hrecast.areLeaves hreworked.cursor.areLeaves
  have hid := hrecast.id_eq.trans hreworked.id_eq
  have hfresh : s.document.nextId ∉ s.document.ids := fun h => Nat.lt_irrefl _ (hs.lt _ h)
  have hcursor : d₂.CursorAt ⟨b.id, 0⟩ := by
    rw [← hreworked.id_eq]
    exact hrebuilt.cursor _ hreworked.cursor.cursor
  have hswapped := hreworked.swapped.trans_single hrebuilt.swapped
  rw [shortcut, bind_of_ok (perform_of_ok hdelete), bind_of_ok (perform_of_ok hset)]
  cases hlist : t.list? with
  | none =>
    exact ⟨d₂, rfl, ⟨c', hid, hkind, hleaves, hrest, hswapped.blockAt?_single⟩, hfresh,
      hswapped.sameOutside, hcursor⟩
  | some list =>
    have hlt₁ := Document.lt_nextId_of_apply hs.regular.nodup hs.lt hdelete
    have hlt₂ := Document.lt_nextId_of_apply hreworked.cursor.regular.nodup hlt₁ hset
    obtain ⟨_, d₃, hwrap, hwrapped⟩ :=
      hrebuilt.regular.exists_wrapped hlt₂ hrebuilt.swapped.blockAt?_single list
    have hswapped' := hswapped.trans_single hwrapped.swapped
    rw [hnext, hreworked.nextId, Trigger.canonical_list hlist] at hswapped'
    dsimp only
    rw [bind_of_ok (perform_of_ok hwrap)]
    exact ⟨d₃, rfl, ⟨c', hid, hkind, hleaves, hrest, hswapped'.blockAt?_single⟩, hfresh,
      hswapped'.sameOutside, hwrapped.cursor _ hcursor⟩

/-! ## Where the text goes -/

theorem insertText_of_trigger (hblock : s.document.currentBlock? = some (path, b))
    (hcode : b.kind.isCode = false) (hcursor : cursor? s.document = some p)
    (hstart : s.document.startOf path = .ok q)
    (htrigger : Trigger.ofText? (s.document.textIn ⟨q, p⟩) = some t) :
    insertText [' '] s = shortcut path ⟨q, p⟩ t s := by
  rw [insertText, get_bind]
  simp only [hblock, hcode, hcursor, if_neg Bool.false_ne_true, ne_eq, not_true_eq_false, if_false]
  rw [bind_of_ok (ofExcept_of_ok hstart)]
  simp only [htrigger]

/-- Without a trigger text is put in as it is. -/
theorem insertText_of_not_trigger (hblock : s.document.currentBlock? = some (path, b))
    (hcode : b.kind.isCode = false) (hstart : s.document.startOf path = .ok q)
    (hno : text = [' '] → ∀ p, cursor? s.document = some p →
      Trigger.ofText? (s.document.textIn ⟨q, p⟩) = none) :
    insertText text s = forwardInsert text s := by
  rw [insertText, get_bind]
  simp only [hblock, hcode, if_neg Bool.false_ne_true]
  cases hcursor : cursor? s.document with
  | none => rfl
  | some p =>
    by_cases hspace : text = [' ']
    · simp only [hspace, ne_eq, not_true_eq_false, if_false]
      rw [bind_of_ok (ofExcept_of_ok hstart)]
      simp only [hno hspace p hcursor]
    · simp only [hspace, ne_eq, not_false_eq_true, if_true]

/-- In a code block text is put in as it is, and two tasks are put off. -/
theorem insertText_of_code (hblock : s.document.currentBlock? = some (path, b))
    (hcode : b.kind.isCode = true) {d' : Document} {patch : Patch} {r : Range}
    (happly : s.document.apply (.insertText text) = (.ok patch, d')) (hr : d'.selection = some r) :
    insertText text s = .ok .codeInsert ⟨d', s.tasks ++ [.refresh, .restore r]⟩ := by
  rw [insertText, get_bind]
  simp only [hblock, hcode, if_true]
  rw [bind_of_ok (perform_of_ok happly), bind_of_ok (show later .refresh _ = .ok ⟨⟩ _ from rfl),
    get_bind]
  dsimp only
  rw [hr]
  show EStateM.Result.ok _ _ = _
  simp

theorem insertText_of_code_error (hblock : s.document.currentBlock? = some (path, b))
    (hcode : b.kind.isCode = true) {d' : Document} {halt : Halt}
    (happly : s.document.apply (.insertText text) = (.error halt, d')) :
    insertText text s = .error halt { s with document := d' } := by
  rw [insertText, get_bind]
  simp only [hblock, hcode, if_true]
  rw [bind_of_error (perform_of_error happly)]

/-- Behind text that was put in there is a selection. -/
theorem exists_selection_of_insertText (hs : s.document.Ready) {r : Range}
    (hr : s.document.selection = some r) {patch : Patch} {d' : Document}
    (happly : s.document.apply (.insertText text) = (.ok patch, d')) :
    ∃ r', d'.selection = some r' := by
  obtain ⟨e, d₁, htyped, rfl⟩ := Document.exists_of_apply_ok rfl happly
    (EditM.answers_insertText hs.regular hr (hs.selection r hr) text)
  obtain ⟨_, _, _, -, -, htarget, -⟩ := htyped.seam
  rw [Document.finished]
  split
  next hnil => exact ⟨r, by rw [(htyped.idle hnil).1, hr]⟩
  next => exact ⟨_, by rw [htarget]; rfl⟩

/-- An input of text comes to the command that puts text in, and to two tasks if the text went into a
code block. -/
structure PassedOn (text : Text) (code : Bool) (s : Draft) : Prop where
  error : ∀ halt d', s.document.apply (.insertText text) = (.error halt, d') →
    insertText text s = .error halt { s with document := d' }
  ok : ∀ patch d', s.document.apply (.insertText text) = (.ok patch, d') →
    ∃ a r, d'.selection = some r ∧ insertText text s =
      .ok a ⟨d', s.tasks ++ if code then [.refresh, .restore r] else []⟩

theorem passedOn_of_code (hs : s.document.Ready) {r : Range} (hr : s.document.selection = some r)
    (hblock : s.document.currentBlock? = some (path, b)) (hcode : b.kind.isCode = true) :
    PassedOn text true s := by
  refine ⟨fun _ _ happly => insertText_of_code_error hblock hcode happly, ?_⟩
  intro patch d' happly
  obtain ⟨r', hr'⟩ := exists_selection_of_insertText hs hr happly
  exact ⟨_, r', hr', insertText_of_code hblock hcode happly hr'⟩

theorem passedOn_of_forward (hs : s.document.Ready) {r : Range} (hr : s.document.selection = some r)
    (hforward : insertText text s = forwardInsert text s) : PassedOn text false s := by
  rw [forwardInsert] at hforward
  refine ⟨fun _ _ happly => hforward.trans (bind_of_error (perform_of_error happly)), ?_⟩
  intro patch d' happly
  obtain ⟨r', hr'⟩ := exists_selection_of_insertText hs hr happly
  refine ⟨.forwarded, r', hr', hforward.trans ((bind_of_ok (perform_of_ok happly)).trans ?_)⟩
  simp only [Bool.false_eq_true, if_false, List.append_nil]
  rfl

/-- What typing text does to a ready document with a selection, wherever it goes.  If the block with
the anchor is no code block, the text is a space, the selection is a cursor and what stands before it
in the block is in the table of triggers, then this is taken away, and the block becomes what the
table says, with the cursor at its start.  In every other case the text is put in as the command
does it. -/
theorem insertText_typed (hs : s.document.Ready) {r : Range} (hr : s.document.selection = some r)
    (text : Text) :
    ∃ path b before after, s.document.currentBlock? = some (path, b) ∧ b.text = before ++ after ∧
      s.document.blockPoint r.anchor = .ok ⟨b.id, before.bytes⟩ ∧
      (∀ t kind list?, b.kind.isCode = false → text = [' '] → r.isCollapsed = true →
        (before, t, kind, list?) ∈ Trigger.table →
          ∃ d', insertText text s = .ok (.shortcut t) { s with document := d' } ∧
            s.document.Retyped path b before.length kind list? d') ∧
      (b.kind.isCode = true ∨ text ≠ [' '] ∨ r.isCollapsed = false ∨
        (∀ x ∈ Trigger.table, x.1 ≠ before) → PassedOn text b.kind.isCode s) := by
  obtain ⟨path, b, n, hsite⟩ := hs.regular.exists_site (hs.selection r hr).1
  have hblock := Document.currentBlock?_eq hr hsite
  have hcursor : cursor? s.document = if r.isCollapsed then some r.anchor else none := by
    rw [cursor?, hr, Option.bind_some]
  obtain ⟨hstart, -⟩ := hsite.startOf_eq
  obtain ⟨after, htext, hbytes⟩ := hsite.textIn_start hs.regular.uniform
  refine ⟨path, b, _, after, hblock, htext, hbytes ▸ hsite.blockPoint_eq, ?_, ?_⟩
  · rintro t kind list? hcode rfl hcollapsed hmem
    obtain ⟨htrigger, rfl, rfl⟩ := Trigger.mem_table.mp hmem
    rw [hcollapsed, if_pos rfl] at hcursor
    obtain ⟨d', hrun, hretyped⟩ := exists_shortcut hs hsite htext hbytes t
    exact ⟨d', (insertText_of_trigger hblock hcode hcursor hstart htrigger).trans hrun, hretyped⟩
  · intro hother
    cases hcode : b.kind.isCode with
    | true => exact passedOn_of_code hs hr hblock hcode
    | false =>
      refine passedOn_of_forward hs hr (insertText_of_not_trigger hblock hcode hstart ?_)
      intro hspace p hp
      rcases hother with h | h | h | h
      · cases hcode.symm.trans h
      · exact absurd hspace h
      · rw [hcursor, h] at hp
        cases hp
      · have hanchor : p = r.anchor := by
          rw [hcursor] at hp
          split at hp <;> cases hp
          rfl
        subst hanchor
        rw [Option.eq_none_iff_forall_not_mem]
        intro t ht
        exact h _ (Trigger.mem_table.mpr ⟨ht, rfl, rfl⟩) rfl

/-- A number in front of the cursor, in two leaves of a paragraph in a quotation. -/
theorem insertText_typed_numbered :
    let d := (Document.ofBlocks [.ofKind .quote [.block (.ofKind .paragraph
      [.leaf ⟨['1'], {}⟩, .leaf ⟨['.', 'é'], { bold := true }⟩])]]).run
        [.select (.collapsed ⟨[0, 0, 1], 1⟩)]
    let s : Draft := { document := d, tasks := [.checkFence] }
    ∃ b d', d.blockAt? [0, 0] = some b ∧ b.id = 2 ∧
      insertText [' '] s = .ok (.shortcut .numbered) { s with document := d' } ∧
      d.Retyped [0, 0] b 2 .listItem (some .numberedList) d' := by
  intro d s
  have hsound : ∀ b ∈ [Block.ofKind .quote [.block (.ofKind .paragraph
      [.leaf ⟨['1'], {}⟩, .leaf ⟨['.', 'é'], { bold := true }⟩])]], b.Everywhere Block.Sound := by
    rw [List.forall_mem_singleton]
    refine Block.everywhere_sound_ofKind _ (.inr Node.areBlocks_block) ⟨?_, trivial⟩
    exact Block.everywhere_sound_ofKind _ (.inl (Node.areLeaves_iff.mpr rfl)) trivial
  have hs : s.document.Ready := by
    refine ⟨Document.regular_run hsound (List.forall_mem_singleton.mpr trivial), by decide, ?_⟩
    rintro _ ⟨⟩
    exact ⟨Document.addresses_iff.mpr ⟨⟨2, 2⟩, by rfl⟩, Document.addresses_iff.mpr ⟨⟨2, 2⟩, by rfl⟩⟩
  obtain ⟨path, b, before, after, hblock, htext, hpoint, hshortcut, -⟩ :=
    insertText_typed hs (by rfl) [' ']
  cases hblock.symm.trans (show d.currentBlock? = some ([0, 0], _) by rfl)
  have hoffset : before.bytes = 2 := congrArg BlockPoint.offset (Except.ok.inj
    (hpoint.symm.trans (show d.blockPoint _ = .ok ⟨2, 2⟩ by rfl)))
  have hsplit := Text.splitAt?_append before after
  rw [← htext, hoffset] at hsplit
  cases hsplit
  obtain ⟨d', hrun, hretyped⟩ :=
    hshortcut .numbered .listItem (some .numberedList) rfl rfl rfl (by decide)
  exact ⟨_, d', rfl, rfl, hrun, hretyped⟩

end DraftM

end BlockNotes
