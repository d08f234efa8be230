import BlockNotes.Proofs.Document.Excision

/-!
# Typing is replacing

What inserting a text does to a regular document whose selection has valid ends
(`Document.insertText_replaces`).  The selection is deleted, which leaves a seam
behind, or nothing is selected and its place is a seam where nothing is missing.
The text comes in before the seam, with one set of marks.  The block at the start
of the selection can be edited, so what was lost in a deletion from an image is
not lost here.
-/

namespace BlockNotes

namespace EditM

variable {d : Document}

/-- A seam in the place of a range, and a block point at it. -/
structure Opened (d : Document) (s : Range) (x : BlockPoint × List BlockId) (d' : Document)
    (σ : Document.Seam) : Prop where
  start : d.blockPoint s.start = .ok x.1
  seam : σ.In d' x.1
  between : σ.Between d s.start s.stop
  /-- If no block is named, nothing was selected and nothing changed. -/
  idle : x.2 = [] → d' = d ∧ s.isCollapsed = true

/-- Clearing a selection opens a seam, and the edit goes on there. -/
theorem answers_clear (hd : d.Regular) {s : Range} (hs : d.AddressesBoth s) {anchor : BlockPoint}
    (hanchor : d.blockPoint s.anchor = .ok anchor) {β : Type} {Q : β → Document → Prop}
    {f : BlockPoint × List BlockId → EditM β}
    (hf : ∀ x d' σ, Opened d s x d' σ → Answers (f x) d' Q) :
    Answers
      (if s.isCollapsed then pure (anchor, ([] : List BlockId)) >>= f
      else do
        let start ← ofExcept ((← get).blockPoint s.start)
        let _ ← editable start.block
        let x ← deleteRange s
        f x)
      d Q := by
  split
  next hcollapsed =>
    have hsame : s.anchor = s.focus := of_decide_eq_true hcollapsed
    have hstart : s.start = s.anchor := by
      unfold Range.start
      rw [← hsame, ite_self]
    have hstop : s.stop = s.anchor := by
      unfold Range.stop
      rw [← hsame, ite_self]
    obtain ⟨path, b, n, hsite⟩ := hd.exists_site hs.1
    obtain ⟨σ, hin, hbetween⟩ := Document.Seam.exists_of_site hd hsite
    cases hsite.blockPoint_eq.symm.trans hanchor
    refine hf _ d σ ⟨?_, hin, ?_, fun _ => ⟨rfl, hcollapsed⟩⟩
    · rw [hstart, hanchor]
    · rw [hstart, hstop]
      exact hbetween
  next =>
    refine .get (.ofExcept ?_)
    intro start hstart
    refine (checked_editable start.block).answers.bind ?_
    rintro b d' ⟨rfl, hid, htext, hvoid, path, hb⟩
    refine (certain_excise hd hs.start_stop.1 hs.start_stop.2).answers.bind ?_
    intro x d' hx
    obtain ⟨σ, hin, hbetween, -⟩ := hx.seam
    refine hf x d' σ ⟨hx.start, hin, hbetween ?_, fun hnil => absurd hnil hx.changed⟩
    -- The block at the start can be edited, so it takes what is behind the range.
    rintro ⟨-, c, hc, hcvoid⟩
    obtain ⟨q, c', n, hsite⟩ := hd.exists_site hs.start_stop.1
    rw [hsite.above_eq] at hc
    cases hsite.blockAt?.symm.trans hc
    cases hsite.blockPoint_eq.symm.trans hstart
    obtain ⟨-, rfl⟩ := Document.eq_of_id_eq hd.nodup hb hsite.blockAt? hid
    rw [hvoid] at hcvoid
    cases hcvoid

/-- What inserting a text leaves behind: a seam in the place of the selection with the text before
it, and the cursor there. -/
structure Typed (d : Document) (s : Range) (t : Text) (e : Effect) (d' : Document) : Prop where
  seam : ∃ (σ : Document.Seam) (p : BlockPoint) (marks : Marks), σ.Between d s.start s.stop ∧
    d.blockPoint s.start = .ok p ∧ e.target = some (.collapsed ⟨p.block, p.offset + t.bytes⟩) ∧
    Document.Seam.In { σ with head := σ.head ++ t.map (·, marks) } d' ⟨p.block, p.offset + t.bytes⟩
  idle : e.changed = [] → d' = d ∧ t = [] ∧ s.isCollapsed = true

theorem answers_insertText (hd : d.Regular) {s : Range} (hselection : d.selection = some s)
    (hs : d.AddressesBoth s) (t : Text) : Answers (insertText t) d (Typed d s t) := by
  obtain ⟨anchor, hanchor⟩ := Document.addresses_iff.mp hs.1
  unfold insertText
  refine Answers.bind (P := fun x d' => x = (s, anchor) ∧ d' = d) ?_ ?_
  · intro x d' hok
    cases (selectionPoint_eq hselection hanchor).symm.trans hok
    exact ⟨rfl, rfl⟩
  · rintro _ _ ⟨rfl, rfl⟩
    dsimp only
    refine answers_clear hd hs hanchor ?_
    rintro ⟨p, changed⟩ d' σ hopened
    refine (checked_editable p.block).answers.bind ?_
    rintro b d' ⟨rfl, -⟩
    split
    next hempty =>
      cases List.isEmpty_iff.mp hempty
      refine .pure ⟨⟨σ, p, {}, hopened.between, hopened.start, rfl, ?_⟩, ?_⟩
      · simpa using hopened.seam
      · intro hnil
        obtain ⟨rfl, hcollapsed⟩ := hopened.idle hnil
        exact ⟨rfl, rfl, hcollapsed⟩
    next =>
      obtain ⟨marks, hinsert⟩ := hopened.seam.certain_insert t
      refine hinsert.answers.bind ?_
      intro _ d'' hin
      refine .pure ⟨⟨σ, p, marks, hopened.between, hopened.start, rfl, hin⟩, ?_⟩
      intro hnil
      exact absurd hnil (List.append_ne_nil_of_right_ne_nil changed (List.cons_ne_nil _ _))

end EditM

namespace Document

variable {d : Document}

/-- A text has taken the place of a range. -/
structure Replaced (d : Document) (s : Range) (t : Text) (d' : Document) : Prop where
  ordered : d.charsBefore s.start ≤ d.charsBefore s.stop
  /-- The characters before the range and behind it are as before, and those of the text come in
  between with one set of marks. -/
  marked : ∃ marks, d'.marked = d.marked.take (d.charsBefore s.start) ++ t.map (·, marks) ++
    d.marked.drop (d.charsBefore s.stop)
  /-- The block at the start keeps its identity and its kind. -/
  block : ∃ b path b', d.blockAt? s.start.path.dropLast = some b ∧ d'.blockAt? path = some b' ∧
    b'.id = b.id ∧ b'.kind = b.kind
  /-- A block with leaves to the left of the block at the start or to the right of the one at the end
  stays as it is. -/
  outside : ∀ path b, d.blockAt? path = some b → b.children.any Node.isLeaf = true →
    path < s.start.path.dropLast ∨ s.stop.path.dropLast < path → ∃ path', d'.blockAt? path' = some b
  /-- The cursor is behind the text, in the block at the start. -/
  cursor : ∃ p q, d.blockPoint s.start = .ok p ∧ d'.selection = some (.collapsed q) ∧
    d'.blockPoint q = .ok ⟨p.block, p.offset + t.bytes⟩

/-- Inserting nothing where nothing is selected replaces nothing. -/
theorem Regular.replaced_self (hd : d.Regular) {s : Range} (hselection : d.selection = some s)
    (hs : d.AddressesBoth s) (hcollapsed : s.isCollapsed = true) : d.Replaced s [] d := by
  obtain ⟨p, q⟩ := s
  cases (of_decide_eq_true hcollapsed : p = q)
  have hstart : Range.start ⟨p, p⟩ = p := ite_self _
  have hstop : Range.stop ⟨p, p⟩ = p := ite_self _
  obtain ⟨path, b, n, hsite⟩ := hd.exists_site hs.1
  have hb := hsite.blockAt?
  rw [← hsite.above_eq] at hb
  refine ⟨?_, ⟨{}, ?_⟩, ⟨b, _, b, ?_, hb, rfl, rfl⟩, fun path b hb _ _ => ⟨path, hb⟩, ?_⟩
  · rw [hstart, hstop]
  · rw [hstart, hstop, List.map_nil, List.append_nil, List.take_append_drop]
  · rw [hstart]
    exact hb
  · rw [hstart]
    exact ⟨⟨b.id, n⟩, p, hsite.blockPoint_eq, hselection, hsite.blockPoint_eq⟩

/-- Where text is inserted in a regular document whose selection has valid ends, it takes the place
of the selection. -/
theorem insertText_replaces (hd : d.Regular) {s : Range} (hselection : d.selection = some s)
    (hs : d.AddressesBoth s) {t : Text} {p : Patch} {d' : Document}
    (h : d.apply (.insertText t) = (.ok p, d')) : d.Replaced s t d' := by
  obtain ⟨e, d₁, htyped, rfl⟩ :=
    exists_of_apply_ok rfl h (EditM.answers_insertText hd hselection hs t)
  obtain ⟨σ, q, marks, hbetween, hstart, htarget, hin⟩ := htyped.seam
  rw [finished]
  split
  next hnil =>
    obtain ⟨rfl, rfl, hcollapsed⟩ := htyped.idle hnil
    exact hd.replaced_self hselection hs hcollapsed
  next =>
    rw [htarget, Option.some_or]
    obtain ⟨_, _, _, hsite⟩ := hd.exists_site hs.start_stop.1
    obtain ⟨_, _, _, hsite'⟩ := hd.exists_site hs.start_stop.2
    refine ⟨hd.charsBefore_start_le hsite hsite', ⟨marks, ?_⟩, ?_, ?_, ?_⟩
    · rw [marked_committed, hin.marked_eq, hbetween.before, hbetween.after]
      simp only [List.append_assoc]
    · obtain ⟨path, b, hb, hkind, -⟩ := hin.exists_in_normalize
      exact ⟨σ.block, path, b, hbetween.block, hb.blockAt?, hb.id_eq.trans hin.block_eq, hkind⟩
    · intro path b hb hleaf hout
      have htext := (hd.isTextBlock_eq hb).trans hleaf
      exact hin.mem_committed _ (hbetween.outside path b hb htext hout) (hd.settled_of_blockAt? hb) htext
    · obtain ⟨r, hr, hpoint⟩ := hin.exists_selection_committed
      exact ⟨q, r, hstart, hr, hpoint⟩

/-- A selection backward from a quotation to a heading, across an image. -/
theorem insertText_replaces_backward :
    let d := (ofBlocks [.ofText (.heading 2) ['a', 'b'], .ofText (.image "a.png") ['c'],
      .ofKind .quote [.block (.ofText .paragraph ['d', 'e']), .block (.ofText .paragraph ['f'])]]).run
        [.select ⟨⟨[2, 0, 0], 1⟩, ⟨[0, 0], 1⟩⟩]
    d.Replaced ⟨⟨[2, 0, 0], 1⟩, ⟨[0, 0], 1⟩⟩ ['é'] (d.perform (.insertText ['é'])) ∧
      (d.perform (.insertText ['é'])).blocks.map Block.text = [['a', 'é', 'e'], ['f']] := by
  intro d
  have hsound : ∀ b ∈ [Block.ofText (.heading 2) ['a', 'b'], .ofText (.image "a.png") ['c'],
      .ofKind .quote [.block (.ofText .paragraph ['d', 'e']), .block (.ofText .paragraph ['f'])]],
      b.Everywhere Block.Sound := by
    simp only [List.forall_mem_cons]
    exact ⟨Block.everywhere_sound_ofText _ _, Block.everywhere_sound_ofText _ _,
      Block.everywhere_sound_ofKind _ (.inr (Node.areBlocks_map_block [_, _]))
        ⟨Block.everywhere_sound_ofText _ _, Block.everywhere_sound_ofText _ _, trivial⟩,
      fun b hb => absurd hb List.not_mem_nil⟩
  have hd : d.Regular := regular_run hsound (List.forall_mem_singleton.mpr trivial)
  have hs : d.AddressesBoth ⟨⟨[2, 0, 0], 1⟩, ⟨[0, 0], 1⟩⟩ :=
    ⟨addresses_iff.mpr ⟨⟨4, 1⟩, by rfl⟩, addresses_iff.mpr ⟨⟨1, 1⟩, by rfl⟩⟩
  exact ⟨insertText_replaces hd (by rfl) hs (by rfl), by rfl⟩

end Document

end BlockNotes
