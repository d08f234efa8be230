import BlockNotes.Proofs.Document.Clearing
import BlockNotes.Proofs.Document.Descent
import BlockNotes.Proofs.Document.Reversal

/-!
# What a patch tells

A patch is believed by everything that looks at a document: whether the version grew, and
which blocks have to be drawn again.  But the list of its blocks is put together by hand, in each
command and on each of its ways out.

What is asked of the list is a frame.  An edit *spares* the blocks that hold text, with some
exceptions, if all others are still there with their kinds and leaves
(`Document.Spares`).  Steps at one place spare what is elsewhere (`Document.Swapped.spares`),
and one step after another makes exceptions of what either of them does
(`Document.Spares.trans`).  A deletion is seen as a whole: what it leaves to the left and to the
right of its range is in its seam, and it names everything else (`EditM.answers_deleteRange_named`).

So the exceptions of every command are blocks that it names, and blocks that are gone
(`EditM.answers_edit_spares`).  Bringing the tree into normal form changes neither a kind nor a
text, and from this it follows that a patch is right (`Document.apply_reports`).
-/

namespace BlockNotes

namespace Node

theorem holders_of_leaves {ns : List Node} (h : AreLeaves ns) : holders ns = [] := by
  rw [holders, blocksOf_of_areLeaves h, List.filter_nil]

/-- The holders of a block are the block, if it has a leaf, and those below it. -/
theorem mem_holders_cons {a b : Block} {ns : List Node} : a ∈ holders (.block b :: ns) ↔
    (a = b ∧ b.children.any isLeaf = true) ∨ a ∈ holders b.children ∨ a ∈ holders ns := by
  simp only [holders, blocksOf_block, List.mem_filter, List.mem_cons, List.mem_append]
  grind

/-- What a block holds is held by every block with the same children. -/
theorem mem_holders_block_of_children {a b : Block} {ns : List Node}
    (h : a ∈ holders b.children) : a ∈ holders (.block b :: ns) :=
  mem_holders_cons.mpr (.inr (.inl h))

theorem eq_of_mem_holders {a b : Block} (hb : b.isTextBlock = true)
    (h : a ∈ holders [.block b]) : a = b := by
  rw [mem_holders_cons, holders_of_leaves (areLeaves_iff.mpr hb)] at h
  simpa using h.imp_left And.left

theorem id_mem_of_mem_holders {a b : Block} (h : a ∈ holders [.block b]) : a.id ∈ b.ids := by
  have hid := List.mem_map_of_mem (f := Block.id) (List.mem_filter.mp h).1
  rwa [map_id_blocksOf, idsOf_block, idsOf_nil, List.append_nil, ← Block.ids_eq] at hid

end Node

/-- A block of blocks holds no text itself, and its pieces hold what it held. -/
theorem Block.Parted.holders_eq {parent b : Block} {front back new : List Node}
    {fresh next : BlockId} (h : parent.Parted front b back fresh new next)
    (hparent : parent.children = front ++ .block b :: back)
    (hblocks : Node.AreBlocks (front ++ .block b :: back)) :
    Node.AreBlocks new ∧ Node.holders new = Node.holders [.block parent] := by
  have hkept : ∀ (id : BlockId) (kind : Kind) (ns ms : List Node), Node.AreBlocks ns →
      Node.holders (.block ⟨id, kind, ns⟩ :: ms) = Node.holders ns ++ Node.holders ms :=
    fun _ _ _ _ hns => Node.holders_of_areBlocks hns
  have hcons : ∀ ms, Node.holders (.block b :: ms) = Node.holders [.block b] ++ Node.holders ms :=
    Node.holders_append [.block b]
  obtain ⟨id, kind, children⟩ := parent
  obtain rfl : children = front ++ .block b :: back := hparent
  rw [hkept _ _ _ _ hblocks, Node.holders_append, hcons]
  rw [Node.areBlocks_append, Node.areBlocks_cons] at hblocks
  obtain ⟨hfront, -, hback⟩ := hblocks
  cases h with
  | only hnil hnil' => exact ⟨Node.areBlocks_block, by simp [hnil, hnil']⟩
  | first hnil hne =>
    refine ⟨Node.areBlocks_map_block [b, ⟨id, kind, back⟩], ?_⟩
    rw [hcons, hkept _ _ _ _ hback, hnil]
    simp
  | last hne hnil =>
    refine ⟨Node.areBlocks_map_block [⟨id, kind, front⟩, b], ?_⟩
    rw [hkept _ _ _ _ hfront, hnil]
    simp
  | middle hne hne' =>
    refine ⟨Node.areBlocks_map_block [⟨id, kind, front⟩, b, ⟨fresh, kind.canonical, back⟩], ?_⟩
    rw [hkept _ _ _ _ hfront, hcons, hkept _ _ _ _ hback]
    simp

namespace Document

variable {d d' d'' : Document} {path : Path} {b : Block} {new : List Node} {next : BlockId}

/-! ## Blocks that are spared -/

/-- The blocks that hold text are as before in an edited tree of blocks, with some exceptions. -/
structure Spares (except : Block → Prop) (d d' : Document) : Prop where
  areBlocks : Node.AreBlocks d'.children
  kept : ∀ a ∈ Node.holders d.children, a ∈ Node.holders d'.children ∨ except a

namespace Spares

variable {P Q : Block → Prop}

theorem refl (h : Node.AreBlocks d.children) : d.Spares P d :=
  ⟨h, fun _ ha => .inl ha⟩

theorem mono (h : d.Spares P d') (hPQ : ∀ a, P a → Q a) : d.Spares Q d' :=
  ⟨h.areBlocks, fun a ha => (h.kept a ha).imp_right (hPQ a)⟩

/-- What is spared by two edits is spared by both of them together. -/
theorem trans (h : d.Spares P d') (h' : d'.Spares P d'') : d.Spares P d'' :=
  ⟨h'.areBlocks, fun a ha => (h.kept a ha).elim (h'.kept a) .inr⟩

end Spares

/-- What comes in the place of a block spares what is elsewhere. -/
theorem Swapped.spares {P : Block → Prop} (hd : Node.Uniform d.children)
    (h : d.Swapped path b new d') (hnew : Node.AreBlocks new)
    (hkept : ∀ a ∈ Node.holders [.block b], a ∈ Node.holders new ∨ P a) : d.Spares P d' := by
  obtain ⟨xs, ys, hholders, hholders'⟩ := h.exists_holders hd hnew
  refine ⟨h.areBlocks hd hnew, ?_⟩
  intro a ha
  rw [hholders, List.mem_append, List.mem_append] at ha
  rw [hholders', List.mem_append, List.mem_append]
  rcases ha with (hxs | hb) | hys
  · exact .inl (.inl (.inl hxs))
  · exact (hkept a hb).imp_left fun hnew => .inl (.inr hnew)
  · exact .inl (.inr hys)

/-- What comes in the place of a block of leaves spares all but this block. -/
theorem Swapped.spares_text {P : Block → Prop} (hd : Node.Uniform d.children)
    (h : d.Swapped path b new d') (hb : b.isTextBlock = true) (hnew : Node.AreBlocks new)
    (hP : P b) : d.Spares P d' :=
  h.spares hd hnew fun _ ha => .inr (Node.eq_of_mem_holders hb ha ▸ hP)

/-- The identities of a block that goes away are gone. -/
theorem Exchanged.not_mem_ids (hd : d.ids.Nodup) (h : d.Exchanged path b [] next d') {i : BlockId}
    (hi : i ∈ b.ids) : i ∉ d'.ids := by
  obtain ⟨parent, front, back, -, hcs, rfl⟩ := h
  have hcount := Node.count_idsOf_setChildren hcs (front ++ [] ++ back) i
  have hone := List.nodup_iff_count_le_one.mp hd i
  have hpos := List.count_pos_iff.mpr hi
  rw [ids] at hone
  rw [Block.ids_eq] at hpos
  rw [← List.count_eq_zero, ids]
  simp only [Node.idsOf_append, Node.idsOf_block, Node.idsOf_nil, List.count_append,
    List.count_cons, List.count_nil] at hcount hpos ⊢
  omega

/-- Taking a block away spares all blocks that are not gone. -/
theorem Exchanged.spares_of_removed (hd : d.Regular) (h : d.Exchanged path b [] next d') :
    d.Spares (·.id ∉ d'.ids) d' :=
  h.swapped.spares hd.uniform (List.forall_mem_nil _) fun _ ha =>
    .inr (h.not_mem_ids hd.nodup (Node.id_mem_of_mem_holders ha))

/-- The holders on both sides of a seam are there. -/
theorem Seam.In.mem_holders {σ : Seam} {p : BlockPoint} (h : σ.In d p) {a : Block}
    (ha : a ∈ σ.left ++ σ.right) : a ∈ Node.holders d.children := by
  obtain ⟨ns, -, -, -, hholders⟩ := h.holders
  rw [hholders, List.mem_append, List.mem_cons]
  exact (List.mem_append.mp ha).imp_right .inr

end Document

namespace EditM

open Document

variable {d d' : Document} {path : Path} {b : Block}

/-! ## Deletions -/

/-- A deletion needs a place for both ends of its range. -/
theorem answers_deleteRange_addresses (r : Range) :
    Answers (deleteRange r) d fun _ _ => d.Addresses r.start ∧ d.Addresses r.stop := by
  unfold deleteRange
  refine .get (.ofExcept ?_)
  intro start hstart
  refine .ofExcept ?_
  intro stop hstop _ _ _
  exact ⟨addresses_iff.mpr ⟨start, hstart⟩, addresses_iff.mpr ⟨stop, hstop⟩⟩

/-- A text block is named if it is neither to the left of a range nor to its right. -/
def NamedIn (d : Document) (r : Range) (changed : List BlockId) : Prop :=
  ∀ path a, d.blockAt? path = some a → a.isTextBlock = true →
    path < r.start.path.dropLast ∨ a.id ∈ changed ∨ r.stop.path.dropLast < path

/-- Within one block a deletion names it. -/
theorem namedIn_singleton {r : Range} {p : Path} (hb : d.blockAt? p = some b)
    (hstart : r.start.path.dropLast = p) (hstop : r.stop.path.dropLast = p) :
    NamedIn d r [b.id] := by
  intro path a ha _
  rw [hstart, hstop]
  by_cases hlt : path < p
  · exact .inl hlt
  · by_cases hgt : p < path
    · exact .inr (.inr hgt)
    · cases List.le_antisymm hgt hlt
      cases hb.symm.trans ha
      exact .inr (.inl List.mem_cons_self)

/-- From one text block to a later one a deletion names the first one, and those that follow it up
to the last one. -/
theorem namedIn_stretch (hd : d.ids.Nodup) {r : Range} {p q : Path} {b c : Block} {i j : Nat}
    (hb : (d.matching Block.isTextBlock)[i]? = some (p, b))
    (hc : (d.matching Block.isTextBlock)[j]? = some (q, c))
    (hstart : r.start.path.dropLast = p) (hstop : r.stop.path.dropLast = q) :
    NamedIn d r (b.id ::
      (((d.matching Block.isTextBlock).drop (i + 1)).take (j - i)).map fun (_, x) => x.id) := by
  intro path a ha htext
  have hmem : (path, a) ∈ d.matching Block.isTextBlock :=
    mem_matching.mpr ⟨ha, htext⟩
  obtain ⟨k, hk⟩ := List.getElem?_of_mem hmem
  rw [hstart, hstop]
  rcases Nat.lt_trichotomy k i with hlt | rfl | hgt
  · exact .inl (before_of_getElem? hd hlt hk hb).lt
  · cases hk.symm.trans hb
    exact .inr (.inl List.mem_cons_self)
  · by_cases hle : k ≤ j
    · refine .inr (.inl (List.mem_cons_of_mem _ (List.mem_map.mpr ⟨(path, a), ?_, rfl⟩)))
      refine List.mem_of_getElem? (i := k - (i + 1)) ?_
      rw [List.getElem?_take_of_lt (by omega), List.getElem?_drop, Nat.add_sub_cancel' hgt]
      exact hk
    · exact .inr (.inr (before_of_getElem? hd (Nat.lt_of_not_le hle) hc hk).lt)

/-- A text block is found by its identity in the order of the text blocks. -/
theorem getElem?_of_findIdx? (hd : d.ids.Nodup) (hb : d.blockAt? path = some b) {i : Nat}
    (h : (d.matching Block.isTextBlock).findIdx? (fun (_, x) => x.id == b.id) = some i) :
    (d.matching Block.isTextBlock)[i]? = some (path, b) := by
  obtain ⟨hi, hid, -⟩ := List.findIdx?_eq_some_iff_getElem.mp h
  rw [List.getElem?_eq_getElem hi, (getElem_matching_of_id_eq hd hb hi (eq_of_beq hid)).1]

/-- A deletion names all text blocks from the one at its start up to the one at its end. -/
theorem answers_deleteRange_named (hd : d.ids.Nodup) (r : Range) :
    Answers (deleteRange r) d fun x _ => NamedIn d r x.2 := by
  unfold deleteRange
  refine .get (.ofExcept ?_)
  intro start hstart
  refine .ofExcept ?_
  intro stop hstop
  obtain ⟨p, _, b, _, hp, hb, -, -, rfl⟩ := exists_leaf_of_blockPoint hstart
  obtain ⟨q, _, c, _, hq, hc, -, -, rfl⟩ := exists_leaf_of_blockPoint hstop
  have hp' : r.start.path.dropLast = p := by rw [hp, List.dropLast_concat]
  have hq' : r.stop.path.dropLast = q := by rw [hq, List.dropLast_concat]
  split
  next hsame =>
    obtain ⟨rfl, -⟩ := eq_of_id_eq hd hb hc hsame
    exact .skip fun _ _ => .pure (namedIn_singleton hb hp' hq')
  next =>
    dsimp only
    split
    next first last hfirst hlast =>
      have hnamed := namedIn_stretch hd (getElem?_of_findIdx? hd hb hfirst)
        (getElem?_of_findIdx? hd hc hlast) hp' hq'
      split
      next => exact .throw
      next =>
        -- Whether the block at the end is there or not, the answer is the same.
        split
        next => exact .skip fun _ _ => .skip fun _ _ => .skip fun _ _ => .pure hnamed
        next =>
          split
          next => exact .skip fun _ _ => .skip fun _ _ => .skip fun _ _ => .pure hnamed
          next =>
            exact .skip fun _ _ => .modify
              (.skip fun _ _ => .skip fun _ _ => .skip fun _ _ => .pure hnamed)
    next => exact .throw

/-- A deletion leaves a seam behind, and spares the blocks that it does not name. -/
theorem answers_deleteRange_spares (hd : d.Regular) (r : Range) :
    Answers (deleteRange r) d fun x d' => (∃ σ : Seam, σ.In d' x.1) ∧ d.Spares (·.id ∈ x.2) d' := by
  intro x d' hok
  obtain ⟨hstart, hstop⟩ := answers_deleteRange_addresses r x d' hok
  have hnamed := answers_deleteRange_named hd.nodup r x d' hok
  obtain ⟨σ, hin, hplain, hvoid⟩ := ((certain_excise hd hstart hstop).answers x d' hok).seam
  have houtside : ∀ path a, d.blockAt? path = some a → a.isTextBlock = true →
      path < r.start.path.dropLast ∨ r.stop.path.dropLast < path → a ∈ σ.left ++ σ.right := by
    by_cases hinto : d.IntoVoid r
    · obtain ⟨e, hend, hbetween⟩ := hvoid hinto
      obtain ⟨q, c, n, hsite⟩ := hd.exists_site hstop
      obtain ⟨e', hend', hsite'⟩ := hsite.exists_endOf
      rw [hsite.above_eq] at hend ⊢
      cases hend.symm.trans hend'
      rw [← hsite'.above_eq]
      exact hbetween.outside
    · exact (hplain hinto).outside
  refine ⟨⟨σ, hin⟩, hin.uniform.areBlocks, ?_⟩
  intro a ha
  obtain ⟨hmem, hleaf⟩ := List.mem_filter.mp ha
  obtain ⟨path, hpath⟩ := mem_blocksOf.mp hmem
  have htext := (hd.isTextBlock_eq hpath).trans hleaf
  rcases hnamed path a hpath htext with hleft | hname | hright
  · exact .inl (hin.mem_holders (houtside path a hpath htext (.inl hleft)))
  · exact .inr hname
  · exact .inl (hin.mem_holders (houtside path a hpath htext (.inr hright)))

/-! ## Text commands -/

/-- Changing the children of a text block spares all others. -/
theorem answers_editChildren_spares (hd : d.ids.Nodup) (huniform : Node.Uniform d.children)
    (hb : d.blockAt? path = some b) (htext : b.isTextBlock = true)
    (f : Block → Option (List Node)) :
    Answers (editChildren b.id f) d fun _ => d.Spares (·.id = b.id) := by
  refine (answers_editChildren_eq hd hb f).mono ?_
  rintro _ _ ⟨ns, -, rfl⟩
  exact (Swapped.setChildren hb ns).spares_text huniform htext Node.areBlocks_block rfl

/-- What is done at a seam spares the blocks that it names. -/
def SparesAt (f : BlockPoint × List BlockId → EditM Effect) : Prop :=
  ∀ (d : Document) (x : BlockPoint × List BlockId) (σ : Seam), σ.In d x.1 →
    Answers (f x) d fun e d' => x.2 ⊆ e.changed ∧ d.Spares (·.id ∈ e.changed) d'

theorem sparesAt_insertAt (text : Text) : SparesAt (insertAt text) := by
  intro d x σ hin
  unfold insertAt
  refine (checked_editable x.1.block).answers.bind ?_
  rintro b _ ⟨rfl, hid, htext, -, path, hb⟩
  split
  next => exact .pure ⟨List.Subset.refl _, .refl hin.uniform.areBlocks⟩
  next =>
    rw [← hid]
    refine (answers_editChildren_spares hin.nodup hin.uniform hb htext _).bind ?_
    intro _ d' hd'
    refine .pure ⟨List.subset_append_left _ _, hd'.mono ?_⟩
    intro a ha
    exact List.mem_append_right _ (List.mem_singleton.mpr ha)

theorem sparesAt_splitAt : SparesAt splitAt := by
  intro d x σ hin
  obtain ⟨path, b, hpath, htext, -⟩ := hin.exists_in
  refine (certain_splitAt hin.nodup hpath htext x.2).answers.mono ?_
  rintro e d' ⟨path', c, cut, rest, hpath', hctext, -, rfl, hexchanged⟩
  refine ⟨List.subset_append_left _ _, hexchanged.swapped.spares_text hin.uniform hctext
    (Node.areBlocks_map_block [_, _]) ?_⟩
  rw [hpath'.id_eq]
  exact List.mem_append_right _ List.mem_cons_self

/-- Clearing the selection leaves a seam behind, and spares the blocks that it does not name. -/
theorem answers_clearing_spares (hd : d.Regular) {s : Range} {anchor : BlockPoint}
    (hanchor : d.blockPoint s.anchor = .ok anchor) :
    Answers (clearing s anchor) d fun x d' =>
      (∃ σ : Seam, σ.In d' x.1) ∧ d.Spares (·.id ∈ x.2) d' := by
  unfold clearing
  split
  next =>
    obtain ⟨path, b, n, hsite⟩ := hd.exists_site (addresses_iff.mpr ⟨anchor, hanchor⟩)
    cases hsite.blockPoint_eq.symm.trans hanchor
    obtain ⟨σ, hin, -⟩ := Seam.exists_of_site hd hsite
    exact .pure ⟨⟨σ, hin⟩, .refl hd.uniform.areBlocks⟩
  next =>
    refine .get (.ofExcept ?_)
    intro start _
    refine (checked_editable start.block).answers.bind ?_
    rintro _ _ ⟨rfl, -⟩
    exact answers_deleteRange_spares hd s

/-- What is done where the selection has been cleared. -/
theorem SparesAt.answers {f : BlockPoint × List BlockId → EditM Effect} (hf : SparesAt f)
    (hd : d.Regular) {s : Range} {anchor : BlockPoint}
    (hanchor : d.blockPoint s.anchor = .ok anchor) :
    Answers (clearing s anchor >>= f) d fun e d' => d.Spares (·.id ∈ e.changed) d' := by
  refine (answers_clearing_spares hd hanchor).bind ?_
  rintro x d₁ ⟨⟨σ, hin⟩, hcleared⟩
  refine (hf d₁ x σ hin).mono ?_
  rintro e d' ⟨hsub, hspares⟩
  exact (hcleared.mono fun _ ha => hsub ha).trans hspares

/-- Joining a block to the end of the one before it names both. -/
theorem answers_join_spares (hd : d.Regular) {p q : Path} {b c : Block} (hb : d.blockAt? p = some b)
    (hc : d.blockAt? q = some c) (hbtext : b.isTextBlock = true) (hctext : c.isTextBlock = true)
    (hpq : Path.Before p q) (e : Effect) :
    Answers
      (do
        putChildren q []
        editChildren b.id fun b => some (b.children ++ c.children)
        removeNode q
        pure e)
      d fun e' d' => e' = e ∧ d.Spares (·.id ∈ [b.id, c.id]) d' := by
  refine (answers_join hd.nodup hb hc hpq e).mono ?_
  rintro _ d' ⟨rfl, d₁, d₂, hcut, hjoin, hremove, -⟩
  have hleaves : Node.AreLeaves (b.children ++ c.children) :=
    Node.areLeaves_append.mpr ⟨Node.areLeaves_iff.mpr hbtext, Node.areLeaves_iff.mpr hctext⟩
  have hd₁ := hcut.swapped.uniform hd.uniform (Node.uniform_of_areLeaves (List.forall_mem_nil _))
  have hd₂ := hjoin.swapped.uniform hd₁ (Node.uniform_of_areLeaves hleaves)
  have hgone : ({ c with children := [] } : Block).isTextBlock = true := rfl
  exact ⟨rfl, (hcut.swapped.spares_text hd.uniform hctext Node.areBlocks_block (by simp)).trans
    ((hjoin.swapped.spares_text hd₁ hbtext Node.areBlocks_block (by simp)).trans
      (hremove.swapped.spares_text hd₂ hgone (List.forall_mem_nil _) (by simp)))⟩

/-! ## Edits and what they account for -/

/-- A block is one of those that an edit names, or it is gone. -/
def Accounted (e : Effect) (d' : Document) (b : Block) : Prop :=
  b.id ∈ e.changed ∨ b.id ∉ d'.ids

theorem spares_accounted {e : Effect} (h : d.Spares (·.id ∈ e.changed) d') :
    d.Spares (Accounted e d') d' :=
  h.mono fun _ => .inl

/-- Joining to an image takes it away, and joining to another block names both. -/
theorem answers_mergeIntoPrevious_spares (hd : d.Regular) (id : BlockId) :
    Answers (mergeIntoPrevious id) d fun e d' => d.Spares (Accounted e d') d' := by
  unfold mergeIntoPrevious
  refine .get ?_
  dsimp only
  split
  next => exact .throw
  next => exact .pure (.refl hd.uniform.areBlocks)
  next position hposition =>
    split
    next p b q c hb hc =>
      have hbefore : Path.Before p q :=
        before_of_getElem? hd.nodup (Nat.lt_succ_self position) hb hc
      obtain ⟨_, hid, -⟩ := List.findIdx?_eq_some_iff_getElem.mp hposition
      obtain ⟨hb, hbtext⟩ := mem_matching.mp (List.mem_of_getElem? hb)
      obtain ⟨hc', hctext⟩ := mem_matching.mp (List.mem_of_getElem? hc)
      split
      next =>
        refine (certain_removeNode_exchanged hb).answers.bind ?_
        intro _ d' hremove
        exact .pure ((hremove.spares_of_removed hd).mono fun _ => .inr)
      next =>
        rw [(List.getElem?_eq_some_iff.mp hc).2] at hid
        cases beq_iff_eq.mp hid
        rw [hc']
        refine (answers_join_spares hd hb hc' hbtext hctext hbefore _).mono ?_
        rintro _ d' ⟨rfl, hspares⟩
        exact spares_accounted hspares
    next => exact .throw

theorem answers_deleteBackward_spares (hd : d.Regular) (unit : DeleteUnit) :
    Answers (deleteBackward unit) d fun e d' => d.Spares (Accounted e d') d' := by
  unfold deleteBackward
  refine answers_selectionPoint.bind ?_
  rintro ⟨r, p⟩ _ ⟨rfl, -, -⟩
  dsimp only
  split
  next =>
    refine (answers_deleteRange_spares hd r).bind ?_
    rintro ⟨start, changed⟩ d' ⟨-, hspares⟩
    exact .pure (spares_accounted hspares)
  next =>
    refine (checked_editable p.block).answers.bind ?_
    rintro b _ ⟨rfl, hid, htext, -, path, hb⟩
    split
    next =>
      refine .orLost ?_
      intro start _
      rw [← hid]
      refine (answers_editChildren_spares hd.nodup hd.uniform hb htext _).bind ?_
      intro _ d' hspares
      exact .pure (hspares.mono fun _ ha => .inl (List.mem_singleton.mpr ha))
    next => exact answers_mergeIntoPrevious_spares hd p.block

/-- Inserting a text and splitting a block go on where the selection has been cleared. -/
theorem answers_insertText_spares (hd : d.Regular) (text : Text) :
    Answers (insertText text) d fun e d' => d.Spares (Accounted e d') d' := by
  rw [insertText_eq]
  refine answers_selectionPoint.bind ?_
  rintro ⟨s, anchor⟩ _ ⟨rfl, -, hanchor⟩
  exact ((sparesAt_insertAt text).answers hd hanchor).mono fun _ _ => spares_accounted

theorem answers_splitBlock_spares (hd : d.Regular) :
    Answers splitBlock d fun e d' => d.Spares (Accounted e d') d' := by
  rw [splitBlock_eq]
  refine answers_selectionPoint.bind ?_
  rintro ⟨s, anchor⟩ _ ⟨rfl, -, hanchor⟩
  refine (checked_editable anchor.block).answers.bind ?_
  rintro _ _ ⟨rfl, -⟩
  exact (sparesAt_splitAt.answers hd hanchor).mono fun _ _ => spares_accounted

/-- Changing a kind names the block; what is below it stays. -/
theorem answers_setKind_spares (hd : d.Regular) (path : Path) (kind : Kind) :
    Answers (setKind path kind) d fun e d' => d.Spares (Accounted e d') d' := by
  refine (checked_setKind_exchanged path kind).answers.mono ?_
  rintro _ d' ⟨b, -, rfl, hexchanged⟩
  refine hexchanged.swapped.spares hd.uniform Node.areBlocks_block ?_
  intro a ha
  rcases Node.mem_holders_cons.mp ha with ⟨rfl, -⟩ | hbelow | hnone
  · exact .inr (.inl List.mem_cons_self)
  · exact .inl (Node.mem_holders_block_of_children hbelow)
  · cases hnone

/-- Wrapping names the new block, and the one in it stays. -/
theorem answers_wrapBlock_spares (hd : d.Regular) (path : Path) (kind : Kind) :
    Answers (wrapBlock path kind) d fun e d' => d.Spares (Accounted e d') d' := by
  refine (checked_wrapBlock_exchanged path kind).answers.mono ?_
  rintro _ d' ⟨b, -, rfl, hexchanged⟩
  refine hexchanged.swapped.spares hd.uniform Node.areBlocks_block ?_
  exact fun a ha => .inl (Node.mem_holders_block_of_children ha)

theorem answers_unwrapBlock_spares (hd : d.Regular) (path : Path) :
    Answers (unwrapBlock path) d fun e d' => d.Spares (Accounted e d') d' := by
  refine (checked_unwrapBlock_exchanged path).answers.mono ?_
  rintro _ d' ⟨b, -, hblocks, rfl, hexchanged⟩
  refine hexchanged.swapped.spares hd.uniform hblocks ?_
  intro a ha
  rw [Node.holders_of_areBlocks hblocks, Node.holders_nil, List.append_nil] at ha
  exact .inl ha

theorem answers_liftBlock_spares (hd : d.Regular) (path : Path) :
    Answers (liftBlock path) d fun e d' => d.Spares (Accounted e d') d' := by
  refine (checked_liftBlock_lifted path).answers.mono ?_
  rintro _ d' ⟨b, -, rfl, parentPath, parent, front, back, new, next, -, hparent, hparted, hexchanged⟩
  have hsort : Node.Homogeneous parent.children :=
    Node.everywhere_iff.mp hd.uniform.homogeneous parentPath parent hexchanged.blockAt?
  obtain ⟨hnew, hholders⟩ := hparted.holders_eq hparent (hparent ▸ hsort).areBlocks
  exact hexchanged.swapped.spares hd.uniform hnew fun a ha => .inl (hholders ▸ ha)

theorem answers_insertBlock_spares (hd : d.Regular) (path : Path) (block : Block) :
    Answers (insertBlock path block) d fun e d' => d.Spares (Accounted e d') d' := by
  refine (checked_insertBlock_putIn path block).answers.mono ?_
  rintro _ d' ⟨rfl, hput⟩
  have hinserted := hput.inserted hd
  exact ⟨(hinserted.areBlocks hd).2, fun a ha => .inl (hinserted.holders_subset hd ha)⟩

theorem answers_removeBlock_spares (hd : d.Regular) (path : Path) (saved : Option BlockRange) :
    Answers (removeBlock path saved) d fun e d' => d.Spares (Accounted e d') d' := by
  unfold removeBlock
  refine .get (.orRefuse ?_)
  intro b hb
  refine (certain_removeNode_exchanged hb).answers.bind ?_
  intro _ d' hremove
  have hspares := hremove.spares_of_removed hd
  split
  next => exact .pure (hspares.mono fun _ => .inr)
  next => exact .pure (hspares.mono fun _ => .inr)

/-- Every edit spares the blocks that are not accounted for. -/
theorem answers_edit_spares (hd : d.Regular) (c : Command) :
    Answers (d.edit c) d fun e d' => d.Spares (Accounted e d') d' := by
  cases c with
  | insertText text => exact answers_insertText_spares hd text
  | deleteBackward unit => exact answers_deleteBackward_spares hd unit
  | deleteRange r =>
    refine (answers_deleteRange_spares hd r).bind ?_
    rintro ⟨start, changed⟩ d' ⟨-, hspares⟩
    exact .pure (spares_accounted hspares)
  | splitBlock => exact answers_splitBlock_spares hd
  | setKind path kind => exact answers_setKind_spares hd path kind
  | wrapBlock path kind => exact answers_wrapBlock_spares hd path kind
  | unwrapBlock path => exact answers_unwrapBlock_spares hd path
  | liftBlock path => exact answers_liftBlock_spares hd path
  | insertBlock path block => exact answers_insertBlock_spares hd path block
  | removeBlock path => exact answers_removeBlock_spares hd path _
  | select r => exact .pure (.refl hd.uniform.areBlocks)

end EditM

/-! ## Patches -/

/-- Bringing a block into normal form changes no text. -/
theorem Block.text_normalize (b : Block) : b.normalize.text = b.text := by
  rw [← Block.map_fst_marked, Block.marked_normalize, Block.map_fst_marked]

namespace Document

variable {d d' d₁ : Document} {p : Patch} {c : Command} {a b : Block} {path : Path}

theorem numbered_finished (d : Document) (saved : Option BlockRange) (e : Effect) :
    Numbered d (d.finished saved e) := by
  rw [finished]
  split
  next => exact .refl d
  next => exact (numbered_normalize d).of_children _ _

/-- A block of leaves in an edited tree keeps its kind and its text when the command is finished. -/
theorem kind_text_finished {saved : Option BlockRange} {e : Effect}
    (hids : (d.finished saved e).ids.Nodup) (hblocks : Node.AreBlocks d.children)
    (ha : a ∈ Node.blocksOf d.children) (htext : a.isTextBlock = true) (hne : a.children ≠ [])
    (hb : (d.finished saved e).blockAt? path = some b) (hid : b.id = a.id) :
    b.kind = a.kind ∧ b.text = a.text := by
  rw [finished] at hids hb
  split at hids
  next hnil =>
    rw [if_pos hnil] at hb
    obtain ⟨q, hq⟩ := mem_blocksOf.mp ha
    obtain ⟨-, rfl⟩ := eq_of_id_eq hids hb hq hid
    exact ⟨rfl, rfl⟩
  next hchanged =>
    rw [if_neg hchanged] at hb
    have hnormal := mem_blocksOf_normalize hblocks htext hne ha
    obtain ⟨q, hq⟩ := mem_blocksOf (d := d.committed (e.target.or saved)).mp hnormal
    obtain ⟨-, rfl⟩ := eq_of_id_eq hids hb hq (hid.trans a.id_normalize.symm)
    exact ⟨a.kind_normalize, a.text_normalize⟩

/-- A block that holds leaves is named by the patch, or it has its kind and its text if it is still
there. -/
theorem named_or_same (hd : d.Regular) (hlt : ∀ i ∈ d.ids, i < d.nextId)
    (h : d.apply c = (.ok p, d')) {path' : Path} (ha : d.blockAt? path = some a)
    (hleaf : a.children.any Node.isLeaf = true) (hb : d'.blockAt? path' = some b)
    (hid : b.id = a.id) : a.id ∈ p.changed ∨ b.kind = a.kind ∧ b.text = a.text := by
  cases hc : c.editsContent with
  | false =>
    cases c with
    | select r =>
      obtain ⟨result, s, hs⟩ := exists_apply_select d r
      cases h.symm.trans hs
      obtain ⟨-, rfl⟩ := eq_of_id_eq hd.nodup hb ha hid
      exact .inr ⟨rfl, rfl⟩
    | _ => cases hc
  | true =>
    obtain ⟨e, d₁, hrun, hchanged, rfl⟩ := exists_edit_of_apply_ok hc h
    have hspares := EditM.answers_edit_spares hd c e d₁ hrun
    have hedited := ((EditM.checked_ofCommand hd.nodup _ c).answers e d₁ hrun).edited
    have hfinished := numbered_finished d₁ (d.selection.bind d.blockRange?) e
    have htext := (hd.isTextBlock_eq ha).trans hleaf
    have hmem : a ∈ Node.holders d.children :=
      List.mem_filter.mpr ⟨mem_blocksOf.mpr ⟨path, ha⟩, hleaf⟩
    rcases hspares.kept a hmem with hkept | hnamed | hgone
    · refine .inr (kind_text_finished ?_ hspares.areBlocks (List.mem_filter.mp hkept).1 htext
        (hd.settled_of_blockAt? ha).nonempty hb hid)
      exact (hedited.toNumbered.trans hfinished).nodup_of_lt hd.nodup hlt
    · exact .inl (hchanged ▸ hnamed)
    · -- An identity that is gone before the end does not come back.
      have hold : a.id < d₁.nextId :=
        Nat.lt_of_lt_of_le (hlt a.id (mem_ids_of_blockAt? ha)) hedited.nextId_le
      exact absurd (hid ▸ mem_ids_of_blockAt? hb) (hfinished.not_mem_of_gone hold hgone)

/-- What a patch tells of a command is so. -/
structure Reports (d : Document) (p : Patch) (d' : Document) : Prop where
  /-- If only the selection is said to have changed, the tree and the version are as before. -/
  selection : p.origin = .selection → d'.children = d.children ∧ d'.version = d.version
  /-- If content is said to have changed, the version is one higher. -/
  content : p.origin = .content → d'.version = d.version + 1
  /-- The patch carries the selection and the version of the document afterwards. -/
  carried : p.selection = d'.selection ∧ p.version = d'.version
  /-- A block that holds leaves and is still there is named if its kind or its text differs. -/
  named : ∀ path path' b b', d.blockAt? path = some b → b.children.any Node.isLeaf = true →
    d'.blockAt? path' = some b' → b'.id = b.id → b'.kind ≠ b.kind ∨ b'.text ≠ b.text →
      b.id ∈ p.changed

/-- Whatever command succeeds in a regular document, its patch is right. -/
theorem apply_reports (hd : d.Regular) (hlt : ∀ i ∈ d.ids, i < d.nextId)
    (h : d.apply c = (.ok p, d')) : d.Reports p d' := by
  have hnamed : ∀ path path' b b', d.blockAt? path = some b → b.children.any Node.isLeaf = true →
      d'.blockAt? path' = some b' → b'.id = b.id → b'.kind ≠ b.kind ∨ b'.text ≠ b.text →
        b.id ∈ p.changed := by
    intro path path' b b' hb hleaf hb' hid hdiffers
    refine (named_or_same hd hlt h hb hleaf hb' hid).resolve_right ?_
    rintro ⟨hkind, htext⟩
    exact hdiffers.elim (fun hne => hne hkind) fun hne => hne htext
  have happlied := applied_apply hd.nodup c
  rw [h] at happlied
  cases happlied with
  | selected s => exact ⟨fun _ => ⟨rfl, rfl⟩, nofun, ⟨rfl, rfl⟩, hnamed⟩
  | committed d₁ changed s edited _ => exact ⟨nofun, fun _ => rfl, ⟨rfl, rfl⟩, hnamed⟩

/-- From a heading into a quotation, across an image: the heading, the image and the paragraph where
the range ends are named. -/
theorem apply_reports_joined :
    let bs := [Block.ofText (.heading 2) ['a', 'b'], .ofText (.image "a.png") ['c'],
      .ofKind .quote [.block (.ofText .paragraph ['d', 'e']), .block (.ofText .paragraph ['f'])]]
    let d := ofBlocks bs
    let c : Command := .deleteRange ⟨⟨[0, 0], 1⟩, ⟨[2, 0, 0], 1⟩⟩
    let p : Patch := ⟨.content, [1, 2, 4], some (.collapsed ⟨[0, 0], 1⟩), 1⟩
    d.apply c = (.ok p, d.perform c) ∧ d.Reports p (d.perform c) := by
  intro bs d c p
  have hsound : ∀ b ∈ bs, b.Everywhere Block.Sound := by
    simp only [bs, List.forall_mem_cons]
    exact ⟨Block.everywhere_sound_ofText _ _, Block.everywhere_sound_ofText _ _,
      Block.everywhere_sound_ofKind _ (.inr (Node.areBlocks_map_block [_, _]))
        ⟨Block.everywhere_sound_ofText _ _, Block.everywhere_sound_ofText _ _, trivial⟩,
      List.forall_mem_nil _⟩
  have hnew := wellNumbered_ofBlocks bs
  have happly : d.apply c = (.ok p, d.perform c) := by rfl
  exact ⟨happly, apply_reports ((isNormal_ofBlocks hsound).regular hnew)
    (fun i hi => (hnew.bounds i hi).2) happly⟩

end Document

end BlockNotes
