import BlockNotes.Proofs.Autoformat.Unformat
import BlockNotes.Proofs.Editor.Saved

/-!
# Toggling a kind that is active

A kind is active if some block on the way to the cursor has its type.  What is done about
it is done at the end of this way: the block with the cursor leaves the list around it, if
there is one, and becomes a paragraph (`EditorM.toggleBlock_active`).  Nothing else
changes.  So the kind is still active afterwards if and only if it was further out.

The way is seen as the list of kinds on it (`Node.kindsTo`).  Where other nodes come in
the place of a block, the kinds on the way to them are those on the way to the block, up
to its parent (`Document.Swapped.kindsTo_inner`).
-/

namespace BlockNotes

theorem Kind.sameType_paragraph {kind : Kind} (h : kind ≠ .paragraph) :
    Kind.paragraph.sameType kind = false := by
  cases kind <;> first | rfl | exact absurd rfl h

namespace Node

/-! ## The kinds on the way to a block -/

/-- The kinds of the blocks on the way to a path, from the outside in. -/
def kindsTo : List Node → Path → List Kind
  | _, [] => []
  | ns, i :: p =>
    match ns[i]?.bind Node.block? with
    | none => []
    | some b => b.kind :: kindsTo b.children p

variable {ns : List Node} {p : Path} {b : Block}

theorem kindsTo_cons {i : Nat} (h : ns[i]?.bind Node.block? = some b) (p : Path) :
    kindsTo ns (i :: p) = b.kind :: kindsTo b.children p := by
  rw [kindsTo, h]

theorem kindsTo_concat {i : Nat} (h : blockAt? ns (p ++ [i]) = some b) :
    kindsTo ns (p ++ [i]) = kindsTo ns p ++ [b.kind] := by
  induction p generalizing ns with
  | nil =>
    rw [List.nil_append, blockAt?_singleton] at h
    exact kindsTo_cons h []
  | cons j p ih =>
    rw [List.cons_append, blockAt?_cons] at h
    obtain ⟨c, hc, hb⟩ := Option.bind_eq_some_iff.mp h
    rw [if_neg (List.append_ne_nil_of_right_ne_nil p (List.cons_ne_nil i []))] at hb
    rw [List.cons_append, kindsTo_cons hc, kindsTo_cons hc, ih hb, List.cons_append]

/-- The kinds on the way to a place do not depend on what is there. -/
theorem Focus.kindsTo_put {cs : List Node} {put : List Node → List Node} (h : Focus ns p cs put)
    (new : List Node) : kindsTo (put new) p = kindsTo ns p := by
  induction h with
  | here ns => rfl
  | step front back b below ih =>
    have hget : ∀ c : Block, (front ++ .block c :: back)[front.length]?.bind Node.block? = some c := by
      intro c
      rw [List.getElem?_append_right (Nat.le_refl _), Nat.sub_self]
      rfl
    rw [kindsTo_cons (hget _), kindsTo_cons (hget _), ih]

/-- The kinds on the way to a path are those of the blocks at its beginnings. -/
theorem filterMap_blockAt?_take (ns : List Node) (p : Path) :
    (List.range p.length).filterMap (fun depth =>
      (blockAt? ns (p.take (depth + 1))).map Block.kind) = kindsTo ns p := by
  induction p generalizing ns with
  | nil => rfl
  | cons i p ih =>
    rw [List.length_cons, List.range_succ_eq_map, List.filterMap_cons, List.filterMap_map,
      List.take_succ_cons, List.take_zero, blockAt?_singleton]
    cases hb : ns[i]?.bind Node.block? with
    | none =>
      have hbelow : ∀ q, blockAt? ns (i :: q) = none := by
        intro q
        rw [blockAt?_cons, hb]
        rfl
      rw [kindsTo, hb]
      simp [hbelow]
    | some b =>
      rw [kindsTo_cons hb, ← ih b.children]
      refine congrArg (b.kind :: ·) (List.filterMap_congr ?_)
      intro depth hdepth
      have hne : p.take (depth + 1) ≠ [] := by
        rw [Ne, List.take_eq_nil_iff, not_or]
        exact ⟨Nat.succ_ne_zero depth,
          List.length_pos_iff.mp (Nat.zero_lt_of_lt (List.mem_range.mp hdepth))⟩
      rw [Function.comp_apply, List.take_succ_cons, blockAt?_cons, hb, Option.bind_some, if_neg hne]

end Node

namespace Document

variable {d d₁ d' : Document} {path : Path} {b c : Block} {k n : Nat} {parent : Path}

/-- The path to what is around a block and the list that it is in, or around the block if it is in no
list. -/
def outside (d : Document) (path : Path) : Path :=
  if DraftM.inList d path then path.dropLast.dropLast else path.dropLast

/-- A block among the nodes that came in is where the kinds around are as they were. -/
theorem Swapped.kindsTo_inner {xs ys : List Node}
    (h : d.Swapped (parent ++ [k]) b (xs ++ .block c :: ys) d') :
    d'.blockAt? (parent ++ [k + xs.length]) = some c ∧
      Node.kindsTo d'.children (parent ++ [k + xs.length]) =
        Node.kindsTo d.children parent ++ [c.kind] := by
  have hc : d'.blockAt? (parent ++ [k + xs.length]) = some c := by
    rw [h.blockAt?_after (by simp)]
    simp [Node.block?]
  refine ⟨hc, ?_⟩
  obtain ⟨parent', front, back, hpath, hcs, hd'⟩ := h
  obtain ⟨rfl, -⟩ := List.append_inj' hpath rfl
  rw [Node.kindsTo_concat hc, hd', (Node.focus_setChildren hcs).kindsTo_put]

/-- A block that comes in the place of a block has the same kinds around it. -/
theorem Swapped.kindsTo_single {kinds : List Kind} (h : d.Swapped path b [.block c] d')
    (hkinds : Node.kindsTo d.children path = kinds ++ [b.kind]) :
    Node.kindsTo d'.children path = kinds ++ [c.kind] := by
  obtain ⟨parent, front, back, rfl, -⟩ := id h
  rw [Node.kindsTo_concat h.blockAt?_before] at hkinds
  rw [← (List.append_inj' hkinds rfl).1]
  have hinner : d.Swapped (parent ++ [front.length]) b ([] ++ .block c :: []) d' := h
  exact hinner.kindsTo_inner.2

/-! ## What is left alone -/

/-- What is written is as it was, and the ends of the selection are where they were in their blocks. -/
structure Undisturbed (d d' : Document) : Prop where
  passages : Node.passages d'.children = Node.passages d.children
  ends : d'.selection.bind d'.blockRange? = d.selection.bind d.blockRange?

theorem Undisturbed.refl (d : Document) : d.Undisturbed d := ⟨rfl, rfl⟩

theorem Undisturbed.trans (h : d.Undisturbed d₁) (h' : d₁.Undisturbed d') : d.Undisturbed d' :=
  ⟨h'.passages.trans h.passages, h'.ends.trans h.ends⟩

theorem blockRange?_eq_some {r : Range} {x : BlockRange} (h : d.blockRange? r = some x) :
    d.blockPoint r.anchor = .ok x.anchor ∧ d.blockPoint r.focus = .ok x.focus := by
  unfold blockRange? at h
  split at h
  next hanchor hfocus =>
    cases h
    exact ⟨hanchor, hfocus⟩
  next => cases h

/-- Moving blocks leaves alone what is written and where it is selected.  A selection of no text is
lost. -/
theorem Regular.undisturbed_of_moves (hd : d.Regular) (hlt : ∀ i ∈ d.ids, i < d.nextId)
    {c : Command} (hc : c.Moves) {p : Patch} (h : d.apply c = (.ok p, d')) :
    d.Undisturbed d' ∧ (d.selection.bind d.blockRange? = none → d'.selection = none) := by
  obtain ⟨e, d₁, hmoved, rfl⟩ := exists_of_apply_ok hc.editsContent h (answers_edit_of_moves hd hlt hc)
  have hrearranged := hmoved.rearranged
  rw [finished, if_neg hmoved.changed, hmoved.target, Option.none_or]
  refine ⟨⟨hrearranged.filled.passages_normalize.trans hrearranged.passages, ?_⟩, ?_⟩
  · cases hsaved : d.selection.bind d.blockRange? with
    | none => rfl
    | some x =>
      obtain ⟨s, -, hrange⟩ := Option.bind_eq_some_iff.mp hsaved
      obtain ⟨hanchor, hfocus⟩ := blockRange?_eq_some hrange
      obtain ⟨q, hq, hqa⟩ := hrearranged.finds hd hanchor
      obtain ⟨q', hq', hqf⟩ := hrearranged.finds hd hfocus
      have hends : d₁.normalize.resolveRange x = ⟨q, q'⟩ := by
        simp only [resolveRange, hq, hq', Option.some_or]
      show d₁.normalize.blockRange? (d₁.normalize.resolveRange x) = some x
      rw [hends, blockRange?, hqa, hqf]
  · intro hnone
    rw [hnone]
    rfl

/-! ## The block with the cursor -/

theorem Regular.currentBlock?_of_ends (hd : d.Regular) (hb : d.blockAt? path = some b)
    {q : BlockPoint} (h : d.selection.bind d.blockRange? = some ⟨⟨b.id, n⟩, q⟩) :
    d.currentBlock? = some (path, b) := by
  obtain ⟨s, hs, hrange⟩ := Option.bind_eq_some_iff.mp h
  have hanchor := (blockRange?_eq_some hrange).1
  obtain ⟨path', b', m, hsite⟩ := hd.exists_site (addresses_iff.mpr ⟨_, hanchor⟩)
  have hid : b'.id = b.id := congrArg BlockPoint.block
    (Except.ok.inj (hsite.blockPoint_eq.symm.trans hanchor))
  obtain ⟨rfl, rfl⟩ := eq_of_id_eq hd.nodup hsite.blockAt? hb hid
  exact currentBlock?_eq hs hsite

/-- The anchor is in a block that holds leaves, or the selection is the fixed point where there is no
text. -/
theorem Usable.ends_of_currentBlock? (hu : d.Usable) (hd : d.Regular)
    (h : d.currentBlock? = some (path, b)) :
    (b.isTextBlock = true ∧ ∃ n q, d.selection.bind d.blockRange? = some ⟨⟨b.id, n⟩, q⟩) ∨
      b.isTextBlock = false ∧ d.selection.bind d.blockRange? = none := by
  obtain ⟨s, hs, habove⟩ := Option.bind_eq_some_iff.mp h
  by_cases haddr : d.AddressesBoth s
  · left
    obtain ⟨path', b', n, hsite⟩ := hd.exists_site haddr.1
    obtain ⟨q, hfocus⟩ := addresses_iff.mp haddr.2
    cases h.symm.trans (currentBlock?_eq hs hsite)
    refine ⟨hsite.isTextBlock, n, q, ?_⟩
    rw [hs, Option.bind_some, blockRange?, hsite.blockPoint_eq, hfocus]
  · right
    rcases hu.selection s hs with hboth | ⟨-, rfl⟩
    · exact absurd hboth haddr
    · have hnot : ¬ d.Addresses ⟨[0, 0], 0⟩ := fun hp => haddr ⟨hp, hp⟩
      obtain ⟨b', hb, hsame⟩ := Option.bind_eq_some_iff.mp
        (show (d.blockAt? [0]).bind (fun b => some ([0], b)) = some (path, b) from habove)
      cases hsame
      refine ⟨?_, ?_⟩
      · rw [hd.isTextBlock_eq hb, Bool.eq_false_iff]
        intro hleaf
        have hleaves := hd.areLeaves hb hleaf
        obtain ⟨node, ns, hns⟩ := List.exists_cons_of_ne_nil (hd.settled_of_blockAt? hb).nonempty
        rw [hns] at hleaves
        cases node with
        | block c => cases hleaves _ List.mem_cons_self
        | leaf l =>
          have hl : b.children[0]? = some (.leaf l) := by rw [hns]; rfl
          exact hnot (addresses_iff.mpr
            ⟨_, (hd.site hb hl (Text.isBoundary_zero _)).blockPoint_eq⟩)
      · rw [hs, Option.bind_some, Option.eq_none_iff_forall_ne_some]
        intro x hx
        exact hnot (addresses_iff.mpr ⟨_, (blockRange?_eq_some hx).1⟩)

/-- A block is outside of the list that it was in, at a path.  Around it is what was around the list. -/
structure TakenOut (d : Document) (path : Path) (b : Block) (path' : Path) (c : Block)
    (d' : Document) : Prop where
  blockAt? : d'.blockAt? path' = some c
  id_eq : c.id = b.id
  kinds : Node.kindsTo d'.children path' = Node.kindsTo d.children (d.outside path) ++ [c.kind]
  undisturbed : d.Undisturbed d'

/-- An item of a list is lifted out of it. -/
theorem Regular.exists_takenOut (hd : d.Regular) (hlt : ∀ i ∈ d.ids, i < d.nextId)
    (hb : d.blockAt? path = some b) (hin : DraftM.inList d path = true) :
    ∃ p path' d', d.apply (.liftBlock path) = (.ok p, d') ∧ d'.Regular ∧
      d.TakenOut path b path' b d' := by
  obtain ⟨above, i, list, rfl, hlist, hkind⟩ := DraftM.exists_parent_of_inList hin
  obtain ⟨p, d', front, back, new, next, happly, -, hparted, hrebuilt⟩ :=
    hd.exists_lifted hlt hb hlist hkind
  have hswapped := hrebuilt.swapped
  rw [hparted.eq_around hkind] at hswapped
  obtain ⟨grandparent, _, _, rfl, -⟩ := id hswapped
  obtain ⟨hb', hkinds⟩ := hswapped.kindsTo_inner
  refine ⟨p, _, d', happly, hrebuilt.regular, hb', rfl, ?_,
    (hd.undisturbed_of_moves hlt (c := .liftBlock _) trivial happly).1⟩
  rw [hkinds, outside, if_pos hin, List.dropLast_concat, List.dropLast_concat]

theorem takenOut_refl (hb : d.blockAt? path = some b) (hin : DraftM.inList d path = false) :
    d.TakenOut path b path b d := by
  refine ⟨hb, rfl, ?_, .refl d⟩
  obtain ⟨parent, _, _, rfl, -⟩ := Node.exists_siblings_of_blockAt? hb
  rw [Node.kindsTo_concat hb, outside, hin, if_neg Bool.false_ne_true, List.dropLast_concat]

/-- What was taken out becomes a paragraph in its place. -/
theorem TakenOut.exists_setKind {path' : Path} (h : d.TakenOut path b path' b d₁) (hd : d₁.Regular)
    (hlt : ∀ i ∈ d₁.ids, i < d₁.nextId) :
    ∃ p d' c, d₁.apply (.setKind path' .paragraph) = (.ok p, d') ∧ d'.Regular ∧
      d.TakenOut path b path' c d' ∧ c.kind = .paragraph ∧
      (d.selection.bind d.blockRange? = none → d'.selection = none) := by
  obtain ⟨p, d', c, happly, hrebuilt, hrecast, -⟩ := hd.exists_setKind h.blockAt? .paragraph
  obtain ⟨hundisturbed, hnone⟩ := hd.undisturbed_of_moves hlt (c := .setKind _ _) trivial happly
  refine ⟨p, d', c, happly, hrebuilt.regular, ⟨hrebuilt.swapped.blockAt?_single, hrecast.id_eq,
    hrebuilt.swapped.kindsTo_single h.kinds, h.undisturbed.trans hundisturbed⟩, hrecast.kind_eq, ?_⟩
  rw [← h.undisturbed.ends]
  exact hnone

/-- The block with the anchor is still the one with the anchor where it was taken out, unless the
selection was in no text. -/
theorem TakenOut.currentBlock? {path' : Path} (h : d.TakenOut path b path' c d') (hd : d.Regular)
    (husable : d.Usable) (hd' : d'.Regular) (hblock : d.currentBlock? = some (path, b))
    (hnone : d.selection.bind d.blockRange? = none → d'.selection = none) :
    d'.currentBlock? = if b.isTextBlock then some (path', c) else none := by
  rcases husable.ends_of_currentBlock? hd hblock with ⟨htext, n, q, hends⟩ | ⟨htext, hends⟩
  · rw [if_pos htext]
    refine hd'.currentBlock?_of_ends h.blockAt? (n := n) (q := q) ?_
    rw [h.undisturbed.ends, h.id_eq, hends]
  · rw [htext, if_neg Bool.false_ne_true, Document.currentBlock?, hnone hends]
    rfl

end Document

namespace DraftM

variable {s : Draft} {path : Path} {b : Block}

/-- A block leaves the list that it is in, if it is in one. -/
theorem exists_leaveList (hd : s.document.Regular) (hlt : ∀ i ∈ s.document.ids, i < s.document.nextId)
    (hb : s.document.blockAt? path = some b) :
    ∃ path' d', leaveList path b.id s = .ok path' { s with document := d' } ∧ d'.Regular ∧
      (∀ i ∈ d'.ids, i < d'.nextId) ∧ s.document.TakenOut path b path' b d' := by
  cases hin : inList s.document path with
  | false =>
    exact ⟨path, s.document, leaveList_of_not_inList hd.nodup hb hin, hd, hlt,
      Document.takenOut_refl hb hin⟩
  | true =>
    obtain ⟨p, path', d', happly, hd', hout⟩ := hd.exists_takenOut hlt hb hin
    refine ⟨path', d', ?_, hd', Document.lt_nextId_of_apply hd.nodup hlt happly, hout⟩
    rw [leaveList_of_inList hin, bind_of_ok (perform_of_ok happly), get_bind]
    dsimp only
    rw [Document.findPath?_of_blockAt? hd'.nodup hout.blockAt?]
    rfl

end DraftM

namespace Editor

variable {τ : Type} [Tokenizer τ]

/-- Whatever is done to an editor, its document comes from the same blocks by sound commands. -/
theorem exists_document_run (bs : List Block) {cs : List Command} (hcs : ∀ c ∈ cs, c.Sound)
    (tokenizer : τ) (options : EditorOptions) (as : List EditorAction) :
    ∃ cs' : List Command, (∀ c ∈ cs', c.Sound) ∧
      ((ofDocument ((Document.ofBlocks bs).run cs) tokenizer options).run as).document =
        (Document.ofBlocks bs).run cs' := by
  have hd := Document.wellNumbered_run (Document.wellNumbered_ofBlocks bs) cs
  obtain ⟨hstart, hfresh⟩ := good_ofDocument hd tokenizer options
  obtain ⟨cs', hplain, heq⟩ := runsTo_run hstart hfresh as
  refine ⟨cs ++ cs', List.forall_mem_append.mpr ⟨hcs, fun c hc => (hplain c hc).sound⟩, ?_⟩
  rw [heq, Document.run_append]
  rfl

end Editor

namespace EditorM

variable {τ : Type} [Tokenizer τ] {e : Editor τ} {path : Path} {b : Block} {kind : Kind}

theorem isActive_eq (d : Document) (path : Path) (kind : Kind) :
    isActive d path kind = (Node.kindsTo d.children path).any fun k => k.sameType kind := by
  rw [isActive, ← Node.filterMap_blockAt?_take, List.any_filterMap]
  refine congrArg _ (funext fun depth => ?_)
  rw [Document.blockAt?]
  cases Node.blockAt? d.children (path.take (depth + 1)) <;> rfl

/-- If a kind is active, the block with the cursor leaves its list and becomes a paragraph. -/
theorem toggleBlock_of_active (hblock : e.document.currentBlock? = some (path, b))
    (hactive : isActive e.document path kind = true) {path' : Path} {d₁ d' : Document} {p : Patch}
    (hleave : DraftM.leaveList path b.id e.draft = .ok path' { e.draft with document := d₁ })
    (hset : d₁.apply (.setKind path' .paragraph) = (.ok p, d')) :
    ∃ e', toggleBlock kind e = .ok () e' ∧ e'.document = d' := by
  have hrefuse : DraftM.orRefuse e.draft.document.currentBlock? .noSelection e.draft =
      .ok (path, b) e.draft := by
    rw [show e.draft.document.currentBlock? = some (path, b) from hblock]
    rfl
  have hactive' : isActive e.draft.document path kind = true := hactive
  have hset' := DraftM.perform_of_ok (s := { e.draft with document := d₁ }) hset
  obtain ⟨e', hrun, hdraft⟩ : ∃ e', toggleBlock kind e = .ok () e' ∧
      e'.draft = { e.draft with document := d' } := by
    refine observed_of_ok ?_
    rw [get_bind]
    dsimp only
    rw [bind_of_ok hrefuse]
    dsimp only
    rw [bind_of_ok hleave, if_pos hactive', hset']
  exact ⟨e', hrun, congrArg Draft.document hdraft⟩

/-- In an editor over a document of sound blocks, whatever was done to the document and to the editor,
toggling a kind that is active succeeds.  What is written stays as it is, and the block with the
cursor is a paragraph afterwards, with nothing around it but what was around the list that it was in,
or around it if it was in none.  So the kind is active afterwards exactly if it was so out there.
Where the selection was no place in a text there is none afterwards. -/
theorem toggleBlock_active {bs : List Block} {cs : List Command}
    (hbs : ∀ b ∈ bs, b.Everywhere Block.Sound) (hcs : ∀ c ∈ cs, c.Sound) (tokenizer : τ)
    (options : EditorOptions) (as : List EditorAction)
    (he : e = (Editor.ofDocument ((Document.ofBlocks bs).run cs) tokenizer options).run as)
    (hblock : e.document.currentBlock? = some (path, b))
    (hactive : isActive e.document path kind = true) (hkind : kind ≠ .paragraph) :
    ∃ e' path' c, toggleBlock kind e = .ok () e' ∧
      Node.passages e'.document.children = Node.passages e.document.children ∧
      e'.document.blockAt? path' = some c ∧ c.id = b.id ∧ c.kind = .paragraph ∧
      e'.document.currentBlock? = (if b.isTextBlock then some (path', c) else none) ∧
      Node.kindsTo e'.document.children path' =
        Node.kindsTo e.document.children (e.document.outside path) ++ [.paragraph] ∧
      isActive e'.document path' kind =
        isActive e.document (e.document.outside path) kind := by
  obtain ⟨cs', hcs', hrun⟩ := Editor.exists_document_run bs hcs tokenizer options as
  rw [← he] at hrun
  have hnew := Document.wellNumbered_ofBlocks bs
  have hd : e.document.Regular := hrun ▸ Document.regular_run hbs hcs'
  have hlt : ∀ i ∈ e.document.ids, i < e.document.nextId := by
    rw [hrun]
    exact fun i hi => ((Document.wellNumbered_run hnew cs').bounds i hi).2
  have husable : e.document.Usable := hrun ▸ (Document.usable_ofBlocks bs).run hnew cs'
  obtain ⟨path', d₁, hleave, hd₁, hlt₁, hout⟩ :=
    DraftM.exists_leaveList (s := e.draft) hd hlt (Document.blockAt?_of_currentBlock? hblock)
  obtain ⟨p, d', c, hset, hd', hout', hc, hnone⟩ := hout.exists_setKind hd₁ hlt₁
  obtain ⟨e', htoggle, rfl⟩ := toggleBlock_of_active hblock hactive hleave hset
  refine ⟨e', path', c, htoggle, hout'.undisturbed.passages, hout'.blockAt?, hout'.id_eq, hc,
    hout'.currentBlock? hd husable hd' hblock hnone, hc ▸ hout'.kinds, ?_⟩
  rw [isActive_eq, isActive_eq, hout'.kinds, hc, List.any_append, List.any_cons, List.any_nil,
    Kind.sameType_paragraph hkind, Bool.or_false, Bool.or_false]
  rfl

/-- The second item of a list in a quotation, with the selection back to the first one. -/
theorem toggleBlock_active_item :
    let item (t : Text) : Node := .block (.ofText .listItem t)
    let bs := [Block.ofKind .quote [.block (.ofKind .bulletList [item ['a'], item ['é', 'b']])]]
    let e := (Editor.ofDocument ((Document.ofBlocks bs).run []) Registry.empty {}).run
      [.select ⟨⟨[0, 0, 1, 0], 2⟩, ⟨[0, 0, 0, 0], 0⟩⟩]
    ∃ e' path' c, toggleBlock .bulletList e = .ok () e' ∧
      Node.passages e'.document.children = Node.passages e.document.children ∧
      e'.document.currentBlock? = some (path', c) ∧ c.id = 4 ∧
      Node.kindsTo e'.document.children path' = [.quote, .paragraph] ∧
      isActive e'.document path' .bulletList = false := by
  intro item bs e
  have hbs : ∀ b ∈ bs, b.Everywhere Block.Sound := by
    rw [List.forall_mem_singleton]
    refine Block.everywhere_sound_ofKind _ (.inr Node.areBlocks_block) ⟨?_, trivial⟩
    exact Block.everywhere_sound_ofKind _ (.inr (Node.areBlocks_map_block [_, _]))
      ⟨Block.everywhere_sound_ofText _ _, Block.everywhere_sound_ofText _ _, trivial⟩
  have hblock : e.document.currentBlock? =
      some ([0, 0, 1], ⟨4, .listItem, [.leaf (.ofText ['é', 'b'])]⟩) := by rfl
  have hactive : isActive e.document [0, 0, 1] .bulletList = true := by rfl
  obtain ⟨e', path', c, htoggle, hpassages, -, hid, -, hcurrent, hkinds, hactive'⟩ :=
    toggleBlock_active hbs (fun c hc => absurd hc List.not_mem_nil) _ _ _ rfl hblock hactive
      (by decide)
  exact ⟨e', path', c, htoggle, hpassages, hcurrent, hid, hkinds, hactive'⟩

/-- A list in a list.  The item leaves the inner one, and the outer one is still around it. -/
theorem exists_toggleBlock_still_active :
    let bs := [Block.ofKind .bulletList [.block (.ofKind .bulletList
      [.block (.ofText .listItem ['a'])])]]
    let e := Editor.ofDocument (Document.ofBlocks bs) Registry.empty {}
    (∀ b ∈ bs, b.Everywhere Block.Sound) ∧
      ∃ path b e' path' b', e.document.currentBlock? = some (path, b) ∧
        isActive e.document path .bulletList = true ∧ toggleBlock .bulletList e = .ok () e' ∧
        e'.document.currentBlock? = some (path', b') ∧
        isActive e'.document path' .bulletList = true := by
  intro bs e
  refine ⟨?_, _, _, _, _, _, by rfl, by rfl, by rfl, by rfl, by rfl⟩
  rw [List.forall_mem_singleton]
  refine Block.everywhere_sound_ofKind _ (.inr Node.areBlocks_block) ⟨?_, trivial⟩
  refine Block.everywhere_sound_ofKind _ (.inr Node.areBlocks_block) ⟨?_, trivial⟩
  exact Block.everywhere_sound_ofText _ _

end EditorM

end BlockNotes
