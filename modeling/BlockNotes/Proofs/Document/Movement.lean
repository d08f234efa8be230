import BlockNotes.Proofs.Document.Filled

/-!
# Moving blocks

Changing a kind, wrapping, unwrapping and lifting move whole blocks.  Each of them
puts other nodes in the place of one block, and those nodes have all that is
written in it, in the same order (`Node.Carries`).  So what is written in the tree
stays as it is, block by block (`Document.Exchanged.rearranged`).

From there it goes on without a look at the commands.  A block that holds leaves
keeps its identity and its characters, so an offset in it is a boundary as it was
before.  A selection that goes through the command as block points comes out with
the same ones (`Document.Rearranged.exists_resolve?`).
-/

namespace BlockNotes

namespace Node

/-! ## In the place of a block -/

/-- Nodes that can come in the place of a block: some blocks, in each of which is something, with all
that is written in the block. -/
structure Carries (new : List Node) (b : Block) : Prop where
  nonempty : new ≠ []
  uniform : Uniform new
  filled : Filled new
  passages : passages new = Node.passages [.block b]

variable {b : Block}

theorem passages_congr {c : Block} (hid : c.id = b.id) (hchildren : c.children = b.children) :
    passages [.block c] = passages [.block b] := by
  obtain ⟨id, kind, children⟩ := b
  cases hid
  cases hchildren
  simp only [passages, holders, blocksOf_block, List.filter_cons]
  split <;> rfl

theorem carries_kind (huniform : Uniform [.block b]) (hfilled : Filled [.block b]) (kind : Kind) :
    Carries [.block { b with kind }] b := by
  refine ⟨List.cons_ne_nil _ _, ?_, ?_, passages_congr rfl rfl⟩
  · rw [uniform_block] at huniform ⊢
    exact huniform
  · rw [filled_block] at hfilled ⊢
    exact hfilled

/-- What is written in a block around blocks is what is written in them. -/
theorem uniform_around {ns : List Node} (huniform : Uniform ns) (hfilled : Filled ns) (hne : ns ≠ [])
    (id : BlockId) (kind : Kind) : Uniform [.block ⟨id, kind, ns⟩] ∧ Filled [.block ⟨id, kind, ns⟩] ∧
      passages [.block ⟨id, kind, ns⟩] = passages ns := by
  refine ⟨?_, filled_block.mpr ⟨⟨hne, hfilled⟩, trivial⟩, ?_⟩
  · exact uniform_block.mpr ⟨⟨.inr huniform.areBlocks, huniform.homogeneous⟩, uniform_nil⟩
  · rw [passages_of_areBlocks huniform.areBlocks]
    exact List.append_nil _

theorem carries_wrapped (huniform : Uniform [.block b]) (hfilled : Filled [.block b]) (id : BlockId)
    (kind : Kind) : Carries [.block ⟨id, kind, [.block b]⟩] b := by
  obtain ⟨huniform', hfilled', heq⟩ := uniform_around huniform hfilled (List.cons_ne_nil _ _) id kind
  exact ⟨List.cons_ne_nil _ _, huniform', hfilled', heq⟩

theorem carries_children (huniform : Uniform [.block b]) (hfilled : Filled [.block b])
    (hblocks : AreBlocks b.children) : Carries b.children b := by
  rw [uniform_block] at huniform
  rw [filled_block] at hfilled
  refine ⟨hfilled.1.1, ⟨hblocks, huniform.1.2⟩, hfilled.1.2, ?_⟩
  rw [passages_of_areBlocks hblocks]
  exact (List.append_nil _).symm

/-- The pieces of a block are one of its children and blocks around the others. -/
theorem carries_parted {parent : Block} {front back new : List Node} {fresh next : BlockId}
    (huniform : Uniform [.block parent]) (hfilled : Filled [.block parent])
    (hchildren : parent.children = front ++ .block b :: back)
    (h : parent.Parted front b back fresh new next) : Carries new parent := by
  have hsplit : front ++ .block b :: back = front ++ ([.block b] ++ back) := rfl
  rw [uniform_block, hchildren] at huniform
  rw [filled_block, hchildren, hsplit, filled_append, filled_append] at hfilled
  have hblocks := huniform.1.1.areBlocks
  have hall : Uniform (front ++ .block b :: back) := ⟨hblocks, huniform.1.2⟩
  rw [hsplit, uniform_append, uniform_append] at hall
  obtain ⟨hfront, hb, hback⟩ := hall
  obtain ⟨⟨-, hfront', hb', hback'⟩, -⟩ := hfilled
  have hparent : passages [.block parent] =
      passages front ++ (passages [.block b] ++ passages back) := by
    rw [passages_of_areBlocks (by rw [hchildren]; exact hblocks), hchildren, hsplit, passages_append,
      passages_append]
    exact List.append_nil _
  cases h with
  | only hnil hnil' =>
    refine ⟨List.cons_ne_nil _ _, hb, hb', ?_⟩
    rw [hparent, hnil, hnil']
    exact (List.append_nil _).symm
  | first hnil hne =>
    obtain ⟨hright, hright', heq⟩ := uniform_around hback hback' hne parent.id parent.kind
    refine ⟨List.cons_ne_nil _ _, uniform_append.mpr ⟨hb, hright⟩, filled_append.mpr ⟨hb', hright'⟩, ?_⟩
    rw [hparent, hnil, ← heq, ← passages_append]
    rfl
  | last hne hnil =>
    obtain ⟨hleft, hleft', heq⟩ := uniform_around hfront hfront' hne parent.id parent.kind
    refine ⟨List.cons_ne_nil _ _, uniform_append.mpr ⟨hleft, hb⟩, filled_append.mpr ⟨hleft', hb'⟩, ?_⟩
    rw [hparent, hnil, ← heq, ← passages_append, ← passages_append]
    rfl
  | middle hne hne' =>
    obtain ⟨hleft, hleft', heq⟩ := uniform_around hfront hfront' hne parent.id parent.kind
    obtain ⟨hright, hright', heq'⟩ :=
      uniform_around hback hback' hne' fresh parent.kind.canonical
    refine ⟨List.cons_ne_nil _ _, uniform_append.mpr ⟨hleft, uniform_append.mpr ⟨hb, hright⟩⟩,
      filled_append.mpr ⟨hleft', filled_append.mpr ⟨hb', hright'⟩⟩, ?_⟩
    rw [hparent, ← heq, ← heq', ← passages_append, ← passages_append]
    rfl

end Node

/-- The command moves whole blocks. -/
def Command.Moves : Command → Prop
  | .setKind _ _ | .wrapBlock _ _ | .unwrapBlock _ | .liftBlock _ => True
  | _ => False

theorem Command.Moves.editsContent {c : Command} (h : c.Moves) : c.editsContent = true := by
  cases c with
  | select r => exact h.elim
  | _ => rfl

namespace Document

variable {d d' : Document}

/-! ## Edits -/

/-- Blocks were moved: what is written in the tree is as before, and every block has something in
it. -/
structure Rearranged (d d' : Document) : Prop where
  filled : d'.Filled
  uniform : Node.Uniform d'.children
  nodup : d'.ids.Nodup
  passages : Node.passages d'.children = Node.passages d.children

/-- Where nodes that carry a block come in its place, blocks are moved. -/
theorem Exchanged.rearranged {path : Path} {b : Block} {new : List Node} {next : BlockId}
    (hd : d.Regular) (h : d.Exchanged path b new next d') (hids : d'.ids.Nodup)
    (hnew : Node.Uniform [.block b] → Node.Filled [.block b] → Node.Carries new b) :
    d.Rearranged d' := by
  obtain ⟨parent, front, back, -, hcs, rfl⟩ := h
  have hfocus := Node.focus_setChildren hcs
  have hfilled : Node.Filled d.children := hd.settled.mono fun _ hb => hb.nonempty
  have hsplit : front ++ .block b :: back = front ++ [.block b] ++ back := by simp
  have hsiblings := hfocus.uniform_children hd.uniform
  have hsiblings' : Node.Filled (front ++ .block b :: back) := hfocus.everywhere_children hfilled
  obtain ⟨xs, ys, hholders, -, hput⟩ := hfocus.exists_holders_put hd.uniform hsiblings.areBlocks
  rw [hsplit, Node.uniform_append, Node.uniform_append] at hsiblings
  rw [hsplit, Node.filled_append, Node.filled_append] at hsiblings'
  have hcarries := hnew hsiblings.1.2 hsiblings'.1.2
  have hall : Node.Uniform (front ++ new ++ back) :=
    Node.uniform_append.mpr ⟨Node.uniform_append.mpr ⟨hsiblings.1.1, hcarries.uniform⟩, hsiblings.2⟩
  have hall' : Node.Filled (front ++ new ++ back) :=
    Node.filled_append.mpr ⟨Node.filled_append.mpr ⟨hsiblings'.1.1, hcarries.filled⟩, hsiblings'.2⟩
  have hne : front ++ new ++ back ≠ [] :=
    List.append_ne_nil_of_left_ne_nil (List.append_ne_nil_of_right_ne_nil _ hcarries.nonempty) _
  obtain ⟨hfilled', hne'⟩ := hfocus.filled_put hfilled hall' hne
  have huniform := hfocus.uniform_put hd.uniform (hfocus.uniform_children hd.uniform).areBlocks hall
  refine ⟨⟨hne', huniform.areBlocks, hfilled'⟩, huniform, hids, ?_⟩
  have hmap : ∀ ns : List Node, (Node.holders ns).map (fun b => (b.id, Node.marked b.children)) =
      Node.passages ns := fun _ => rfl
  rw [Node.passages, Node.passages, hput _ hall.areBlocks, hholders, hsplit]
  simp only [List.map_append, hmap, Node.passages_append, hcarries.passages]

/-- An edit that moves blocks names one of them and leaves the selection to be carried along. -/
structure Moved (d : Document) (e : Effect) (d' : Document) : Prop where
  rearranged : d.Rearranged d'
  changed : e.changed ≠ []
  target : e.target = none

theorem answers_edit_of_moves (hd : d.Regular) (hlt : ∀ i ∈ d.ids, i < d.nextId) {c : Command}
    (hc : c.Moves) : EditM.Answers (d.edit c) d (d.Moved) := by
  intro e d' hok
  have hedited := ((EditM.checked_ofCommand hd.nodup _ c).answers e d' hok).edited
  have hids := hedited.toNumbered.nodup_of_lt hd.nodup hlt
  cases c with
  | setKind path kind =>
    obtain ⟨b, -, rfl, h⟩ := (EditM.checked_setKind_exchanged path kind).answers e d' hok
    refine ⟨h.rearranged hd hids ?_, List.cons_ne_nil _ _, rfl⟩
    exact fun huniform hfilled => Node.carries_kind huniform hfilled _
  | wrapBlock path kind =>
    obtain ⟨b, -, rfl, h⟩ := (EditM.checked_wrapBlock_exchanged path kind).answers e d' hok
    refine ⟨h.rearranged hd hids ?_, List.cons_ne_nil _ _, rfl⟩
    exact fun huniform hfilled => Node.carries_wrapped huniform hfilled _ _
  | unwrapBlock path =>
    obtain ⟨b, -, hblocks, rfl, h⟩ := (EditM.checked_unwrapBlock_exchanged path).answers e d' hok
    refine ⟨h.rearranged hd hids ?_, List.cons_ne_nil _ _, rfl⟩
    exact fun huniform hfilled => Node.carries_children huniform hfilled hblocks
  | liftBlock path =>
    obtain ⟨b, -, rfl, hlifted⟩ := (EditM.checked_liftBlock_lifted path).answers e d' hok
    obtain ⟨_, parent, front, back, new, next, -, hchildren, hparted, h⟩ := hlifted
    refine ⟨h.rearranged hd hids ?_, List.cons_ne_nil _ _, rfl⟩
    exact fun huniform hfilled => Node.carries_parted huniform hfilled hchildren hparted
  | _ => exact hc.elim

/-! ## Commands -/

namespace Rearranged

theorem regular (h : d.Rearranged d') : d'.normalize.Regular :=
  h.filled.regular_normalize h.uniform h.nodup

/-- What is written in a block that holds leaves is in a block of the same identity afterwards. -/
theorem exists_block (h : d.Rearranged d') {path : Path} {b : Block} (hb : d.blockAt? path = some b)
    (hleaf : b.children.any Node.isLeaf = true) :
    ∃ path' b', d'.normalize.blockAt? path' = some b' ∧ b'.id = b.id ∧
      b'.children.any Node.isLeaf = true ∧ Node.marked b'.children = Node.marked b.children := by
  have hmem : (b.id, Node.marked b.children) ∈ Node.passages d'.normalize.children := by
    rw [h.filled.passages_normalize, h.passages]
    exact List.mem_map_of_mem (List.mem_filter.mpr ⟨mem_blocksOf.mpr ⟨path, hb⟩, hleaf⟩)
  obtain ⟨b', hb', heq⟩ := List.mem_map.mp hmem
  obtain ⟨hb', hleaf'⟩ := List.mem_filter.mp hb'
  obtain ⟨path', hb'⟩ := mem_blocksOf.mp hb'
  exact ⟨path', b', hb', (Prod.mk.inj heq).1, hleaf', (Prod.mk.inj heq).2⟩

/-- A position goes with its block. -/
theorem exists_resolve? (hd : d.Regular) (h : d.Rearranged d') {p : Point} (hp : d.Addresses p) :
    ∃ r q, d.blockPoint p = .ok r ∧ d'.normalize.resolve? r = some q ∧
      d'.normalize.blockPoint q = .ok r := by
  obtain ⟨path, b, n, hsite⟩ := hd.exists_site hp
  have hleaf : b.children.any Node.isLeaf = true := by
    rw [← hd.isTextBlock_eq hsite.blockAt?]
    exact hsite.isTextBlock
  obtain ⟨path', b', hb', hid, hleaf', hmarked⟩ := h.exists_block hsite.blockAt? hleaf
  have htext' : b'.isTextBlock = true := by rw [h.regular.isTextBlock_eq hb', hleaf']
  have hown : Node.ownText b'.children = Node.ownText b.children :=
    Node.ownText_congr (Node.areLeaves_iff.mpr htext') hsite.areLeaves hmarked
  have hin : BlockPoint.In ⟨b.id, n⟩ d'.normalize path' b' :=
    ⟨hb', hid, by rw [hown]; exact hsite.isBoundary⟩
  obtain ⟨q, hq, hpoint⟩ := Document.exists_resolve? h.regular.nodup hin htext' hleaf'
  exact ⟨_, q, hsite.blockPoint_eq, hq, hpoint⟩

end Rearranged

/-- A command that moves whole blocks leaves what is written in a regular document as it is: the same
blocks hold leaves, in the same order, and each has the same characters with the same marks.  Both
ends of the selection stay where they are in their blocks. -/
theorem moves_keeps_passages (hd : d.Regular) (hlt : ∀ i ∈ d.ids, i < d.nextId)
    (hselection : ∀ s, d.selection = some s → d.AddressesBoth s) {c : Command} (hc : c.Moves)
    {p : Patch} (h : d.apply c = (.ok p, d')) :
    Node.passages d'.children = Node.passages d.children ∧
      ∀ s, d.selection = some s → ∃ s', d'.selection = some s' ∧
        d'.blockPoint s'.anchor = d.blockPoint s.anchor ∧
        d'.blockPoint s'.focus = d.blockPoint s.focus := by
  have hedits : c.editsContent = true := by
    cases c with
    | select r => exact hc.elim
    | _ => rfl
  obtain ⟨e, d₁, hmoved, rfl⟩ := exists_of_apply_ok hedits h (answers_edit_of_moves hd hlt hc)
  have hrearranged := hmoved.rearranged
  rw [finished, if_neg hmoved.changed, hmoved.target, Option.none_or]
  refine ⟨hrearranged.filled.passages_normalize.trans hrearranged.passages, ?_⟩
  intro s hs
  obtain ⟨hanchor, hfocus⟩ := hselection s hs
  obtain ⟨a, q, ha, hq, hqa⟩ := hrearranged.exists_resolve? hd hanchor
  obtain ⟨f, q', hf, hq', hqf⟩ := hrearranged.exists_resolve? hd hfocus
  have hsaved : d.selection.bind d.blockRange? = some ⟨a, f⟩ := by
    rw [hs, Option.bind_some, blockRange?, ha, hf]
  refine ⟨⟨q, q'⟩, ?_, hqa.trans ha.symm, hqf.trans hf.symm⟩
  simp only [committed, hsaved, Option.map_some, resolveRange, hq, hq', Option.some_or]

/-- The middle one of three items is lifted out of its list, with the selection from the last item
back to the first one. -/
theorem moves_keeps_passages_lifted :
    let item := fun (t : Text) => Node.block (.ofText .listItem t)
    let d := (ofBlocks [.ofKind .bulletList [item ['a'], item ['é', 'b'], item ['c', 'd']]]).run
      [.select ⟨⟨[0, 2, 0], 1⟩, ⟨[0, 0, 0], 1⟩⟩]
    let d' := d.perform (.liftBlock [0, 1])
    Node.passages d'.children = Node.passages d.children ∧ d'.children.length = 3 ∧
      ∃ s', d'.selection = some s' ∧ d'.blockPoint s'.anchor = .ok ⟨4, 1⟩ ∧
        d'.blockPoint s'.focus = .ok ⟨2, 1⟩ := by
  intro item d d'
  have hsound : ∀ b ∈ [Block.ofKind .bulletList [item ['a'], item ['é', 'b'], item ['c', 'd']]],
      b.Everywhere Block.Sound := by
    rw [List.forall_mem_singleton]
    exact Block.everywhere_sound_ofKind _ (.inr (Node.areBlocks_map_block [_, _, _]))
      ⟨Block.everywhere_sound_ofText _ _, Block.everywhere_sound_ofText _ _,
        Block.everywhere_sound_ofText _ _, trivial⟩
  have hd : d.Regular := regular_run hsound (List.forall_mem_singleton.mpr trivial)
  have hselection : ∀ s, d.selection = some s → d.AddressesBoth s := by
    rintro _ ⟨⟩
    exact ⟨addresses_iff.mpr ⟨⟨4, 1⟩, by rfl⟩, addresses_iff.mpr ⟨⟨2, 1⟩, by rfl⟩⟩
  have happly : d.apply (.liftBlock [0, 1]) =
      (.ok ⟨.content, [3], d'.selection, d'.version⟩, d') := by rfl
  obtain ⟨hpassages, hends⟩ := moves_keeps_passages (c := .liftBlock [0, 1]) hd (by decide) hselection
    trivial happly
  obtain ⟨s', hs', hanchor, hfocus⟩ := hends ⟨⟨[0, 2, 0], 1⟩, ⟨[0, 0, 0], 1⟩⟩ (by rfl)
  exact ⟨hpassages, by rfl, s', hs', hanchor.trans (by rfl), hfocus.trans (by rfl)⟩

end Document

end BlockNotes
