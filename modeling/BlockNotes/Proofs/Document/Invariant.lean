import BlockNotes.Proofs.Document.Atomic
import BlockNotes.Proofs.Document.Normal

/-!
# What holds of every document

Two invariants of documents.  One is about identities: they are distinct and
have been given out (`Document.WellNumbered`).  The other is the normal form of
the tree (`Document.IsNormal`).

A command keeps the first one whatever it inserts, as an inserted block gets
identities of its own.  It keeps the second one if an inserted block is sound.
Each is one case analysis of what a command comes to (`Document.Applied`), and a
run is an induction on the list of commands.

The relation between an earlier and a later document in a run is again that
identities are given out in ascending order (`Document.numbered_run`), so one
that was given out and is gone stays gone.
-/

namespace BlockNotes

/-! ## Blocks from outside -/

/-- A new block is sound if its children are sound and of one sort. -/
theorem Block.everywhere_sound_ofKind (kind : Kind) {ns : List Node} (hsort : Node.Homogeneous ns)
    (hns : Node.Everywhere Block.Sound ns) : (Block.ofKind kind ns).Everywhere Block.Sound :=
  ⟨⟨Kind.isCanonical_canonical kind, hsort⟩, hns⟩

/-- A new block with one leaf is sound. -/
theorem Block.everywhere_sound_ofText (kind : Kind) (text : Text) :
    (Block.ofText kind text).Everywhere Block.Sound := by
  have hleaf : Node.AreLeaves [.leaf (.ofText text)] := Node.areLeaves_iff.mpr rfl
  exact Block.everywhere_sound_ofKind kind (.inl hleaf) trivial

namespace Document

variable {d d' : Document}

/-- Neither invariant looks at the selection or the version. -/
theorem Numbered.of_children (h : Numbered d d') (s : Option Range) (v : Nat) :
    Numbered d { d' with selection := s, version := v } :=
  ⟨h.nextId_le, h.count_le⟩

theorem IsNormal.of_children (h : d.IsNormal) (s : Option Range) (v : Nat) :
    IsNormal { d with selection := s, version := v } :=
  ⟨h.nonempty, h.areBlocks, h.blocks⟩

/-! ## New documents -/

/-- The blocks that a document is made of get identities from one on. -/
theorem wellNumbered_ofBlocks (bs : List Block) : (ofBlocks bs).WellNumbered := by
  have hempty : WellNumbered ⟨[], none, 0, 1⟩ :=
    ⟨.nil, Nat.le_refl 1, fun _ hi => absurd hi List.not_mem_nil⟩
  have hadopt : Numbered ⟨[], none, 0, 1⟩
      ⟨(Node.adoptAll (bs.map .block) 1).1, none, 0, (Node.adoptAll (bs.map .block) 1).2⟩ := by
    refine ⟨(Node.count_idsOf_adoptAll 0 _ 1).1, ?_⟩
    intro i
    rw [ids, (Node.count_idsOf_adoptAll i _ 1).2]
    exact Nat.le_add_left _ _
  have hnormal := hadopt.trans (numbered_normalize _)
  exact hempty.numbered (hnormal.of_children _ _)

theorem isNormal_ofBlocks {bs : List Block} (hbs : ∀ b ∈ bs, b.Everywhere Block.Sound) :
    (ofBlocks bs).IsNormal := by
  have hsound : Node.Everywhere Block.Sound (bs.map .block) := by
    induction bs with
    | nil => trivial
    | cons b bs ih =>
      rw [List.forall_mem_cons] at hbs
      exact ⟨hbs.1, ih hbs.2⟩
  have hshaped : Shaped
      ⟨(Node.adoptAll (bs.map .block) 1).1, none, 0, (Node.adoptAll (bs.map .block) 1).2⟩ := by
    refine ⟨?_, Node.everywhere_sound_adoptAll _ 1 hsound⟩
    exact (Node.areBlocks_iff_of_map_isLeaf (Node.map_isLeaf_adoptAll _ 1)).mpr
      (Node.areBlocks_map_block bs)
  exact (isNormal_normalize hshaped).of_children _ _

/-- Blocks of some text each are a normal document. -/
theorem isNormal_ofBlocks_ofText (xs : List (Kind × Text)) :
    (ofBlocks (xs.map fun x => .ofText x.1 x.2)).IsNormal :=
  isNormal_ofBlocks (List.forall_mem_map.mpr fun x _ => Block.everywhere_sound_ofText x.1 x.2)

/-! ## One command -/

/-- A command gives out identities in ascending order. -/
theorem Applied.numbered {c : Command} {x : Except Halt Patch × Document} (h : Applied d c x) :
    Numbered d x.2 := by
  cases h with
  | refused e => exact .refl d
  | selected s => exact (Numbered.refl d).of_children s d.version
  | committed d' changed s edited named =>
    exact (edited.toNumbered.trans (numbered_normalize d')).of_children _ _

/-- A command keeps the normal form. -/
theorem Applied.isNormal {c : Command} {x : Except Halt Patch × Document} (h : Applied d c x)
    (hc : c.Sound) (hd : d.IsNormal) : x.2.IsNormal := by
  cases h with
  | refused e => exact hd
  | selected s => exact hd.of_children s d.version
  | committed d' changed s edited named =>
    exact (isNormal_normalize (edited.shaped hc hd.shaped)).of_children _ _

/-! ## Runs -/

/-- A run gives out identities in ascending order. -/
theorem numbered_run (hd : d.WellNumbered) (cs : List Command) : Numbered d (d.run cs) := by
  induction cs generalizing d with
  | nil => exact .refl d
  | cons c cs ih =>
    have hstep : Numbered d (d.perform c) := (applied_apply hd.nodup c).numbered
    exact hstep.trans (ih (hd.numbered hstep))

theorem wellNumbered_run (hd : d.WellNumbered) (cs : List Command) : (d.run cs).WellNumbered :=
  hd.numbered (numbered_run hd cs)

/-- A run keeps the normal form. -/
theorem isNormal_run (hd : d.WellNumbered) (hnormal : d.IsNormal) {cs : List Command}
    (hcs : ∀ c ∈ cs, c.Sound) : (d.run cs).IsNormal := by
  induction cs generalizing d with
  | nil => exact hnormal
  | cons c cs ih =>
    rw [List.forall_mem_cons] at hcs
    have happlied := applied_apply hd.nodup c
    exact ih (hd.numbered happlied.numbered) (happlied.isNormal hcs.1 hnormal) hcs.2

theorem run_append (d : Document) (cs cs' : List Command) :
    d.run (cs ++ cs') = (d.run cs).run cs' :=
  List.foldl_append

/-- Every run of commands on a new document.  Identities are distinct and have been given out, the
next one never goes back, and one that has gone stays gone; the tree is in normal form. -/
theorem run_ofBlocks {bs : List Block} {cs : List Command}
    (hbs : ∀ b ∈ bs, b.Everywhere Block.Sound) (hcs : ∀ c ∈ cs, c.Sound) :
    ((ofBlocks bs).run cs).WellNumbered ∧ ((ofBlocks bs).run cs).IsNormal ∧
      ∀ first second third, cs = first ++ second ++ third →
        ((ofBlocks bs).run first).nextId ≤ ((ofBlocks bs).run (first ++ second)).nextId ∧
        ∀ i ∈ ((ofBlocks bs).run first).ids, i ∉ ((ofBlocks bs).run (first ++ second)).ids →
          i ∉ ((ofBlocks bs).run cs).ids := by
  have hnew := wellNumbered_ofBlocks bs
  refine ⟨wellNumbered_run hnew cs, isNormal_run hnew (isNormal_ofBlocks hbs) hcs, ?_⟩
  rintro first second third rfl
  have hfirst := wellNumbered_run hnew first
  have hsecond : Numbered ((ofBlocks bs).run first) ((ofBlocks bs).run (first ++ second)) := by
    rw [run_append]
    exact numbered_run hfirst second
  have hthird : Numbered ((ofBlocks bs).run (first ++ second))
      ((ofBlocks bs).run (first ++ second ++ third)) := by
    rw [run_append _ (first ++ second)]
    exact numbered_run (wellNumbered_run hnew _) third
  refine ⟨hsecond.nextId_le, ?_⟩
  intro i hi hgone
  exact hthird.not_mem_of_gone
    (Nat.lt_of_lt_of_le (hfirst.bounds i hi).2 hsecond.nextId_le) hgone

/-- A paragraph is wrapped in a list, a heading is put before it, a command fails, and the only item
of the list goes away, and so does the list.  The identity of the list does not come back. -/
theorem run_ofBlocks_wrapped :
    let bs := [Block.ofText .paragraph ['a']]
    let cs := [Command.wrapBlock [0] .bulletList, .insertBlock [0] (.ofText (.heading 9) ['b']),
      .liftBlock [7, 7], .removeBlock [1, 0], .splitBlock]
    ((ofBlocks bs).run cs).WellNumbered ∧ ((ofBlocks bs).run cs).IsNormal ∧
      2 ∈ ((ofBlocks bs).run (cs.take 2)).ids ∧ 2 ∉ ((ofBlocks bs).run cs).ids := by
  intro bs cs
  have hbs : ∀ b ∈ bs, b.Everywhere Block.Sound := by
    intro b hb
    rw [List.mem_singleton.mp hb]
    exact Block.everywhere_sound_ofText _ _
  have hcs : ∀ c ∈ cs, c.Sound := by
    simp only [cs, List.forall_mem_cons]
    exact ⟨trivial, Block.everywhere_sound_ofText _ _, trivial, trivial, trivial,
      fun c hc => absurd hc List.not_mem_nil⟩
  obtain ⟨hnumbered, hnormal, hgone⟩ := run_ofBlocks hbs hcs
  have hmem : 2 ∈ ((ofBlocks bs).run (cs.take 2)).ids := by decide
  refine ⟨hnumbered, hnormal, hmem, ?_⟩
  exact (hgone (cs.take 2) (cs.drop 2 |>.take 2) (cs.drop 4) rfl).2 2 hmem (by decide)

end Document

end BlockNotes
