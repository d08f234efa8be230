import BlockNotes.Proofs.Document.Surgery

/-!
# The shape of a tree

A block is *sound* if its kind is canonical and its children are of one sort:
all leaves or all blocks.  A tree is *shaped* if every block in it is sound and
its root holds only blocks.

Shape survives a change at one place if what is put there is sound and of one
sort.  The blocks above the place do not notice: each holds a block where it
held one before (`Node.Shaped.setChildren`).  For most edits the sort follows
from the siblings.  Where one of them is a block, all are
(`Node.Shaped.areBlocks_of_siblings`).
-/

namespace BlockNotes

/-! ## Sorts of children -/

namespace Node

/-- All nodes are leaves. -/
def AreLeaves (ns : List Node) : Prop := ∀ n ∈ ns, n.isLeaf = true

/-- All nodes are blocks. -/
def AreBlocks (ns : List Node) : Prop := ∀ n ∈ ns, n.isLeaf = false

/-- All nodes are leaves, or all are blocks. -/
def Homogeneous (ns : List Node) : Prop := AreLeaves ns ∨ AreBlocks ns

theorem areLeaves_iff {ns : List Node} : AreLeaves ns ↔ ns.all Node.isLeaf = true :=
  List.all_eq_true.symm

theorem AreLeaves.any_isLeaf {ns : List Node} (h : AreLeaves ns) (hne : ns ≠ []) :
    ns.any Node.isLeaf = true := by
  obtain ⟨n, ms, rfl⟩ := List.exists_cons_of_ne_nil hne
  rw [List.any_cons, h n List.mem_cons_self, Bool.true_or]

theorem areBlocks_append {ns ms : List Node} :
    AreBlocks (ns ++ ms) ↔ AreBlocks ns ∧ AreBlocks ms :=
  List.forall_mem_append

theorem areLeaves_append {ns ms : List Node} :
    AreLeaves (ns ++ ms) ↔ AreLeaves ns ∧ AreLeaves ms :=
  List.forall_mem_append

theorem areBlocks_cons {n : Node} {ns : List Node} :
    AreBlocks (n :: ns) ↔ n.isLeaf = false ∧ AreBlocks ns :=
  List.forall_mem_cons

theorem areBlocks_block {b : Block} : AreBlocks [.block b] := by
  intro n hn
  rw [List.mem_singleton.mp hn]
  rfl

theorem areBlocks_insert {front back : List Node} {b : Block} :
    AreBlocks (front ++ .block b :: back) ↔ AreBlocks (front ++ back) := by
  rw [areBlocks_append, areBlocks_append, areBlocks_cons]
  exact and_congr_right fun _ => ⟨And.right, fun hback => ⟨rfl, hback⟩⟩

theorem areBlocks_map_block (bs : List Block) : AreBlocks (bs.map .block) := by
  intro n hn
  obtain ⟨b, -, rfl⟩ := List.mem_map.mp hn
  rfl

/-- Homogeneous nodes with a block among them are blocks. -/
theorem Homogeneous.areBlocks {front back : List Node} {b : Block}
    (h : Homogeneous (front ++ .block b :: back)) : AreBlocks (front ++ .block b :: back) := by
  rcases h with h | h
  · have hb := h (.block b) (List.mem_append_right front List.mem_cons_self)
    cases hb
  · exact h

theorem Homogeneous.sublist {ms ns : List Node} (h : Homogeneous ns) (hsub : ms.Sublist ns) :
    Homogeneous ms :=
  h.imp (fun h n hn => h n (hsub.subset hn)) fun h n hn => h n (hsub.subset hn)

/-- Nodes with leaves at equal places are of equal sorts. -/
theorem areBlocks_iff_of_map_isLeaf {ns ms : List Node}
    (h : ms.map Node.isLeaf = ns.map Node.isLeaf) : AreBlocks ms ↔ AreBlocks ns := by
  have hmap : ∀ ks : List Node, AreBlocks ks ↔ ∀ x ∈ ks.map Node.isLeaf, x = false := by
    intro ks
    rw [List.forall_mem_map]
    rfl
  rw [hmap, hmap, h]

theorem areLeaves_iff_of_map_isLeaf {ns ms : List Node}
    (h : ms.map Node.isLeaf = ns.map Node.isLeaf) : AreLeaves ms ↔ AreLeaves ns := by
  have hmap : ∀ ks : List Node, AreLeaves ks ↔ ∀ x ∈ ks.map Node.isLeaf, x = true := by
    intro ks
    rw [List.forall_mem_map]
    rfl
  rw [hmap, hmap, h]

theorem homogeneous_iff_of_map_isLeaf {ns ms : List Node}
    (h : ms.map Node.isLeaf = ns.map Node.isLeaf) : Homogeneous ms ↔ Homogeneous ns :=
  or_congr (areLeaves_iff_of_map_isLeaf h) (areBlocks_iff_of_map_isLeaf h)

/-- Fresh identities leave leaves and blocks where they are. -/
theorem map_isLeaf_adoptAll (ns : List Node) (next : BlockId) :
    (adoptAll ns next).1.map Node.isLeaf = ns.map Node.isLeaf := by
  induction ns generalizing next with
  | nil => rfl
  | cons n ns ih =>
    cases n with
    | leaf l => rw [adoptAll, List.map_cons, List.map_cons, ih]
    | block b =>
      rw [adoptAll, List.map_cons, List.map_cons, ih]
      rfl

end Node

/-! ## Everywhere in a tree -/

mutual

/-- A property holds of a block and of those below it. -/
def Block.Everywhere (P : Block → Prop) : Block → Prop
  | ⟨id, kind, children⟩ => P ⟨id, kind, children⟩ ∧ Node.Everywhere P children

/-- A property holds of the blocks among and below nodes. -/
def Node.Everywhere (P : Block → Prop) : List Node → Prop
  | [] => True
  | .leaf _ :: rest => Node.Everywhere P rest
  | .block b :: rest => b.Everywhere P ∧ Node.Everywhere P rest

end

theorem Block.everywhere_iff {P : Block → Prop} {b : Block} :
    b.Everywhere P ↔ P b ∧ Node.Everywhere P b.children := by
  cases b
  rfl

namespace Node

variable {P : Block → Prop}

@[simp] theorem everywhere_nil : Everywhere P [] := trivial

@[simp] theorem everywhere_leaf {l : Leaf} {ns : List Node} :
    Everywhere P (.leaf l :: ns) ↔ Everywhere P ns := Iff.rfl

@[simp] theorem everywhere_block {b : Block} {ns : List Node} :
    Everywhere P (.block b :: ns) ↔ (P b ∧ Everywhere P b.children) ∧ Everywhere P ns := by
  rw [Everywhere, Block.everywhere_iff]

@[simp] theorem everywhere_append {ns ms : List Node} :
    Everywhere P (ns ++ ms) ↔ Everywhere P ns ∧ Everywhere P ms := by
  induction ns with
  | nil => simp
  | cons n ns ih =>
    cases n with
    | leaf l => exact ih
    | block b => simp [ih, and_assoc]

theorem Everywhere.sublist {ms ns : List Node} (h : Everywhere P ns) (hsub : ms.Sublist ns) :
    Everywhere P ms := by
  induction hsub with
  | slnil => trivial
  | cons n hsub ih =>
    cases n with
    | leaf l => exact ih h
    | block b => exact ih h.2
  | cons_cons n hsub ih =>
    cases n with
    | leaf l => exact ih h
    | block b => exact ⟨h.1, ih h.2⟩

theorem everywhere_of_areLeaves {ns : List Node} (h : AreLeaves ns) : Everywhere P ns := by
  induction ns with
  | nil => trivial
  | cons n ns ih =>
    cases n with
    | leaf l => exact ih fun m hm => h m (List.mem_cons_of_mem _ hm)
    | block b => cases h (.block b) List.mem_cons_self

/-- What holds of everything among nodes holds of those with equal blocks at equal places. -/
theorem everywhere_of_map_block? {ns ms : List Node}
    (h : ms.map Node.block? = ns.map Node.block?) (hns : Everywhere P ns) : Everywhere P ms := by
  induction ms generalizing ns with
  | nil => trivial
  | cons m ms ih =>
    cases ns with
    | nil => cases h
    | cons n ns =>
      simp only [List.map_cons, List.cons.injEq] at h
      cases m with
      | leaf l =>
        cases n with
        | leaf l' => exact everywhere_leaf.mpr (ih h.2 (everywhere_leaf.mp hns))
        | block b => cases h.1
      | block b =>
        cases n with
        | leaf l => cases h.1
        | block b' =>
          cases h.1
          rw [everywhere_block] at hns ⊢
          exact ⟨hns.1, ih h.2 hns.2⟩

theorem Everywhere.mono {Q : Block → Prop} (hPQ : ∀ b, P b → Q b) {ns : List Node}
    (h : Everywhere P ns) : Everywhere Q ns := by
  match ns with
  | [] => trivial
  | .leaf l :: rest => exact everywhere_leaf.mpr (Everywhere.mono hPQ (everywhere_leaf.mp h))
  | .block ⟨id, kind, children⟩ :: rest =>
    rw [everywhere_block] at h ⊢
    exact ⟨⟨hPQ _ h.1.1, Everywhere.mono hPQ h.1.2⟩, Everywhere.mono hPQ h.2⟩

/-- What holds everywhere holds of the children that a path leads to. -/
theorem Focus.everywhere_children {ns : List Node} {p : Path} {cs : List Node}
    {put : List Node → List Node} (h : Focus ns p cs put) (hns : Everywhere P ns) :
    Everywhere P cs := by
  induction h with
  | here ns => exact hns
  | step front back b below ih =>
    rw [everywhere_append, everywhere_block] at hns
    exact ih hns.2.1.2

/-- What holds everywhere holds of every block that a path leads to, and the other way round. -/
theorem everywhere_iff {ns : List Node} :
    Everywhere P ns ↔ ∀ p b, blockAt? ns p = some b → P b := by
  constructor
  · intro h p b hb
    obtain ⟨parent, front, back, -, hcs⟩ := exists_siblings_of_blockAt? hb
    have hsib := (focus_setChildren hcs).everywhere_children h
    rw [everywhere_append, everywhere_block] at hsib
    exact hsib.2.1.1
  · intro h
    match ns with
    | [] => trivial
    | .leaf l :: rest =>
      refine everywhere_leaf.mpr (everywhere_iff.mpr ?_)
      intro p b hb
      cases p with
      | nil => cases hb
      | cons i p => exact h ((i + 1) :: p) b (by simpa [blockAt?_cons] using hb)
    | .block ⟨id, kind, children⟩ :: rest =>
      rw [everywhere_block]
      refine ⟨⟨h [0] _ rfl, everywhere_iff.mpr ?_⟩, everywhere_iff.mpr ?_⟩
      · intro p b hb
        cases p with
        | nil => cases hb
        | cons i p => exact h (0 :: i :: p) b hb
      · intro p b hb
        cases p with
        | nil => cases hb
        | cons i p => exact h ((i + 1) :: p) b (by simpa [blockAt?_cons] using hb)

end Node

/-! ## Sound blocks -/

/-- The kind is canonical and the children are of one sort. -/
structure Block.Sound (b : Block) : Prop where
  canonical : b.kind.IsCanonical
  homogeneous : Node.Homogeneous b.children

/-- A block of leaves is sound. -/
theorem Block.everywhere_sound_of_areLeaves {id : BlockId} {kind : Kind} {ns : List Node}
    (hkind : kind.IsCanonical) (h : Node.AreLeaves ns) :
    Block.Everywhere Block.Sound ⟨id, kind, ns⟩ :=
  ⟨⟨hkind, .inl h⟩, Node.everywhere_of_areLeaves h⟩

/-- A sound block taken apart at a child. -/
theorem Block.everywhere_sound_pieces {id : BlockId} {kind : Kind} {front back : List Node} {b : Block}
    (h : Block.Everywhere Block.Sound ⟨id, kind, front ++ .block b :: back⟩) :
    (∀ i, Block.Everywhere Block.Sound ⟨i, kind, front⟩) ∧ b.Everywhere Block.Sound ∧
      ∀ i, Block.Everywhere Block.Sound ⟨i, kind, back⟩ := by
  obtain ⟨hsound, hbelow⟩ := h
  have hblocks := hsound.homogeneous.areBlocks
  rw [Node.areBlocks_append, Node.areBlocks_cons] at hblocks
  rw [Node.everywhere_append] at hbelow
  exact ⟨fun _ => ⟨⟨hsound.canonical, .inr hblocks.1⟩, hbelow.1⟩, hbelow.2.1,
    fun _ => ⟨⟨hsound.canonical, .inr hblocks.2.2⟩, hbelow.2.2⟩⟩

mutual

/-- Fresh identities leave a block sound. -/
theorem Block.everywhere_sound_adopt : (b : Block) → (next : Nat) → b.Everywhere Block.Sound →
    (b.adopt next).1.Everywhere Block.Sound
  | ⟨_, _, children⟩, next, h => by
    obtain ⟨hsound, hbelow⟩ := h
    refine ⟨⟨hsound.canonical, ?_⟩, Node.everywhere_sound_adoptAll children (next + 1) hbelow⟩
    exact (Node.homogeneous_iff_of_map_isLeaf (Node.map_isLeaf_adoptAll children _)).mpr
      hsound.homogeneous

theorem Node.everywhere_sound_adoptAll : (ns : List Node) → (next : Nat) →
    Node.Everywhere Block.Sound ns → Node.Everywhere Block.Sound (Node.adoptAll ns next).1
  | [], _, _ => trivial
  | .leaf _ :: rest, next, h => Node.everywhere_sound_adoptAll rest next h
  | .block b :: rest, next, h =>
    ⟨Block.everywhere_sound_adopt b next h.1, Node.everywhere_sound_adoptAll rest _ h.2⟩

end

namespace Node

theorem Focus.homogeneous_put {ns : List Node} {p : Path} {cs : List Node}
    {put : List Node → List Node} (h : Focus ns p cs put) (hns : Homogeneous ns)
    {new : List Node} (hnew : Homogeneous new) : Homogeneous (put new) := by
  cases h with
  | here ns => exact hnew
  | step front back b below =>
    have hblocks := hns.areBlocks
    rw [areBlocks_append, areBlocks_cons] at hblocks
    right
    rw [areBlocks_append, areBlocks_cons]
    exact ⟨hblocks.1, rfl, hblocks.2.2⟩

theorem Focus.sound_put {ns : List Node} {p : Path} {cs : List Node}
    {put : List Node → List Node} (h : Focus ns p cs put) (hns : Everywhere Block.Sound ns)
    {new : List Node} (hnew : Everywhere Block.Sound new) (hsort : Homogeneous new) :
    Everywhere Block.Sound (put new) := by
  induction h with
  | here ns => exact hnew
  | step front back b below ih =>
    rw [everywhere_append, everywhere_block] at hns ⊢
    obtain ⟨hfront, ⟨hb, hchildren⟩, hback⟩ := hns
    exact ⟨hfront, ⟨⟨hb.canonical, below.homogeneous_put hb.homogeneous hsort⟩, ih hchildren⟩,
      hback⟩

theorem Focus.homogeneous_children {ns : List Node} {p : Path} {cs : List Node}
    {put : List Node → List Node} (h : Focus ns p cs put) (hns : Everywhere Block.Sound ns)
    (hsort : Homogeneous ns) : Homogeneous cs := by
  induction h with
  | here ns => exact hsort
  | step front back b below ih =>
    rw [everywhere_append, everywhere_block] at hns
    exact ih hns.2.1.2 hns.2.1.1.homogeneous

/-! ## Shaped trees -/

/-- Every block is sound, and the root holds only blocks. -/
structure Shaped (ns : List Node) : Prop where
  areBlocks : AreBlocks ns
  sound : Everywhere Block.Sound ns

namespace Shaped

variable {ns : List Node}

/-- Changing the children at a place keeps the shape. -/
theorem setChildren (h : Shaped ns) {p : Path} {cs new : List Node}
    (hcs : childrenAt? ns p = some cs) (hnew : Everywhere Block.Sound new)
    (hsort : Homogeneous new) (hroot : p = [] → AreBlocks new) :
    Shaped (setChildren ns p new) := by
  have hfocus := focus_setChildren hcs
  refine ⟨?_, hfocus.sound_put h.sound hnew hsort⟩
  generalize Node.setChildren ns p = put at hfocus
  cases hfocus with
  | here => exact hroot rfl
  | step front back b below =>
    have hblocks := h.areBlocks
    rw [areBlocks_append, areBlocks_cons] at hblocks ⊢
    exact ⟨hblocks.1, rfl, hblocks.2.2⟩

theorem homogeneous_of_childrenAt? (h : Shaped ns) {p : Path} {cs : List Node}
    (hcs : childrenAt? ns p = some cs) : Homogeneous cs :=
  (focus_setChildren hcs).homogeneous_children h.sound (.inr h.areBlocks)

theorem sound_of_childrenAt? (h : Shaped ns) {p : Path} {cs : List Node}
    (hcs : childrenAt? ns p = some cs) : Everywhere Block.Sound cs :=
  (focus_setChildren hcs).everywhere_children h.sound

theorem areBlocks_of_siblings (h : Shaped ns) {p : Path} {front back : List Node} {b : Block}
    (hcs : childrenAt? ns p = some (front ++ .block b :: back)) :
    AreBlocks (front ++ .block b :: back) :=
  (h.homogeneous_of_childrenAt? hcs).areBlocks

/-- Putting sound blocks in the place of a block keeps the shape. -/
theorem replace (h : Shaped ns) {p : Path} {front new back : List Node} {b : Block}
    (hcs : childrenAt? ns p = some (front ++ .block b :: back)) (hnew : AreBlocks new)
    (hsound : Everywhere Block.Sound new) : Shaped (Node.setChildren ns p (front ++ new ++ back)) := by
  have hblocks := h.areBlocks_of_siblings hcs
  have hold := h.sound_of_childrenAt? hcs
  rw [areBlocks_append, areBlocks_cons] at hblocks
  rw [everywhere_append, everywhere_block] at hold
  have hall : AreBlocks (front ++ new ++ back) := by
    rw [areBlocks_append, areBlocks_append]
    exact ⟨⟨hblocks.1, hnew⟩, hblocks.2.2⟩
  refine h.setChildren hcs ?_ (.inr hall) fun _ => hall
  rw [everywhere_append, everywhere_append]
  exact ⟨⟨hold.1, hsound⟩, hold.2.2⟩

theorem putLeaves (h : Shaped ns) {p : Path} {b : Block} (hb : blockAt? ns p = some b)
    {new : List Node} (hnew : AreLeaves new) : Shaped (Node.setChildren ns p new) := by
  refine h.setChildren (childrenAt?_of_blockAt? hb) (everywhere_of_areLeaves hnew) (.inl hnew) ?_
  rintro rfl
  cases hb

end Shaped

end Node

/-- The tree of the document is shaped. -/
def Document.Shaped (d : Document) : Prop := Node.Shaped d.children

end BlockNotes
