import BlockNotes.Proofs.Document.Shape

/-!
# What a tree is made of

A node is *made of* kinds and marks that have two properties, if all the kinds of
its blocks and the marks of its leaves have them (`Node.MadeOf`).  It is one
predicate for both, so that there is one induction for both, and it says nothing
about how leaves and blocks are mixed.

Here are the ways in which a tree is taken apart and put together again: looking at
a place and changing it, surgery on leaves, fresh identities, and normal form.  The
last two bring in a paragraph and an empty leaf without marks at most.
-/

namespace BlockNotes

/-! ## Nodes -/

/-- All kinds and all marks in a node have a property. -/
inductive Node.MadeOf (K : Kind → Prop) (M : Marks → Prop) : Node → Prop where
  | leaf {l : Leaf} (marks : M l.marks) : MadeOf K M (.leaf l)
  | block {b : Block} (kind : K b.kind) (children : ∀ n ∈ b.children, MadeOf K M n) :
      MadeOf K M (.block b)

namespace Node

/-- All nodes are made of certain kinds and marks. -/
def AllMadeOf (K : Kind → Prop) (M : Marks → Prop) (ns : List Node) : Prop :=
  ∀ n ∈ ns, MadeOf K M n

variable {K : Kind → Prop} {M : Marks → Prop}

theorem madeOf_leaf {l : Leaf} : MadeOf K M (.leaf l) ↔ M l.marks :=
  ⟨fun h => by cases h with | leaf marks => exact marks, .leaf⟩

theorem madeOf_block {b : Block} : MadeOf K M (.block b) ↔ K b.kind ∧ AllMadeOf K M b.children :=
  ⟨fun h => by cases h with | block kind children => exact ⟨kind, children⟩,
    fun h => .block h.1 h.2⟩

theorem MadeOf.mono {K' : Kind → Prop} {M' : Marks → Prop} (hK : ∀ k, K k → K' k)
    (hM : ∀ ms, M ms → M' ms) {n : Node} (h : MadeOf K M n) : MadeOf K' M' n := by
  induction h with
  | leaf marks => exact .leaf (hM _ marks)
  | block kind _ ih => exact .block (hK _ kind) ih

theorem allMadeOf_nil : AllMadeOf K M [] :=
  fun _ hn => absurd hn List.not_mem_nil

theorem allMadeOf_cons {n : Node} {ns : List Node} :
    AllMadeOf K M (n :: ns) ↔ MadeOf K M n ∧ AllMadeOf K M ns :=
  List.forall_mem_cons

theorem allMadeOf_append {ns ms : List Node} :
    AllMadeOf K M (ns ++ ms) ↔ AllMadeOf K M ns ∧ AllMadeOf K M ms :=
  List.forall_mem_append

theorem allMadeOf_singleton {n : Node} : AllMadeOf K M [n] ↔ MadeOf K M n :=
  List.forall_mem_singleton

theorem AllMadeOf.sublist {ns ms : List Node} (h : AllMadeOf K M ns) (hsub : ms.Sublist ns) :
    AllMadeOf K M ms :=
  fun n hn => h n (hsub.subset hn)

theorem AllMadeOf.getElem? {ns : List Node} (h : AllMadeOf K M ns) {i : Nat} {n : Node}
    (hn : ns[i]? = some n) : MadeOf K M n :=
  h n (List.mem_of_getElem? hn)

/-- Where there are only leaves, their marks are all that matters. -/
theorem allMadeOf_map_leaf {ls : List Leaf} :
    AllMadeOf K M (ls.map .leaf) ↔ ∀ l ∈ ls, M l.marks := by
  unfold AllMadeOf
  rw [List.forall_mem_map]
  simp only [madeOf_leaf]

theorem AllMadeOf.leaves {ns : List Node} (h : AllMadeOf K M ns) :
    ∀ l ∈ ns.filterMap Node.leaf?, M l.marks := by
  intro l hl
  obtain ⟨n, hn, hleaf⟩ := List.mem_filterMap.mp hl
  cases n with
  | leaf k =>
    cases hleaf
    exact madeOf_leaf.mp (h _ hn)
  | block b => cases hleaf

end Node

section

variable {K : Kind → Prop} {M : Marks → Prop}

mutual

/-- Kinds and marks apart. -/
theorem Block.madeOf_iff : (b : Block) → (Node.MadeOf K M (.block b) ↔
    b.Everywhere (fun c => K c.kind) ∧ ∀ l ∈ b.allLeaves, M l.marks)
  | ⟨id, kind, children⟩ => by
    rw [Node.madeOf_block, Node.allMadeOf_iff children, Block.Everywhere, Block.allLeaves, and_assoc]

/-- Kinds and marks apart. -/
theorem Node.allMadeOf_iff : (ns : List Node) → (Node.AllMadeOf K M ns ↔
    Node.Everywhere (fun c => K c.kind) ns ∧ ∀ l ∈ Node.leavesOf ns, M l.marks)
  | [] => iff_of_true Node.allMadeOf_nil ⟨trivial, fun _ hl => absurd hl List.not_mem_nil⟩
  | .leaf l :: rest => by
    rw [Node.allMadeOf_cons, Node.madeOf_leaf, Node.allMadeOf_iff rest, Node.leavesOf,
      List.forall_mem_cons, Node.everywhere_leaf, and_left_comm]
  | .block b :: rest => by
    rw [Node.allMadeOf_cons, Block.madeOf_iff b, Node.allMadeOf_iff rest, Node.leavesOf,
      List.forall_mem_append, Node.Everywhere, and_and_and_comm]

end

end

namespace Node

variable {K : Kind → Prop} {M : Marks → Prop}

/-! ## Places -/

theorem AllMadeOf.childrenAt? {ns : List Node} (h : AllMadeOf K M ns) {p : Path} {cs : List Node}
    (hcs : childrenAt? ns p = some cs) : AllMadeOf K M cs := by
  induction p generalizing ns with
  | nil =>
    cases hcs
    exact h
  | cons i p ih =>
    rw [childrenAt?_cons] at hcs
    obtain ⟨b, hb, hcs'⟩ := Option.bind_eq_some_iff.mp hcs
    obtain ⟨front, back, rfl, -⟩ := exists_split_of_block? hb
    rw [allMadeOf_append, allMadeOf_cons, madeOf_block] at h
    exact ih h.2.1.2 hcs'

theorem AllMadeOf.blockAt? {ns : List Node} (h : AllMadeOf K M ns) {p : Path} {b : Block}
    (hb : blockAt? ns p = some b) : MadeOf K M (.block b) := by
  obtain ⟨parent, front, back, -, hcs⟩ := exists_siblings_of_blockAt? hb
  have hsiblings := h.childrenAt? hcs
  rw [allMadeOf_append, allMadeOf_cons] at hsiblings
  exact hsiblings.2.1

theorem AllMadeOf.modify {ns : List Node} (h : AllMadeOf K M ns) {f : Node → Node}
    (hf : ∀ n, MadeOf K M n → MadeOf K M (f n)) (i : Nat) : AllMadeOf K M (ns.modify i f) := by
  intro n hn
  obtain ⟨j, hj, rfl⟩ := List.mem_iff_getElem.mp hn
  rw [List.getElem_modify]
  split
  next => exact hf _ (h _ (List.getElem_mem _))
  next => exact h _ (List.getElem_mem _)

theorem AllMadeOf.setChildren {ns new : List Node} (h : AllMadeOf K M ns)
    (hnew : AllMadeOf K M new) (p : Path) : AllMadeOf K M (setChildren ns p new) := by
  induction p generalizing ns with
  | nil => exact hnew
  | cons i p ih =>
    refine h.modify ?_ i
    intro n hn
    cases hn with
    | leaf marks => exact .leaf marks
    | block kind children => exact .block kind (ih children)

theorem AllMadeOf.setBlock {ns : List Node} {b : Block} (h : AllMadeOf K M ns)
    (hb : MadeOf K M (.block b)) (p : Path) : AllMadeOf K M (setBlock b ns p) := by
  induction p generalizing ns with
  | nil => exact h
  | cons i p ih =>
    refine h.modify ?_ i
    intro n hn
    cases hn with
    | leaf marks => exact .leaf marks
    | block kind children =>
      cases p with
      | nil => exact hb
      | cons j p => exact .block kind (ih children)

/-! ## Surgery -/

theorem AllMadeOf.splice? {ns new ms : List Node} (h : AllMadeOf K M ns) (hnew : AllMadeOf K M new)
    {start stop : Nat} (hms : splice? ns start stop new = some ms) : AllMadeOf K M ms := by
  obtain ⟨-, heq⟩ := Option.ite_none_right_eq_some.mp hms
  cases heq
  rw [allMadeOf_append, allMadeOf_append]
  exact ⟨⟨h.sublist (List.take_sublist _ _), hnew⟩, h.sublist (List.drop_sublist _ _)⟩

theorem AllMadeOf.removeAt? {ns ms : List Node} (h : AllMadeOf K M ns) {i : Nat} {n : Node}
    (hms : removeAt? ns i = some (n, ms)) : MadeOf K M n ∧ AllMadeOf K M ms := by
  obtain ⟨m, hm, heq⟩ := Option.map_eq_some_iff.mp hms
  cases heq
  exact ⟨h.getElem? hm, h.sublist (List.eraseIdx_sublist _ _)⟩

/-- Text that is put in takes the marks of the leaf there, or none. -/
theorem AllMadeOf.insertText? {ns ms : List Node} (hM : M {}) (h : AllMadeOf K M ns) {offset : Nat}
    {t : Text} (hms : insertText? ns offset t = some ms) : AllMadeOf K M ms := by
  unfold Node.insertText? at hms
  have hne : AllMadeOf K M (if ns.isEmpty then [.leaf {}] else ns) := by
    split
    next => exact allMadeOf_singleton.mpr (.leaf hM)
    next => exact h
  generalize (if ns.isEmpty then [.leaf {}] else ns) = ks at hms hne
  dsimp only at hms
  split at hms
  next l hl =>
    obtain ⟨text, -, heq⟩ := Option.bind_eq_some_iff.mp hms
    cases heq
    have hmarks := madeOf_leaf.mp (hne.getElem? hl)
    intro n hn
    rcases List.mem_or_eq_of_mem_set hn with hn | rfl
    · exact hne n hn
    · exact .leaf hmarks
  next =>
    cases hms
    exact hne

theorem AllMadeOf.eraseText? {ns ms : List Node} (h : AllMadeOf K M ns) {start stop : Nat}
    (hms : eraseText? start stop ns = some ms) : AllMadeOf K M ms := by
  induction ns generalizing ms start stop with
  | nil =>
    cases hms
    exact h
  | cons n ns ih =>
    rw [allMadeOf_cons] at h
    cases n with
    | leaf l =>
      rw [eraseText?_leaf] at hms
      obtain ⟨text, -, hms⟩ := Option.bind_eq_some_iff.mp hms
      obtain ⟨rest, hrest, rfl⟩ := Option.map_eq_some_iff.mp hms
      have hmarks := madeOf_leaf.mp h.1
      exact allMadeOf_cons.mpr ⟨.leaf hmarks, ih h.2 hrest⟩
    | block b =>
      rw [eraseText?_block] at hms
      obtain ⟨rest, hrest, rfl⟩ := Option.map_eq_some_iff.mp hms
      exact allMadeOf_cons.mpr ⟨h.1, ih h.2 hrest⟩

/-- Both parts of a leaf that is cut have its marks. -/
theorem AllMadeOf.splitLeaves? {ns front back : List Node} (h : AllMadeOf K M ns) {offset : Nat}
    (hsplit : splitLeaves? ns offset = some (front, back)) :
    AllMadeOf K M front ∧ AllMadeOf K M back := by
  unfold Node.splitLeaves? at hsplit
  dsimp only at hsplit
  have htake : ∀ i, AllMadeOf K M (ns.take i) := fun i => h.sublist (List.take_sublist _ _)
  have hdrop : ∀ i, AllMadeOf K M (ns.drop i) := fun i => h.sublist (List.drop_sublist _ _)
  split at hsplit
  next l hl =>
    obtain ⟨x, -, heq⟩ := Option.bind_eq_some_iff.mp hsplit
    cases heq
    have hmarks := madeOf_leaf.mp (h.getElem? hl)
    rw [allMadeOf_append, allMadeOf_singleton, allMadeOf_cons]
    exact ⟨⟨htake _, .leaf hmarks⟩, .leaf hmarks, hdrop _⟩
  next =>
    cases hsplit
    exact ⟨htake _, hdrop _⟩

end Node

/-! ## New blocks, normal form and identities -/

/-- The kind of a new block is canonical. -/
theorem Block.madeOf_ofKind {M : Marks → Prop} (kind : Kind) {ns : List Node}
    (h : Node.AllMadeOf Kind.IsCanonical M ns) :
    Node.MadeOf Kind.IsCanonical M (.block (.ofKind kind ns)) :=
  .block (Kind.isCanonical_canonical kind) h

/-- The leaves of a normal form have marks from before, or none. -/
theorem Leaf.marks_normalize {M : Marks → Prop} (hM : M {}) {ls : List Leaf}
    (h : ∀ l ∈ ls, M l.marks) : ∀ l ∈ normalize ls, M l.marks := by
  have happend : ∀ acc : List Leaf, ∀ l : Leaf, (∀ k ∈ acc, M k.marks) → M l.marks →
      ∀ k ∈ append acc l, M k.marks := by
    intro acc l hacc hl
    cases acc with
    | nil => exact List.forall_mem_singleton.mpr hl
    | cons p acc =>
      rw [List.forall_mem_cons] at hacc
      rw [append]
      split
      next => exact List.forall_mem_cons.mpr hacc
      next =>
        split
        next => exact List.forall_mem_cons.mpr ⟨hl, hacc.2⟩
        next => exact List.forall_mem_cons.mpr ⟨hl, List.forall_mem_cons.mpr hacc⟩
  have hfold : ∀ acc : List Leaf, (∀ k ∈ acc, M k.marks) →
      ∀ k ∈ ls.foldl append acc, M k.marks := by
    induction ls with
    | nil => exact fun acc hacc => hacc
    | cons l ls ih =>
      rw [List.forall_mem_cons] at h
      exact fun acc hacc => ih h.2 _ (happend acc l hacc h.1)
  have hmerged := hfold [] fun k hk => absurd hk List.not_mem_nil
  unfold normalize
  split
  next => exact List.forall_mem_singleton.mpr hM
  next =>
    intro l hl
    exact hmerged l (List.mem_reverse.mp hl)

section

variable {K : Kind → Prop} {M : Marks → Prop}

mutual

theorem Block.madeOf_normalize (hM : M {}) : (b : Block) → Node.MadeOf K M (.block b) →
    Node.MadeOf K M (.block b.normalize)
  | ⟨id, kind, children⟩, h => by
    rw [Node.madeOf_block] at h
    have hbelow := (Node.allMadeOf_normalizeAll hM children h.2).sublist
      (List.filter_sublist (p := fun n => !n.isEmptyList))
    rw [Block.normalize]
    split
    next =>
      exact .block h.1 (Node.allMadeOf_map_leaf.mpr (Leaf.marks_normalize hM hbelow.leaves))
    next => exact .block h.1 hbelow

theorem Node.allMadeOf_normalizeAll (hM : M {}) : (ns : List Node) → Node.AllMadeOf K M ns →
    Node.AllMadeOf K M (Node.normalizeAll ns)
  | [], h => h
  | .leaf l :: rest, h => by
    rw [Node.allMadeOf_cons] at h
    exact Node.allMadeOf_cons.mpr ⟨h.1, Node.allMadeOf_normalizeAll hM rest h.2⟩
  | .block b :: rest, h => by
    rw [Node.allMadeOf_cons] at h
    exact Node.allMadeOf_cons.mpr
      ⟨Block.madeOf_normalize hM b h.1, Node.allMadeOf_normalizeAll hM rest h.2⟩

end

mutual

theorem Block.madeOf_adopt : (b : Block) → (next : BlockId) → Node.MadeOf K M (.block b) →
    Node.MadeOf K M (.block (b.adopt next).1)
  | ⟨_, _, children⟩, next, h => by
    rw [Node.madeOf_block] at h
    exact .block h.1 (Node.allMadeOf_adoptAll children (next + 1) h.2)

theorem Node.allMadeOf_adoptAll : (ns : List Node) → (next : BlockId) → Node.AllMadeOf K M ns →
    Node.AllMadeOf K M (Node.adoptAll ns next).1
  | [], _, h => h
  | .leaf l :: rest, next, h => by
    rw [Node.allMadeOf_cons] at h
    exact Node.allMadeOf_cons.mpr ⟨h.1, Node.allMadeOf_adoptAll rest next h.2⟩
  | .block b :: rest, next, h => by
    rw [Node.allMadeOf_cons] at h
    exact Node.allMadeOf_cons.mpr
      ⟨Block.madeOf_adopt b next h.1, Node.allMadeOf_adoptAll rest _ h.2⟩

end

end

namespace Document

variable {K : Kind → Prop} {M : Marks → Prop} {d : Document}

/-- All kinds and marks in a document have a property. -/
def MadeOf (K : Kind → Prop) (M : Marks → Prop) (d : Document) : Prop :=
  Node.AllMadeOf K M d.children

theorem allMadeOf_wrapLeaves (hK : K .paragraph) {ns : List Node} (h : Node.AllMadeOf K M ns)
    (next : BlockId) : Node.AllMadeOf K M (wrapLeaves ns next).1 := by
  induction ns with
  | nil => exact h
  | cons n ns ih =>
    rw [Node.allMadeOf_cons] at h
    cases n with
    | leaf l =>
      have hwrapped : Node.MadeOf K M (.block ⟨(wrapLeaves ns next).2, .paragraph, [.leaf l]⟩) :=
        .block hK (Node.allMadeOf_singleton.mpr h.1)
      exact Node.allMadeOf_cons.mpr ⟨hwrapped, ih h.2⟩
    | block b => exact Node.allMadeOf_cons.mpr ⟨h.1, ih h.2⟩

theorem MadeOf.normalize (hK : K .paragraph) (hM : M {}) (h : d.MadeOf K M) :
    d.normalize.MadeOf K M := by
  have hkept := (Node.allMadeOf_normalizeAll hM d.children h).sublist
    (List.filter_sublist (p := fun n => !n.isEmptyList))
  have hwrapped := allMadeOf_wrapLeaves hK hkept d.nextId
  unfold Document.normalize
  dsimp only
  split
  next =>
    exact Node.allMadeOf_singleton.mpr (.block hK (Node.allMadeOf_singleton.mpr (.leaf hM)))
  next => exact hwrapped

theorem madeOf_ofBlocks (hK : K .paragraph) (hM : M {}) {bs : List Block}
    (h : ∀ b ∈ bs, Node.MadeOf K M (.block b)) : (ofBlocks bs).MadeOf K M := by
  have hall : Node.AllMadeOf K M (bs.map .block) := List.forall_mem_map.mpr h
  exact MadeOf.normalize (d := ⟨_, none, 0, _⟩) hK hM (Node.allMadeOf_adoptAll _ 1 hall)

end Document

end BlockNotes
