import BlockNotes.Proofs.Document.Settled

/-!
# Identities aside

Identities are not stored, and a document gives out its own.  A tree is *bare* if
every identity in it is zero (`Node.bareAll`), and two trees are the same but for
identities if they are equal when they are bare.

Fresh identities do not change the bare tree, and whether a tree is settled can be
told from it.
-/

namespace BlockNotes

mutual

/-- A block with every identity in it set to zero, as before a document gives it one. -/
def Block.bare : Block → Block
  | ⟨_, kind, children⟩ => ⟨0, kind, Node.bareAll children⟩

/-- Nodes with every identity among and below them set to zero. -/
def Node.bareAll : List Node → List Node
  | [] => []
  | .leaf l :: rest => .leaf l :: Node.bareAll rest
  | .block b :: rest => .block b.bare :: Node.bareAll rest

end

mutual

theorem Block.bare_adopt : (b : Block) → (next : BlockId) → (b.adopt next).1.bare = b.bare
  | ⟨_, _, children⟩, next => by
    rw [Block.bare, ← Node.bareAll_adoptAll children (next + 1)]
    rfl

/-- Fresh identities are only identities. -/
theorem Node.bareAll_adoptAll : (ns : List Node) → (next : BlockId) →
    Node.bareAll (Node.adoptAll ns next).1 = Node.bareAll ns
  | [], _ => rfl
  | .leaf l :: rest, next => by
    rw [Node.bareAll, ← Node.bareAll_adoptAll rest next]
    rfl
  | .block b :: rest, next => by
    rw [Node.bareAll, ← Block.bare_adopt b next, ← Node.bareAll_adoptAll rest (b.adopt next).2]
    rfl

end

mutual

theorem Block.bare_bare : (b : Block) → b.bare.bare = b.bare
  | ⟨_, _, children⟩ => by
    rw [Block.bare, Block.bare, Node.bareAll_bareAll children]

theorem Node.bareAll_bareAll : (ns : List Node) → Node.bareAll (Node.bareAll ns) = Node.bareAll ns
  | [] => rfl
  | .leaf l :: rest => by
    rw [Node.bareAll, Node.bareAll, Node.bareAll_bareAll rest]
  | .block b :: rest => by
    rw [Node.bareAll, Node.bareAll, Block.bare_bare b, Node.bareAll_bareAll rest]

end

namespace Node

theorem map_isLeaf_bareAll (ns : List Node) : (bareAll ns).map Node.isLeaf = ns.map Node.isLeaf := by
  induction ns with
  | nil => rfl
  | cons n ns ih => cases n <;> simp [bareAll, ih, Node.isLeaf]

theorem filterMap_leaf?_bareAll (ns : List Node) :
    (bareAll ns).filterMap Node.leaf? = ns.filterMap Node.leaf? := by
  induction ns with
  | nil => rfl
  | cons n ns ih =>
    cases n with
    | leaf l => rw [bareAll, List.filterMap_cons, List.filterMap_cons, ih]
    | block b =>
      rw [bareAll, List.filterMap_cons, List.filterMap_cons, ih]
      rfl

end Node

/-- Whether a block is settled is no matter of identities. -/
theorem Block.settled_bare {b : Block} : b.bare.Settled ↔ b.Settled := by
  obtain ⟨id, kind, children⟩ := b
  have hlength := congrArg List.length (Node.map_isLeaf_bareAll children)
  rw [List.length_map, List.length_map] at hlength
  have hnil : Node.bareAll children = [] ↔ children = [] := by
    rw [← List.length_eq_zero_iff, hlength, List.length_eq_zero_iff]
  have htext : (Node.bareAll children).all Node.isLeaf = true ↔
      children.all Node.isLeaf = true := by
    rw [← Node.areLeaves_iff, ← Node.areLeaves_iff]
    exact Node.areLeaves_iff_of_map_isLeaf (Node.map_isLeaf_bareAll children)
  have hleaves : Block.leaves (Block.bare ⟨id, kind, children⟩) = Block.leaves ⟨id, kind, children⟩ :=
    Node.filterMap_leaf?_bareAll children
  constructor
  · rintro ⟨hne, hnormal⟩
    rw [hleaves] at hnormal
    exact ⟨fun h => hne (hnil.mpr h), fun hlist hall => hnormal hlist (htext.mpr hall)⟩
  · rintro ⟨hne, hnormal⟩
    rw [← hleaves] at hnormal
    exact ⟨fun h => hne (hnil.mp h), fun hlist hall => hnormal hlist (htext.mp hall)⟩

mutual

theorem Block.everywhere_settled_bare : (b : Block) →
    (b.bare.Everywhere Block.Settled ↔ b.Everywhere Block.Settled)
  | ⟨id, kind, children⟩ => by
    have hb : (Block.bare ⟨id, kind, children⟩).Settled ↔ _ := Block.settled_bare
    rw [Block.bare] at hb ⊢
    rw [Block.Everywhere, Block.Everywhere, hb, Node.everywhere_settled_bareAll children]

theorem Node.everywhere_settled_bareAll : (ns : List Node) →
    (Node.Everywhere Block.Settled (Node.bareAll ns) ↔ Node.Everywhere Block.Settled ns)
  | [] => Iff.rfl
  | .leaf _ :: rest => Node.everywhere_settled_bareAll rest
  | .block b :: rest =>
    and_congr (Block.everywhere_settled_bare b) (Node.everywhere_settled_bareAll rest)

end

end BlockNotes
