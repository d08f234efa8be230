import BlockNotes.Proofs.Document.Shape

/-!
# Prose

The prose of a document is the text of its leaves in order, those inside of
images left aside.  An image stands for what is behind its address, so the text
in it is not shown.

What is written out or drawn has more characters than the prose, and line feeds
may turn into new lines or marks.  That nothing is lost means that all other
characters of the prose appear, in order (`Text.AppearsIn`).

A recursion on blocks that looks only for blocks in some of them passes over the
leaves that stand there.  `Document.proseBut` is the prose without these leaves,
and it is the prose if there are none (`Document.proseBut_eq_prose`).
-/

namespace BlockNotes

/-! ## Texts in texts -/

/-- The characters of one text, line feeds left aside, stand in another in the same order. -/
def Text.AppearsIn (s t : Text) : Prop := (s.filter (· ≠ '\n')).Sublist t

instance (s t : Text) : Decidable (s.AppearsIn t) :=
  inferInstanceAs (Decidable ((s.filter (· ≠ '\n')).Sublist t))

namespace Text.AppearsIn

variable {s s' t t' : Text}

theorem of_sublist (h : s.Sublist t) : AppearsIn s t :=
  List.filter_sublist.trans h

theorem refl (t : Text) : AppearsIn t t := of_sublist (List.Sublist.refl t)

theorem nil (t : Text) : AppearsIn [] t := List.nil_sublist t

theorem append (h : AppearsIn s t) (h' : AppearsIn s' t') : AppearsIn (s ++ s') (t ++ t') := by
  unfold AppearsIn
  rw [List.filter_append]
  exact List.Sublist.append h h'

theorem trans_sublist (h : AppearsIn s t) (ht : t.Sublist t') : AppearsIn s t' :=
  List.Sublist.trans h ht

theorem between (h : AppearsIn s t) (before after : Text) : AppearsIn s (before ++ t ++ after) :=
  h.trans_sublist ((List.sublist_append_right before t).trans (List.sublist_append_left _ after))

/-- Only the characters that are no line feeds count. -/
theorem of_filter (h : AppearsIn s t) (ht : (t.filter (· ≠ '\n')).Sublist t') :
    AppearsIn s t' := by
  have hs : (s.filter (· ≠ '\n')).filter (· ≠ '\n') = s.filter (· ≠ '\n') := by
    rw [List.filter_filter]
    simp
  unfold AppearsIn
  rw [← hs]
  exact (List.Sublist.filter _ h).trans ht

theorem flatMap {α : Type} {f g : α → Text} {l : List α} (h : ∀ a ∈ l, AppearsIn (f a) (g a)) :
    AppearsIn (l.flatMap f) (l.flatMap g) := by
  induction l with
  | nil => exact nil []
  | cons a l ih =>
    rw [List.forall_mem_cons] at h
    rw [List.flatMap_cons, List.flatMap_cons]
    exact h.1.append (ih h.2)

end Text.AppearsIn

/-! ## Prose -/

mutual

/-- The text of the leaves of a block, those inside of images left aside. -/
def Block.prose : Block → Text
  | ⟨_, kind, children⟩ => if kind.isVoid then [] else Node.proseOf children

/-- The text of the leaves among and below nodes, those inside of images left aside. -/
def Node.proseOf : List Node → Text
  | [] => []
  | .leaf l :: rest => l.text ++ Node.proseOf rest
  | .block b :: rest => b.prose ++ Node.proseOf rest

end

/-- The text of the leaves of a document, those inside of images left aside. -/
def Document.prose (d : Document) : Text := Node.proseOf d.children

mutual

/-- The prose is part of the whole text. -/
theorem Block.prose_sublist_text : (b : Block) → b.prose.Sublist b.text
  | ⟨_, kind, children⟩ => by
    rw [Block.prose, Block.text]
    split
    next => exact List.nil_sublist _
    next => exact Node.proseOf_sublist_textOf children

theorem Node.proseOf_sublist_textOf : (ns : List Node) → (Node.proseOf ns).Sublist (Node.textOf ns)
  | [] => List.Sublist.refl []
  | .leaf l :: rest => (List.Sublist.refl l.text).append (Node.proseOf_sublist_textOf rest)
  | .block b :: rest => (Block.prose_sublist_text b).append (Node.proseOf_sublist_textOf rest)

end

/-! ## Leaves that are passed over -/

mutual

/-- The prose of a block without the leaves that stand directly in blocks of some sort. -/
def Block.proseBut (skips : Block → Bool) : Block → Text
  | ⟨id, kind, children⟩ =>
    if kind.isVoid then []
    else if skips ⟨id, kind, children⟩ then Node.proseButOf skips children
    else Node.proseOf children

/-- The prose of the blocks among nodes, without the leaves directly in blocks of some sort. -/
def Node.proseButOf (skips : Block → Bool) : List Node → Text
  | [] => []
  | .leaf _ :: rest => Node.proseButOf skips rest
  | .block b :: rest => b.proseBut skips ++ Node.proseButOf skips rest

end

/-- The prose of a document without the leaves that stand directly in blocks of some sort. -/
def Document.proseBut (skips : Block → Bool) (d : Document) : Text :=
  Node.proseButOf skips d.children

/-- Blocks of some sort hold no leaves. -/
def Document.NoneSkipped (skips : Block → Bool) (d : Document) : Prop :=
  Node.Everywhere (fun b => skips b = true → Node.AreBlocks b.children) d.children

section
variable {skips : Block → Bool}

mutual

theorem Block.proseBut_eq_prose : (b : Block) →
    b.Everywhere (fun b => skips b = true → Node.AreBlocks b.children) →
      b.proseBut skips = b.prose
  | ⟨id, kind, children⟩, h => by
    rw [Block.proseBut, Block.prose]
    split
    next => rfl
    next =>
      split
      next hskips => exact Node.proseButOf_eq_proseOf children (h.1 hskips) h.2
      next => rfl

theorem Node.proseButOf_eq_proseOf : (ns : List Node) → Node.AreBlocks ns →
    Node.Everywhere (fun b => skips b = true → Node.AreBlocks b.children) ns →
      Node.proseButOf skips ns = Node.proseOf ns
  | [], _, _ => rfl
  | .leaf _ :: _, hns, _ => by cases (Node.areBlocks_cons.mp hns).1
  | .block b :: rest, hns, h => by
    rw [Node.proseButOf, Node.proseOf, Block.proseBut_eq_prose b h.1,
      Node.proseButOf_eq_proseOf rest (Node.areBlocks_cons.mp hns).2 h.2]

end

/-- Where no leaf stands in a block of this sort, nothing of the prose is missing. -/
theorem Document.proseBut_eq_prose {d : Document} (hd : Node.AreBlocks d.children)
    (h : d.NoneSkipped skips) : d.proseBut skips = d.prose :=
  Node.proseButOf_eq_proseOf d.children hd h

end

end BlockNotes
