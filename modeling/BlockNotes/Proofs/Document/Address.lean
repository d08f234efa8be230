import BlockNotes.Proofs.Document.Position

/-!
# Addresses

A block is named by its path or by its identity, and a position by a point, which goes by
paths, or by a block point, which goes by identities.  Where identities are distinct each
name can be translated into the other one.

*Blocks.*  The walk lists the blocks by path.  Of two paths in it the earlier one is the
smaller one (`Document.pairwise_lt_walk`): it leads to a place above the other one or to
its left, and no path is there twice.

*Positions.*  A block point is a point again without a loss.  A point is a block point
without a loss only up to the empty space between two leaves: the end of a leaf and the
start of the next one are the same offset of the block, and the way back goes to the end of
the earlier one (`Node.locate_offsetOf`).
-/

namespace BlockNotes

/-! ## The order of paths -/

/-- Of two places the one that comes first has the smaller path. -/
theorem Path.Precedes.lt {p q : Path} (h : Precedes p q) (hne : p ≠ q) : p < q := by
  rcases h with ⟨r, rfl⟩ | hbefore
  · cases r with
    | nil => exact absurd (List.append_nil p).symm hne
    | cons i r =>
      have hlt : p ++ [] < p ++ i :: r := List.append_left_lt (List.nil_lt_cons i r)
      rwa [List.append_nil] at hlt
  · exact hbefore.lt

/-! ## Locating the offset of a position -/

namespace Node

/-- The offset of a position in a leaf is located there or in an earlier leaf. -/
theorem exists_locateFrom_of_getElem? {ns : List Node} {i n : Nat} {l : Leaf} (k : Nat)
    (last : Nat × Nat) (hl : ns[i]? = some (.leaf l)) (hn : n ≤ l.size) :
    ∃ j m, locateFrom k last (size (ns.take i) + n) ns = (k + j, m) ∧ (j < i ∨ j = i ∧ m = n) := by
  induction ns generalizing i k last with
  | nil => cases hl
  | cons x ns ih =>
    cases i with
    | zero =>
      cases hl
      refine ⟨0, n, ?_, .inr ⟨rfl, rfl⟩⟩
      rw [List.take_zero, size, Nat.zero_add, locateFrom, if_pos hn]
      rfl
    | succ i =>
      rw [List.getElem?_cons_succ] at hl
      cases x with
      | leaf l' =>
        rw [List.take_succ_cons, size, locateFrom]
        split
        next => exact ⟨0, _, rfl, .inl (Nat.succ_pos i)⟩
        next =>
          obtain ⟨j, m, hloc, hj⟩ := ih (k + 1) (k, l'.size) hl
          refine ⟨j + 1, m, ?_, by omega⟩
          rw [Nat.add_assoc l'.size, Nat.add_sub_cancel_left, hloc, Nat.add_assoc k, Nat.add_comm 1]
      | block b =>
        obtain ⟨j, m, hloc, hj⟩ := ih (k + 1) last hl
        refine ⟨j + 1, m, ?_, by omega⟩
        rw [List.take_succ_cons, size, locateFrom, hloc, Nat.add_assoc k, Nat.add_comm 1]

theorem locate_offsetOf {ns : List Node} {i n : Nat} {l : Leaf} (hl : ns[i]? = some (.leaf l))
    (hn : n ≤ l.size) :
    (locate ns (offsetOf ns i n)).1 < i ∨ locate ns (offsetOf ns i n) = (i, n) := by
  obtain ⟨j, m, hloc, hj⟩ := exists_locateFrom_of_getElem? 0 (0, 0) hl hn
  rw [locate, offsetOf, hloc, Nat.zero_add]
  rcases hj with hlt | ⟨hji, hmn⟩
  · exact .inl hlt
  · exact .inr (by rw [hji, hmn])

end Node

namespace Document

variable {d : Document} {path : Path} {b : Block}

/-! ## Blocks -/

/-- Where identities are distinct, the paths in the walk ascend. -/
theorem pairwise_lt_walk (hd : d.ids.Nodup) : (d.walk.map Prod.fst).Pairwise (· < ·) := by
  rw [← map_id_walk, List.Nodup, List.pairwise_map] at hd
  rw [List.pairwise_map]
  refine (hd.and (pairwise_walk d)).imp_of_mem ?_
  rintro ⟨p, b⟩ ⟨q, c⟩ hx hy ⟨hne, hpq⟩
  refine hpq.lt fun heq => hne ?_
  have hb : d.blockAt? p = some b := mem_walk.mp hx
  have hc : d.blockAt? q = some c := mem_walk.mp hy
  rw [show p = q from heq, hc] at hb
  cases hb
  rfl

/-! ## Positions -/

/-- A boundary of the text of a block that holds leaves is the position of a point. -/
theorem exists_pointIn? (hd : d.ids.Nodup) (hb : d.blockAt? path = some b)
    (htext : b.isTextBlock = true) (hne : b.children ≠ []) {n : Nat}
    (hn : b.text.isBoundary n = true) :
    ∃ p, d.pointIn? b.id n = some p ∧ d.Addresses p ∧ d.blockPoint p = .ok ⟨b.id, n⟩ := by
  rw [Block.text_eq_ownText htext] at hn
  have hleaf := (Node.areLeaves_iff.mpr htext).any_isLeaf hne
  obtain ⟨p, hp, hpoint⟩ := exists_resolve? hd (p := ⟨b.id, n⟩) ⟨hb, rfl, hn⟩ htext hleaf
  exact ⟨p, hp, addresses_iff.mpr ⟨_, hpoint⟩, hpoint⟩

/-- The point of the position of a point is that point, or the end of an earlier leaf that has the
same position. -/
theorem exists_pointIn?_of_addresses (hd : d.ids.Nodup) (hb : d.blockAt? path = some b)
    (htext : b.isTextBlock = true) {p : Point} (hp : d.Addresses p)
    (hpath : p.path.dropLast = path) :
    ∃ n q, d.blockPoint p = .ok ⟨b.id, n⟩ ∧ d.pointIn? b.id n = some q ∧ d.Addresses q ∧ q ≤ p ∧
      q.path.dropLast = path ∧ d.blockPoint q = .ok ⟨b.id, n⟩ := by
  obtain ⟨r, hpoint⟩ := addresses_iff.mp hp
  obtain ⟨path', i, c, l, hconcat, hc, hl, hoffset, rfl⟩ := exists_leaf_of_blockPoint hpoint
  rw [hconcat, List.dropLast_concat] at hpath
  rw [hpath] at hconcat hc
  cases hb.symm.trans hc
  have hin : BlockPoint.In ⟨b.id, Node.offsetOf b.children i p.offset⟩ d path b :=
    ⟨hb, rfl, Node.isBoundary_offsetOf hl hoffset⟩
  have hleaf : b.children.any Node.isLeaf = true :=
    List.any_eq_true.mpr ⟨_, List.mem_of_getElem? hl, rfl⟩
  have hfound := blockPoint_locate hb hleaf hin.isBoundary
  refine ⟨_, _, hpoint, resolve?_eq hd hin htext, addresses_iff.mpr ⟨_, hfound⟩, ?_,
    List.dropLast_concat, hfound⟩
  -- A point behind `p` would be in a later leaf, or in the same one and further on.
  show ¬ Point.Before _ _
  rw [Point.Before, hconcat]
  rcases Node.locate_offsetOf hl (Text.le_bytes_of_isBoundary hoffset) with hlt | heq
  · rintro (hpath | ⟨hpath, -⟩)
    · exact Nat.lt_asymm hlt (Path.concat_lt_concat_iff.mp hpath)
    · exact Nat.ne_of_gt hlt (List.cons.inj (List.append_cancel_left hpath)).1
  · rw [heq]
    rintro (hpath | ⟨-, hlt⟩)
    · exact Nat.lt_irrefl _ (Path.concat_lt_concat_iff.mp hpath)
    · exact Nat.lt_irrefl _ hlt

/-- Where identities are distinct, addresses are translated both ways.

* A block in the walk is found by its identity and by its path, and the paths ascend.
* In a block that holds leaves each boundary of its text is the position of a point.
* The way from a point in such a block to its position and back comes to a point that is not
  further on and has the same position. -/
theorem addresses_translate (hd : d.ids.Nodup) :
    (∀ path b, (path, b) ∈ d.walk → d.findPath? b.id = some path ∧ d.blockAt? path = some b) ∧
    (d.walk.map Prod.fst).Pairwise (· < ·) ∧
    ∀ path b, (path, b) ∈ d.walk → b.isTextBlock = true → b.children ≠ [] →
      (∀ n, b.text.isBoundary n = true → ∃ p, d.pointIn? b.id n = some p ∧ d.Addresses p ∧
        d.blockPoint p = .ok ⟨b.id, n⟩) ∧
      ∀ p, d.Addresses p → p.path.dropLast = path → ∃ n q, d.blockPoint p = .ok ⟨b.id, n⟩ ∧
        d.pointIn? b.id n = some q ∧ d.Addresses q ∧ q ≤ p ∧ q.path.dropLast = path ∧
        d.blockPoint q = .ok ⟨b.id, n⟩ := by
  refine ⟨fun path b hmem => ?_, pairwise_lt_walk hd, fun path b hmem htext hne => ?_⟩
  · have hb : d.blockAt? path = some b := mem_walk.mp hmem
    exact ⟨findPath?_of_blockAt? hd hb, hb⟩
  · have hb : d.blockAt? path = some b := mem_walk.mp hmem
    exact ⟨fun n hn => exists_pointIn? hd hb htext hne hn,
      fun p hp hpath => exists_pointIn?_of_addresses hd hb htext hp hpath⟩

/-- A paragraph with an empty leaf between two other ones, and a quotation around it. -/
def hollow : Document :=
  { children := [.block ⟨1, .quote, [.block ⟨2, .paragraph,
      [.leaf (.ofText ['é']), .leaf ⟨[], { bold := true }⟩, .leaf (.ofText ['b'])]⟩]⟩]
    selection := none, version := 0, nextId := 3 }

/-- The start of the last leaf is behind two bytes of the text, and so are both ends of the empty one:
the way back goes to the end of the first leaf. -/
theorem addresses_translate_hollow :
    hollow.ids.Nodup ∧ hollow.Addresses ⟨[0, 0, 2], 0⟩ ∧ hollow.findPath? 2 = some [0, 0] ∧
      (∃ n q, hollow.blockPoint ⟨[0, 0, 2], 0⟩ = .ok ⟨2, n⟩ ∧ hollow.pointIn? 2 n = some q ∧
        q ≤ ⟨[0, 0, 2], 0⟩ ∧ hollow.blockPoint q = .ok ⟨2, n⟩) ∧
      hollow.pointIn? 2 2 = some ⟨[0, 0, 0], 2⟩ := by
  have hids : hollow.ids.Nodup := by decide
  have hp : hollow.Addresses ⟨[0, 0, 2], 0⟩ := addresses_iff.mpr ⟨⟨2, 2⟩, rfl⟩
  obtain ⟨hwalk, -, htranslate⟩ := addresses_translate hids
  have hmem : ([0, 0], ⟨2, .paragraph, [.leaf (.ofText ['é']), .leaf ⟨[], { bold := true }⟩,
      .leaf (.ofText ['b'])]⟩) ∈ hollow.walk := .tail _ (.head _)
  obtain ⟨n, q, hpoint, hq, -, hle, -, hback⟩ :=
    (htranslate _ _ hmem rfl (List.cons_ne_nil _ _)).2 _ hp rfl
  exact ⟨hids, hp, (hwalk _ _ hmem).1, ⟨n, q, hpoint, hq, hle, hback⟩, by decide⟩

end Document

end BlockNotes
