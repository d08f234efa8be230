import BlockNotes.Proofs.Document.Seam

/-!
# What a deletion takes away

A deletion of a range in a regular document takes away the characters of the
range and nothing else (`Document.deletes_range`).  Between two blocks the list
of holders is split at both of them.  The one at the end is cut, the one at the
start takes what is left of it, and the holders in between go away from right to
left; each of these steps changes the list at one place.

There is one exception.  A block without text of its own, such as an image, does
not take what is left of the block at the end.  If a range begins in such a block
and ends in another one, the rest of the block at the end is lost with it.
-/

namespace BlockNotes

namespace Document

variable {d : Document}

/-! ## Ranges between two blocks -/

/-- The range begins in a block that takes no text and ends in another one. -/
def IntoVoid (d : Document) (r : Range) : Prop :=
  r.start.path.dropLast ≠ r.stop.path.dropLast ∧
    ∃ b, d.blockAt? r.start.path.dropLast = some b ∧ b.kind.isVoid = true

/-- Where an identity is found in a list without another one of it in front. -/
theorem findIdx?_of_split {front back : List (Path × Block)} {x : Path × Block}
    (hnodup : ((front ++ x :: back).map fun y => y.2.id).Nodup) :
    (front ++ x :: back).findIdx? (fun (_, b) => b.id == x.2.id) = some front.length := by
  rw [List.findIdx?_eq_some_iff_getElem]
  refine ⟨by simp, by simp, ?_⟩
  intro j hj
  rw [List.getElem_append_left hj]
  rw [List.map_append, List.nodup_append] at hnodup
  have hne := hnodup.2.2 _ (List.mem_map_of_mem (List.getElem_mem hj)) x.2.id (by simp)
  simpa using hne

/-- The identities of the text blocks are distinct. -/
theorem Regular.nodup_matching (hd : d.Regular) :
    ((d.matching Block.isTextBlock).map fun x => x.2.id).Nodup := by
  have hnodup := hd.nodup_holders
  rw [← hd.map_snd_matching, List.map_map] at hnodup
  exact hnodup

/-- The text blocks from one block up to another one: those in between, and the holders on both
sides. -/
structure Stretch (d : Document) (p q : Path) (b c : Block) (xs : List Block)
    (mid : List (Path × Block)) (ys : List Block) : Prop where
  holders : Node.holders d.children = xs ++ b :: (mid.map Prod.snd ++ c :: ys)
  /-- Where they are found in the order of the text blocks. -/
  index : ∃ i, (d.matching Block.isTextBlock).findIdx? (fun (_, x) => x.id == b.id) = some i ∧
    (d.matching Block.isTextBlock).findIdx? (fun (_, x) => x.id == c.id) =
      some (i + (mid.length + 1)) ∧
    ((d.matching Block.isTextBlock).drop (i + 1)).take (mid.length + 1) = mid ++ [(q, c)]
  right : ∀ z ∈ mid ++ [(q, c)], Path.Before p z.1
  pairwise : (mid ++ [(q, c)]).Pairwise fun z w => Path.Before z.1 w.1
  blockAt? : ∀ z ∈ mid, d.blockAt? z.1 = some z.2 ∧ Node.AreLeaves z.2.children ∧ z.2.children ≠ []

/-- Of two sites in different blocks, in the order of a range, the first block comes first. -/
theorem Regular.exists_stretch (hd : d.Regular) {r : Range} {p q : Path} {b c : Block} {m n : Nat}
    (hb : d.Site r.start p b m) (hc : d.Site r.stop q c n) (hne : p ≠ q) :
    ∃ xs mid ys, d.Stretch p q b c xs mid ys := by
  have hbefore := pairwise_matching_isTextBlock hd.nodup
  have hmem : (p, b) ∈ d.matching Block.isTextBlock :=
    mem_matching.mpr ⟨hb.blockAt?, hb.isTextBlock⟩
  have hmem' : (q, c) ∈ d.matching Block.isTextBlock :=
    mem_matching.mpr ⟨hc.blockAt?, hc.isTextBlock⟩
  have hids := hd.nodup_matching
  have hholders := hd.map_snd_matching
  have htext : ∀ z ∈ d.matching Block.isTextBlock,
      d.blockAt? z.1 = some z.2 ∧ Node.AreLeaves z.2.children ∧ z.2.children ≠ [] := by
    intro z hz
    obtain ⟨hblock, htext⟩ := mem_matching.mp hz
    exact ⟨hblock, Node.areLeaves_iff.mpr htext, (hd.settled_of_blockAt? hblock).nonempty⟩
  generalize hord : d.matching Block.isTextBlock = order at hmem hmem' hbefore hids hholders htext
  obtain ⟨front, back, rfl⟩ := List.append_of_mem hmem
  rw [List.pairwise_append, List.pairwise_cons] at hbefore
  obtain ⟨-, ⟨hright, hpairwise⟩, hleft⟩ := hbefore
  rcases List.mem_append.mp hmem' with hfront | hback
  · obtain ⟨i, -, hi, -⟩ := hb.leaf
    obtain ⟨j, -, hj, -⟩ := hc.leaf
    exact absurd (hleft _ hfront _ List.mem_cons_self) (EditM.not_before_of_range hi hj)
  · rcases List.mem_cons.mp hback with heq | hback
    · cases heq
      exact absurd rfl hne
    · obtain ⟨mid, back, rfl⟩ := List.append_of_mem hback
      have hassoc : front ++ (p, b) :: (mid ++ (q, c) :: back) =
          (front ++ (p, b) :: mid) ++ (q, c) :: back := by simp
      have hassoc' : mid ++ (q, c) :: back = (mid ++ [(q, c)]) ++ back := by simp
      refine ⟨front.map Prod.snd, mid, back.map Prod.snd, ?_, ⟨front.length, ?_, ?_, ?_⟩, ?_, ?_, ?_⟩
      · rw [← hholders]
        simp
      · rw [hord]
        exact findIdx?_of_split hids
      · rw [hassoc] at hids hord
        rw [hord, findIdx?_of_split hids, List.length_append, List.length_cons]
      · rw [hord, List.drop_length_add_append, List.drop_succ_cons, List.drop_zero,
          List.take_length_add_append]
        rfl
      · intro z hz
        exact hright z (hassoc' ▸ List.mem_append_left _ hz)
      · rw [hassoc', List.pairwise_append] at hpairwise
        exact hpairwise.1
      · intro z hz
        exact htext z (by simp [hz])

/-- The seam of two sites in order: what is left of both blocks, and the holders on both sides. -/
theorem Regular.between (hd : d.Regular) {s e : Point} {p q : Path} {b c : Block} {m n : Nat}
    (hb : d.Site s p b m) (hc : d.Site e q c n) {xs ys zs : List Block}
    (hsplit : Node.holders d.children = xs ++ b :: zs)
    (hsplit' : ∃ mid, Node.holders d.children = xs ++ mid ++ c :: ys) :
    Seam.Between ⟨xs, b, (Node.marked b.children).take ((Node.ownText b.children).charsBefore m),
      (Node.marked c.children).drop ((Node.ownText c.children).charsBefore n), ys⟩ d s e := by
  obtain ⟨mid, hsplit'⟩ := hsplit'
  obtain ⟨xs', zs', hs, -, htake, -⟩ := hd.exists_parts hb
  obtain ⟨us, ys', he, -, -, hdrop⟩ := hd.exists_parts hc
  obtain ⟨rfl, rfl⟩ := Node.eq_of_split hd.nodup_holders hsplit hs
  obtain ⟨rfl, rfl⟩ := Node.eq_of_split hd.nodup_holders hsplit' he
  refine ⟨htake, hdrop, ?_, ?_⟩
  · rw [hb.above_eq]
    exact hb.blockAt?
  · intro path x hx hxtext hout
    rw [hb.above_eq, hc.above_eq] at hout
    rw [List.mem_append]
    exact hout.imp (hd.mem_of_lt hb.blockAt? hb.isTextBlock hx hxtext hsplit).1
      (hd.mem_of_lt hc.blockAt? hc.isTextBlock hx hxtext hsplit').2

/-- Before a later position in the same block there are at least as many characters. -/
theorem Regular.charsBefore_mono (hd : d.Regular) {s e : Point} {path : Path} {b : Block} {m n : Nat}
    (hs : d.Site s path b m) (he : d.Site e path b n) (hle : m ≤ n) :
    d.charsBefore s ≤ d.charsBefore e := by
  obtain ⟨xs, ys, hsplit, hcount, -⟩ := hd.exists_parts hs
  obtain ⟨xs', ys', hsplit', hcount', -⟩ := hd.exists_parts he
  obtain ⟨rfl, rfl⟩ := Node.eq_of_split hd.nodup_holders hsplit hsplit'
  rw [hcount, hcount']
  exact Nat.add_le_add_left (Text.charsBefore_mono _ hle) _

/-- Before the end of a range there are at least as many characters as before its start. -/
theorem Regular.charsBefore_start_le (hd : d.Regular) {r : Range} {p q : Path} {b c : Block}
    {m n : Nat} (hs : d.Site r.start p b m) (he : d.Site r.stop q c n) :
    d.charsBefore r.start ≤ d.charsBefore r.stop := by
  by_cases hpq : p = q
  · cases hpq
    cases hs.blockAt?.symm.trans he.blockAt?
    exact hd.charsBefore_mono hs he (hs.offset_le he (le_stop r))
  · obtain ⟨xs, mid, ys, hst⟩ := hd.exists_stretch hs he hpq
    obtain ⟨xs', zs', hsplit, hcount, -⟩ := hd.exists_parts hs
    obtain ⟨us, ys', hsplit', hcount', -⟩ := hd.exists_parts he
    have hholders : Node.holders d.children = (xs ++ b :: mid.map Prod.snd) ++ c :: ys := by
      rw [hst.holders]
      simp
    obtain ⟨rfl, rfl⟩ := Node.eq_of_split hd.nodup_holders hst.holders hsplit
    obtain ⟨rfl, rfl⟩ := Node.eq_of_split hd.nodup_holders hholders hsplit'
    have hle : (Node.ownText b.children).charsBefore m ≤ (Node.marked b.children).length := by
      rw [Node.length_marked_of_areLeaves hs.areLeaves]
      exact Text.charsBefore_le_length _ _
    rw [hcount, hcount', Node.charsOf_append, Node.charsOf_cons, List.length_append,
      List.length_append]
    omega

end Document

namespace EditM

variable {d : Document}

/-! ## Removing holders -/

theorem Certain.and {α : Type} {m : EditM α} {P Q : α → Document → Prop} (hm : Certain m d P)
    (hm' : Certain m d Q) : Certain m d fun a d' => P a d' ∧ Q a d' := by
  obtain ⟨a, d', hok, hP⟩ := hm
  obtain ⟨b, d'', hok', hQ⟩ := hm'
  cases hok.symm.trans hok'
  exact ⟨a, d', hok, hP, hQ⟩

theorem Certain.ofExcept {α β : Type} {o : Except DocumentError α} {a : α} {f : α → EditM β}
    {Q : β → Document → Prop} (ho : o = .ok a) (h : Certain (f a) d Q) :
    Certain (EditM.ofExcept o >>= f) d Q := by
  cases ho
  exact h

theorem removeNode_eq {parent : Path} {front back : List Node} {n : Node}
    (hcs : Node.childrenAt? d.children parent = some (front ++ n :: back)) :
    removeNode (parent ++ [front.length]) d =
      .ok ⟨⟩ { d with children := Node.setChildren d.children parent (front ++ back) } := by
  have herase : (front ++ n :: back).eraseIdx front.length = front ++ back := by
    rw [List.eraseIdx_append_of_length_le (Nat.le_refl _), Nat.sub_self, List.eraseIdx_cons_zero]
  have hlt : front.length < (front ++ n :: back).length := by simp
  rw [removeNode, get_bind]
  simp only [Path.split?_concat, hcs, if_pos hlt, herase]
  rfl

/-- Which nodes are removed is a matter of the paths. -/
theorem forM_removeNode (zs : List (Path × Block)) :
    (zs.forM fun (path, _) => removeNode path) = (zs.map Prod.fst).forM removeNode := by
  induction zs with
  | nil => rfl
  | cons z zs ih =>
    show (removeNode z.1 >>= fun _ => zs.forM fun (path, _) => removeNode path) =
      removeNode z.1 >>= fun _ => (zs.map Prod.fst).forM removeNode
    rw [ih]

/-- Removing holders at paths from right to left takes them out of the list of holders. -/
theorem certain_removeHolders {zs : List (Path × Block)}
    (hzs : ∀ z ∈ zs, d.blockAt? z.1 = some z.2 ∧ Node.AreLeaves z.2.children ∧ z.2.children ≠ [])
    (horder : zs.Pairwise fun z w => Path.Before w.1 z.1) (hd : Node.Uniform d.children)
    (hnodup : ((Node.holders d.children).map Block.id).Nodup) {xs ys : List Block}
    (hsplit : Node.holders d.children = xs ++ (zs.map Prod.snd).reverse ++ ys) :
    Certain ((zs.map Prod.fst).forM removeNode) d fun _ d' =>
      Node.Uniform d'.children ∧ Node.holders d'.children = xs ++ ys := by
  induction zs generalizing d with
  | nil => exact .pure ⟨hd, by simpa using hsplit⟩
  | cons z zs ih =>
    rw [List.forall_mem_cons] at hzs
    rw [List.pairwise_cons] at horder
    obtain ⟨⟨hb, hleaves, hne⟩, hrest⟩ := hzs
    obtain ⟨parent, front, back, hpath, hcs⟩ := Node.exists_siblings_of_blockAt? hb
    obtain ⟨xs', ys', hsplit', -, hput⟩ := Node.exists_holders_replace hd hcs hleaves hne
    have hsame : Node.holders d.children = (xs ++ (zs.map Prod.snd).reverse) ++ z.2 :: ys := by
      rw [hsplit]
      simp
    obtain ⟨rfl, rfl⟩ := Node.eq_of_split hnodup hsame hsplit'
    obtain ⟨huniform, hholders⟩ := hput [] Node.uniform_nil
    simp only [List.append_nil, Node.holders_nil] at huniform hholders
    have hstep : removeNode z.1 d = .ok ⟨⟩
        { d with children := Node.setChildren d.children parent (front ++ back) } := by
      rw [hpath]
      exact removeNode_eq hcs
    show Certain (removeNode z.1 >>= fun _ => (zs.map Prod.fst).forM removeNode) d _
    refine Certain.step hstep (ih ?_ horder.2 huniform ?_ hholders)
    · -- The blocks that are left to remove stand to the left and do not notice.
      intro w hw
      have hbefore : Path.Before w.1 (parent ++ [front.length]) := hpath ▸ horder.1 w hw
      obtain ⟨hw', hrest'⟩ := hrest w hw
      refine ⟨?_, hrest'⟩
      rw [← hw']
      exact Node.blockAt?_setChildren_of_before hcs hbefore (by simp)
    · rw [hholders]
      rw [hsame] at hnodup
      refine hnodup.sublist (List.Sublist.map _ ?_)
      exact (List.sublist_cons_self _ _).append_left _

/-! ## Deleting a range -/

/-- What a deletion leaves behind in a regular document. -/
structure Excised (r : Range) (d : Document) (x : BlockPoint × List BlockId) (d' : Document) :
    Prop where
  start : d.blockPoint r.start = .ok x.1
  changed : x.2 ≠ []
  /-- What was before the range and what was behind it meet.  Where the range begins in a block that
  takes no text, what was behind its end up to the end of that block is not there any more. -/
  seam : ∃ σ : Document.Seam, σ.In d' x.1 ∧ (¬ d.IntoVoid r → σ.Between d r.start r.stop) ∧
    (d.IntoVoid r → ∃ e, d.endOf r.stop.path.dropLast = .ok e ∧ σ.Between d r.start e)

/-- A deletion within one block. -/
theorem certain_exciseWithin (hd : d.Regular) {r : Range} {path : Path} {b : Block} {m n : Nat}
    (hs : d.Site r.start path b m) (he : d.Site r.stop path b n) :
    Certain
      (do
        editChildren b.id fun b => Node.eraseText? m n b.children
        pure ((⟨b.id, m⟩ : BlockPoint), [b.id]))
      d (Excised r d) := by
  have hle := hs.offset_le he (Document.le_stop r)
  obtain ⟨ns, hns⟩ := Node.exists_eraseText? hs.isBoundary he.isBoundary
  have hleaves : Node.AreLeaves ns := Node.areLeaves_iff.mpr
    ((Node.all_isLeaf_eq_of_map_block? (Node.map_block?_eraseText? hns)).trans hs.isTextBlock)
  have hne := Node.ne_nil_of_eraseText? hns hs.ne_nil
  have hmarked := Node.marked_eraseText? hs.areLeaves hle hs.isBoundary he.isBoundary hns
  obtain ⟨xs, ys, hsplit, -⟩ := hd.exists_parts hs
  obtain ⟨huniform, hholders⟩ := Node.holders_setChildren hd.uniform hd.nodup_holders hs.blockAt?
    hs.areLeaves hs.ne_nil hsplit hleaves hne
  refine Certain.step (editChildren_eq hd.nodup hs.blockAt? hns) (.pure ?_)
  refine ⟨hs.blockPoint_eq, List.cons_ne_nil _ _, _, ⟨huniform, ?_, ⟨ns, hleaves, hne, hmarked,
    hholders⟩, rfl, (Node.bytes_take_marked hs.areLeaves hs.isBoundary).symm⟩,
    fun _ => hd.between hs he hsplit ⟨[], by simpa using hsplit⟩, ?_⟩
  · exact (Document.Edited.put_leaves (G := True) hs.blockAt? hleaves).toNumbered.nodup rfl hd.nodup
  · rintro ⟨hpaths, -⟩
    exact absurd (hs.above_eq.trans he.above_eq.symm) hpaths

/-- A block gives up its text from an offset on, and takes a tail if it takes any text. -/
theorem exists_joinTail {b : Block} {m : Nat} (hleaves : Node.AreLeaves b.children)
    (hne : b.children ≠ []) (hm : (Node.ownText b.children).isBoundary m = true)
    {tail : List Node} (htail : Node.AreLeaves tail) :
    ∃ ns, ((Node.eraseText? m (Node.size b.children) b.children).map fun ns =>
        if b.kind.isVoid then ns else ns ++ tail) = some ns ∧ Node.AreLeaves ns ∧ ns ≠ [] ∧
      Node.marked ns = (Node.marked b.children).take ((Node.ownText b.children).charsBefore m) ++
        if b.kind.isVoid then [] else Node.marked tail := by
  have hend : (Node.ownText b.children).isBoundary (Node.size b.children) = true := by
    rw [← Node.bytes_ownText]
    exact Text.isBoundary_bytes _
  have hle : m ≤ Node.size b.children := by
    rw [← Node.bytes_ownText]
    exact Text.le_bytes_of_isBoundary hm
  obtain ⟨ms, hms⟩ := Node.exists_eraseText? hm hend
  have hmsleaves : Node.AreLeaves ms := Node.areLeaves_iff.mpr
    ((Node.all_isLeaf_eq_of_map_block? (Node.map_block?_eraseText? hms)).trans
      (Node.areLeaves_iff.mp hleaves))
  have hmsne := Node.ne_nil_of_eraseText? hms hne
  have hmarked := Node.marked_eraseText? hleaves hle hm hend hms
  rw [← Node.bytes_ownText, Text.charsBefore_bytes, ← Node.length_marked_of_areLeaves hleaves,
    List.drop_length, List.append_nil] at hmarked
  rw [hms, Option.map_some, ← hmarked]
  refine ⟨_, rfl, ?_⟩
  split
  next => exact ⟨hmsleaves, hmsne, (List.append_nil _).symm⟩
  next =>
    exact ⟨Node.areLeaves_append.mpr ⟨hmsleaves, htail⟩, List.append_ne_nil_of_left_ne_nil hmsne _,
      Node.marked_append _ _⟩

/-- The end of a deletion between two blocks: the block at its start takes what is left of the one at
its end, and the holders from right to left up to the start go away. -/
theorem certain_joinHolders (hd : Node.Uniform d.children) (hids : d.ids.Nodup) {path : Path}
    {b : Block} {m : Nat} (hb : d.blockAt? path = some b) (hleaves : Node.AreLeaves b.children)
    (hne : b.children ≠ []) (hm : (Node.ownText b.children).isBoundary m = true)
    {tail : List Node} (htail : Node.AreLeaves tail) {zs : List (Path × Block)}
    (hzs : ∀ z ∈ zs, d.blockAt? z.1 = some z.2 ∧ Node.AreLeaves z.2.children ∧ z.2.children ≠ [])
    (horder : zs.Pairwise fun z w => Path.Before w.1 z.1)
    (hright : ∀ z ∈ zs, Path.Before path z.1) {xs ys : List Block}
    (hsplit : Node.holders d.children = xs ++ b :: ((zs.map Prod.snd).reverse ++ ys))
    (a : BlockPoint × List BlockId) :
    Certain
      (do
        editChildren b.id fun b =>
          (Node.eraseText? m (Node.size b.children) b.children).map fun ns =>
            if b.kind.isVoid then ns else ns ++ tail
        zs.forM fun (path, _) => removeNode path
        pure a)
      d fun x d' => x = a ∧ Document.Seam.In
        ⟨xs, b, (Node.marked b.children).take ((Node.ownText b.children).charsBefore m),
          if b.kind.isVoid then [] else Node.marked tail, ys⟩ d' ⟨b.id, m⟩ := by
  obtain ⟨ns, hput, hnsleaves, hnsne, hnsmarked⟩ := exists_joinTail hleaves hne hm htail
  obtain ⟨huniform, hholders⟩ := Node.holders_setChildren hd (Node.nodup_map_id_holders hids) hb
    hleaves hne hsplit hnsleaves hnsne
  have hids' : (Document.ids { d with children := Node.setChildren d.children path ns }).Nodup :=
    (Document.Edited.put_leaves (G := True) hb hnsleaves).toNumbered.nodup rfl hids
  have hzs' : ∀ z ∈ zs, Node.blockAt? (Node.setChildren d.children path ns) z.1 = some z.2 ∧
      Node.AreLeaves z.2.children ∧ z.2.children ≠ [] := by
    intro z hz
    rw [Node.blockAt?_setChildren_of_after (hright z hz)]
    exact hzs z hz
  have hsplit' : Node.holders (Node.setChildren d.children path ns) =
      (xs ++ [{ b with children := ns }]) ++ (zs.map Prod.snd).reverse ++ ys :=
    hholders.trans (by simp)
  have hremove : Certain ((zs.map Prod.fst).forM removeNode)
      { d with children := Node.setChildren d.children path ns } fun _ d' =>
        Node.Uniform d'.children ∧
          Node.holders d'.children = (xs ++ [{ b with children := ns }]) ++ ys :=
    certain_removeHolders hzs' horder huniform (Node.nodup_map_id_holders hids') hsplit'
  rw [← forM_removeNode] at hremove
  refine Certain.step (editChildren_eq hids hb hput) ?_
  refine ((certain_removeNodes (G := True) zs).and hremove).bind ?_
  rintro _ d' ⟨hremoved, huniform', hholders'⟩
  refine .pure ⟨rfl, huniform', ?_, ⟨ns, hnsleaves, hnsne, ?_, ?_⟩, rfl, ?_⟩
  · exact hremoved.edited.toNumbered.nodup hremoved.nextId hids'
  · exact hnsmarked
  · rw [hholders']
    simp
  · exact (Node.bytes_take_marked hleaves hm).symm

/-- The rest of a deletion between two blocks, after the one at its end has been cut. -/
theorem certain_joinStretch (hd : d.Regular) {p q : Path} {b c : Block} {xs ys : List Block}
    {mid : List (Path × Block)} (hst : d.Stretch p q b c xs mid ys) {s e : Point} {m n : Nat}
    (hs : d.Site s p b m) (he : d.Site e q c n) {cut rest : List Node}
    (hcut : Node.splitLeaves? c.children n = some (cut, rest)) (a : BlockPoint × List BlockId) :
    Certain
      (do
        editChildren b.id fun b =>
          (Node.eraseText? m (Node.size b.children) b.children).map fun ns =>
            if b.kind.isVoid then ns else ns ++ rest
        (mid ++ [(q, c)]).reverse.forM fun (path, _) => removeNode path
        pure a)
      { d with children := Node.setChildren d.children q cut } fun x d' => x = a ∧ Document.Seam.In
        ⟨xs, b, (Node.marked b.children).take ((Node.ownText b.children).charsBefore m),
          if b.kind.isVoid then [] else Node.marked rest, ys⟩ d' ⟨b.id, m⟩ := by
  obtain ⟨hcutleaves, hrestleaves⟩ := Node.all_isLeaf_splitLeaves? hcut he.isTextBlock
  obtain ⟨-, -, hcutne⟩ := Node.marked_splitLeaves? he.areLeaves he.ne_nil he.isBoundary hcut
  rw [← Node.areLeaves_iff] at hcutleaves hrestleaves
  have hids := (Document.Edited.put_leaves (G := True) he.blockAt? hcutleaves).toNumbered.nodup rfl
    hd.nodup
  have hsplit : Node.holders d.children = (xs ++ b :: mid.map Prod.snd) ++ c :: ys := by
    rw [hst.holders]
    simp
  obtain ⟨huniform, hholders⟩ := Node.holders_setChildren hd.uniform hd.nodup_holders he.blockAt?
    he.areLeaves he.ne_nil hsplit hcutleaves hcutne
  have hleft : ∀ path, Path.Before path q →
      Node.blockAt? (Node.setChildren d.children q cut) path = Node.blockAt? d.children path := by
    intro path hpath
    exact Node.blockAt?_setChildren_of_before (Node.childrenAt?_of_blockAt? he.blockAt?)
      (hpath.append_right [0]) rfl
  have hpairwise := List.pairwise_append.mp hst.pairwise
  have hmidq : ∀ z ∈ mid, Path.Before z.1 q := fun z hz => hpairwise.2.2 z hz _ List.mem_cons_self
  have hpq : Path.Before p q := hst.right (q, c) (by simp)
  -- The block at the end has been cut, and the others are as before.
  have hzs : ∀ z ∈ (q, { c with children := cut }) :: mid.reverse,
      Node.blockAt? (Node.setChildren d.children q cut) z.1 = some z.2 ∧
        Node.AreLeaves z.2.children ∧ z.2.children ≠ [] := by
    rw [List.forall_mem_cons]
    refine ⟨⟨Node.blockAt?_setChildren_self he.blockAt? cut, hcutleaves, hcutne⟩, ?_⟩
    intro z hz
    rw [List.mem_reverse] at hz
    rw [hleft z.1 (hmidq z hz)]
    exact hst.blockAt? z hz
  have horder : ((q, ({ c with children := cut } : Block)) :: mid.reverse).Pairwise fun z w =>
      Path.Before w.1 z.1 := by
    rw [List.pairwise_cons, List.pairwise_reverse]
    exact ⟨fun z hz => hmidq z (List.mem_reverse.mp hz), hpairwise.1⟩
  have hright : ∀ z ∈ (q, ({ c with children := cut } : Block)) :: mid.reverse,
      Path.Before p z.1 := by
    rw [List.forall_mem_cons]
    exact ⟨hpq, fun z hz => hst.right z (List.mem_append_left _ (List.mem_reverse.mp hz))⟩
  have hpaths : ((mid ++ [(q, c)]).reverse.forM fun (path, _) => removeNode path) =
      ((q, ({ c with children := cut } : Block)) :: mid.reverse).forM fun (path, _) =>
        removeNode path := by
    rw [forM_removeNode, forM_removeNode]
    simp
  have hsplit' : Node.holders (Node.setChildren d.children q cut) = xs ++ b ::
      ((((q, ({ c with children := cut } : Block)) :: mid.reverse).map Prod.snd).reverse ++ ys) := by
    rw [hholders]
    simp
  rw [hpaths]
  exact certain_joinHolders huniform hids ((hleft p hpq).trans hs.blockAt?) hs.areLeaves hs.ne_nil
    hs.isBoundary hrestleaves hzs horder hright hsplit' a

/-- A deletion between two blocks. -/
theorem certain_exciseAcross (hd : d.Regular) {r : Range} {p q : Path} {b c : Block} {m n : Nat}
    (hs : d.Site r.start p b m) (he : d.Site r.stop q c n) (hne : b.id ≠ c.id) :
    Certain (deleteRange r) d (Excised r d) := by
  have hpq : p ≠ q := by
    rintro rfl
    cases hs.blockAt?.symm.trans he.blockAt?
    exact hne rfl
  obtain ⟨xs, mid, ys, hst⟩ := hd.exists_stretch hs he hpq
  obtain ⟨i, hfirst, hlast, hdoomed⟩ := hst.index
  have hfind : d.findPath? c.id = some q := Document.findPath?_of_blockAt? hd.nodup he.blockAt?
  obtain ⟨cut, rest, hcut⟩ := Node.exists_splitLeaves? he.isBoundary
  obtain ⟨-, hrest, -⟩ := Node.marked_splitLeaves? he.areLeaves he.ne_nil he.isBoundary hcut
  have hsplit : Node.holders d.children = (xs ++ b :: mid.map Prod.snd) ++ c :: ys := by
    rw [hst.holders]
    simp
  unfold deleteRange
  refine .get (.ofExcept hs.blockPoint_eq (.ofExcept he.blockPoint_eq ?_))
  dsimp only
  rw [if_neg hne, hfirst, hlast]
  dsimp only
  rw [if_neg (by omega), Nat.add_sub_cancel_left, hdoomed]
  simp only [hfind, he.blockAt?]
  refine .orLost hcut (.putChildren ((certain_joinStretch hd hst hs he hcut _).mono ?_))
  rintro _ d' ⟨rfl, hin⟩
  refine ⟨hs.blockPoint_eq, List.cons_ne_nil _ _, _, hin, ?_, ?_⟩
  · intro hnot
    have hvoid : b.kind.isVoid = false := by
      rw [Bool.eq_false_iff]
      intro hvoid
      rw [Document.IntoVoid, hs.above_eq, he.above_eq] at hnot
      exact hnot ⟨hpq, b, hs.blockAt?, hvoid⟩
    rw [hvoid, if_neg Bool.false_ne_true, hrest]
    exact hd.between hs he hst.holders ⟨_, hsplit⟩
  · rintro ⟨-, b', hb', hvoid⟩
    rw [hs.above_eq] at hb'
    cases hs.blockAt?.symm.trans hb'
    obtain ⟨e, hend, hsite⟩ := he.exists_endOf
    refine ⟨e, by rw [he.above_eq]; exact hend, ?_⟩
    have hbetween := hd.between hs hsite hst.holders ⟨_, hsplit⟩
    rw [Text.charsBefore_bytes, ← Node.length_marked_of_areLeaves he.areLeaves, List.drop_length]
      at hbetween
    rw [hvoid, if_pos rfl]
    exact hbetween

theorem selectionPoint_eq {s : Range} {p : BlockPoint} (hs : d.selection = some s)
    (hp : d.blockPoint s.anchor = .ok p) : selectionPoint d = .ok (s, p) d := by
  rw [selectionPoint, get_bind, hs]
  simp only [orRefuse, pure_bind, hp, ofExcept]
  rfl

/-- A deletion of a range with valid ends comes to an end. -/
theorem certain_excise (hd : d.Regular) {r : Range} (hstart : d.Addresses r.start)
    (hstop : d.Addresses r.stop) : Certain (deleteRange r) d (Excised r d) := by
  obtain ⟨p, b, m, hs⟩ := hd.exists_site hstart
  obtain ⟨q, c, n, he⟩ := hd.exists_site hstop
  by_cases hsame : b.id = c.id
  · obtain ⟨rfl, rfl⟩ := Document.eq_of_id_eq hd.nodup hs.blockAt? he.blockAt? hsame
    unfold deleteRange
    refine .get (.ofExcept hs.blockPoint_eq (.ofExcept he.blockPoint_eq ?_))
    dsimp only
    rw [if_pos rfl]
    exact certain_exciseWithin hd hs he
  · exact certain_exciseAcross hd hs he hsame

end EditM

namespace Document

variable {d : Document}

/-! ## Commands that delete a range -/

/-- A command deletes a range: one that it is given, or the expanded selection. -/
def Deletes (d : Document) (c : Command) (r : Range) : Prop :=
  c = .deleteRange r ∨
    ∃ unit, c = .deleteBackward unit ∧ d.selection = some r ∧ r.isCollapsed = false

theorem AddressesBoth.start_stop {r : Range} (h : d.AddressesBoth r) :
    d.Addresses r.start ∧ d.Addresses r.stop := by
  unfold Range.start Range.stop
  split
  next => exact h
  next => exact h.symm

/-- The edit of a command that deletes a range is the deletion, and the cursor goes to its start. -/
theorem certain_edit_of_deletes (hd : d.Regular) {c : Command} {r : Range} (hc : d.Deletes c r)
    (hr : d.AddressesBoth r) : EditM.Certain (d.edit c) d fun e d' =>
      ∃ x, EditM.Excised r d x d' ∧ e = .goTo x.2 x.1 := by
  have hexcise := EditM.certain_excise hd hr.start_stop.1 hr.start_stop.2
  rcases hc with rfl | ⟨unit, rfl, hselection, hexpanded⟩
  · show EditM.Certain (EditM.deleteRange r >>= fun x => pure (Effect.goTo x.2 x.1)) d _
    refine hexcise.bind ?_
    intro x d' hx
    exact .pure ⟨x, hx, rfl⟩
  · obtain ⟨p, hp⟩ := addresses_iff.mp hr.1
    show EditM.Certain (EditM.deleteBackward unit) d _
    unfold EditM.deleteBackward
    refine EditM.Certain.step (EditM.selectionPoint_eq hselection hp) ?_
    dsimp only
    rw [hexpanded, if_pos (by rfl)]
    refine hexcise.bind ?_
    intro x d' hx
    exact .pure ⟨x, hx, rfl⟩

/-- In a regular document a deletion of a range with valid ends is not refused, and it takes away the
characters between the two ends and no others.  Only if the range goes from a block that takes no
text into another one, then it takes away all up to the end of that block. -/
theorem deletes_range (hd : d.Regular) {c : Command} {r : Range} (hc : d.Deletes c r)
    (hr : d.AddressesBoth r) :
    ∃ p d', d.apply c = (.ok p, d') ∧ d.charsBefore r.start ≤ d.charsBefore r.stop ∧
      (¬ d.IntoVoid r → d'.marked =
        d.marked.take (d.charsBefore r.start) ++ d.marked.drop (d.charsBefore r.stop)) ∧
      (d.IntoVoid r → ∃ e, d.endOf r.stop.path.dropLast = .ok e ∧
        d.charsBefore r.stop ≤ d.charsBefore e ∧
        d'.marked = d.marked.take (d.charsBefore r.start) ++ d.marked.drop (d.charsBefore e)) := by
  have hedits : c.editsContent = true := by
    rcases hc with rfl | ⟨unit, rfl, -⟩ <;> rfl
  obtain ⟨p, b, m, hs⟩ := hd.exists_site hr.start_stop.1
  obtain ⟨q, b', n, he⟩ := hd.exists_site hr.start_stop.2
  obtain ⟨e, d', patch, ⟨x, hx, rfl⟩, happly⟩ :=
    apply_of_certain hedits (certain_edit_of_deletes hd hc hr)
  obtain ⟨σ, hin, hbetween, hinto⟩ := hx.seam
  rw [finished, if_neg (show (Effect.goTo x.2 x.1).changed ≠ [] from hx.changed)] at happly
  refine ⟨_, _, happly, hd.charsBefore_start_le hs he, ?_, ?_⟩
  · intro hnot
    rw [marked_committed, hin.marked_eq, (hbetween hnot).before, (hbetween hnot).after]
  · intro hvoid
    obtain ⟨e, hend, hbetween⟩ := hinto hvoid
    refine ⟨e, hend, ?_, ?_⟩
    · obtain ⟨e', hend', hsite⟩ := he.exists_endOf
      rw [he.above_eq, hend'] at hend
      cases hend
      exact hd.charsBefore_mono he hsite (Text.le_bytes_of_isBoundary he.isBoundary)
    · rw [marked_committed, hin.marked_eq, hbetween.before, hbetween.after]

/-- From a paragraph to the second item of a list: the text between goes away, and so does the
list. -/
theorem deletes_range_list :
    let d := (ofBlocks [.ofText .paragraph ['a', 'b'], .ofKind .bulletList
      [.block (.ofText .listItem ['c']), .block (.ofText .listItem ['d', 'e'])]]).run
        [.select ⟨⟨[1, 1, 0], 1⟩, ⟨[0, 0], 1⟩⟩]
    ∃ p d', d.apply (.deleteBackward .word) = (.ok p, d') ∧ d'.marked = [('a', {}), ('e', {})] := by
  intro d
  have hsound : ∀ b ∈ [Block.ofText .paragraph ['a', 'b'], .ofKind .bulletList
      [.block (.ofText .listItem ['c']), .block (.ofText .listItem ['d', 'e'])]],
      b.Everywhere Block.Sound := by
    intro b hb
    rcases List.mem_cons.mp hb with rfl | hb
    · exact Block.everywhere_sound_ofText _ _
    · rw [List.mem_singleton.mp hb]
      exact Block.everywhere_sound_ofKind _ (.inr (Node.areBlocks_map_block [_, _]))
        ⟨Block.everywhere_sound_ofText _ _, Block.everywhere_sound_ofText _ _, trivial⟩
  have hd : d.Regular := regular_run hsound (List.forall_mem_singleton.mpr trivial)
  have hr : d.AddressesBoth ⟨⟨[1, 1, 0], 1⟩, ⟨[0, 0], 1⟩⟩ :=
    ⟨addresses_iff.mpr ⟨⟨4, 1⟩, by rfl⟩, addresses_iff.mpr ⟨⟨1, 1⟩, by rfl⟩⟩
  obtain ⟨p, d', happly, -, hmarked, -⟩ := deletes_range hd (.inr ⟨.word, rfl, by rfl, by rfl⟩) hr
  refine ⟨p, d', happly, ?_⟩
  rw [hmarked (by rintro ⟨-, b, hb, hvoid⟩; cases hb; cases hvoid)]
  rfl

/-- From an image into a paragraph: the rest of the paragraph is lost. -/
theorem exists_deleteRange_marked_ne :
    let d := ofBlocks [.ofText (.image "a.png") ['a', 'l', 't'], .ofText .paragraph ['a', 'b', 'c']]
    let r : Range := ⟨⟨[0, 0], 1⟩, ⟨[1, 0], 1⟩⟩
    d.WellNumbered ∧ d.IsNormal ∧ d.AddressesBoth r ∧
      (d.perform (.deleteRange r)).marked = [('a', {})] ∧
      d.marked.take (d.charsBefore r.start) ++ d.marked.drop (d.charsBefore r.stop) =
        [('a', {}), ('b', {}), ('c', {})] := by
  intro d r
  have hsound : ∀ b ∈ [Block.ofText (.image "a.png") ['a', 'l', 't'],
      .ofText .paragraph ['a', 'b', 'c']], b.Everywhere Block.Sound := by
    intro b hb
    simp only [List.mem_cons, List.not_mem_nil, or_false] at hb
    rcases hb with rfl | rfl <;> exact Block.everywhere_sound_ofText _ _
  refine ⟨wellNumbered_ofBlocks _, isNormal_ofBlocks hsound, ⟨?_, ?_⟩, by rfl, by rfl⟩
  · exact addresses_iff.mpr ⟨⟨1, 1⟩, by rfl⟩
  · exact addresses_iff.mpr ⟨⟨2, 1⟩, by rfl⟩

end Document

end BlockNotes
