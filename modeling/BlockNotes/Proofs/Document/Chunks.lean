import BlockNotes.Proofs.Document.Caret
import BlockNotes.Proofs.Document.Clearing

/-!
# Typing in chunks

It makes no difference whether a text is typed at once or in chunks, down to single
characters (`Document.typesAs_flatten`): the tree is the same afterwards, and so is the
selection, and typing is refused in both cases or in none.

The first chunk clears the selection, and that is refused or not whatever the text is.
Then one block takes the text.  Its surroundings in normal form are a frame around its
own normal form (`Document.Frame`), the same one for every text.  So typing more comes
to putting it into the block in the frame, and there the result does not depend on the
cut (`Block.normalize_withText_withText`).
-/

namespace BlockNotes

namespace Node

/-! ## The frame around a block -/

/-- A place is changed in one way. -/
theorem Focus.setChildren_eq {ns : List Node} {p : Path} {cs : List Node}
    {put : List Node → List Node} (h : Focus ns p cs put) (new : List Node) :
    setChildren ns p new = put new := by
  induction h with
  | here ns => cases ns <;> rfl
  | step front back b below ih => rw [setChildren_cons, ih]

/-- The normal form of nodes around a block that stays. -/
theorem filter_normalizeAll_around (front back : List Node) {b : Block}
    (hkept : (Node.block b.normalize).isEmptyList = false) :
    (normalizeAll (front ++ .block b :: back)).filter (fun n => !n.isEmptyList) =
      (normalizeAll front).filter (fun n => !n.isEmptyList) ++
        .block b.normalize :: (normalizeAll back).filter fun n => !n.isEmptyList := by
  rw [normalizeAll_append, normalizeAll, List.filter_append,
    List.filter_cons_of_pos (by rw [hkept]; rfl)]

/-- What is left around a place in the normal form does not depend on what is there, as long as blocks
are left of it. -/
theorem Focus.exists_normal {ns : List Node} {p : Path} {cs : List Node}
    {put : List Node → List Node} (h : Focus ns p cs put) :
    ∃ q put', (∀ kept, Focus (put' kept) q kept put') ∧
      ∀ new kept, (normalizeAll new).filter (fun n => !n.isEmptyList) = kept → AreBlocks kept →
        kept ≠ [] → (normalizeAll (put new)).filter (fun n => !n.isEmptyList) = put' kept := by
  induction h with
  | here ns => exact ⟨[], id, fun kept => .here kept, fun new kept hkept _ _ => hkept⟩
  | @step front back b p cs put below ih =>
    obtain ⟨q, put', hfocus, hnormal⟩ := ih
    refine ⟨_, _, fun kept => .step ((normalizeAll front).filter fun n => !n.isEmptyList)
      ((normalizeAll back).filter fun n => !n.isEmptyList) { b with children := put' kept }
      (hfocus kept), ?_⟩
    intro new kept hkept hblocks hne
    have hnot := (hfocus kept).not_areLeaves_put (hblocks.not_areLeaves hne)
    have hblock : ({ b with children := put new } : Block).normalize =
        { b with children := put' kept } := by
      rw [Block.normalize, hnormal new kept hkept hblocks hne, if_neg]
      rw [Bool.and_eq_true, not_and]
      exact fun _ hleaves => hnot (areLeaves_iff.mpr hleaves)
    have hput : put' kept ≠ [] := by
      intro hnil
      rw [hnil] at hnot
      exact hnot (areLeaves_iff.mpr rfl)
    refine (filter_normalizeAll_around front back ?_).trans (by rw [hblock])
    rw [hblock, isEmptyList, List.isEmpty_eq_false_iff.mpr hput, Bool.and_false]

end Node

mutual

/-- Blocks in normal form hold only leaves or only blocks, if they did so before. -/
theorem Block.everywhere_homogeneous_normalize : (b : Block) →
    b.Everywhere (fun b => Node.Homogeneous b.children) →
      b.normalize.Everywhere fun b => Node.Homogeneous b.children
  | ⟨id, kind, children⟩, ⟨hsort, hbelow⟩ => by
    have hnormal := Node.everywhere_homogeneous_normalizeAll children hbelow
    have hsort := Node.homogeneous_filter_normalizeAll hsort
    rw [Block.normalize]
    split
    next =>
      have hall : Node.AreLeaves ((Leaf.normalize (((Node.normalizeAll children).filter
          fun n => !n.isEmptyList).filterMap Node.leaf?)).map .leaf) := by
        intro n hn
        obtain ⟨l, -, rfl⟩ := List.mem_map.mp hn
        rfl
      exact ⟨.inl hall, Node.everywhere_of_areLeaves hall⟩
    next => exact ⟨hsort, hnormal⟩

/-- Nodes in normal form hold only leaves or only blocks, if they did so before. -/
theorem Node.everywhere_homogeneous_normalizeAll : (ns : List Node) →
    Node.Everywhere (fun b => Node.Homogeneous b.children) ns →
      Node.Everywhere (fun b => Node.Homogeneous b.children)
        ((Node.normalizeAll ns).filter fun n => !n.isEmptyList)
  | [], _ => trivial
  | .leaf _ :: rest, h => Node.everywhere_homogeneous_normalizeAll rest h
  | .block b :: rest, h => by
    have hrest := Node.everywhere_homogeneous_normalizeAll rest h.2
    rw [Node.normalizeAll, List.filter_cons]
    split
    next => exact ⟨Block.everywhere_homogeneous_normalize b h.1, hrest⟩
    next => exact hrest

end

namespace Document

variable {d d' : Document} {path q : Path} {b c : Block} {n : Nat} {a t : Text}

/-- A tree around a block at a path. -/
structure Frame (q : Path) (around : Block → List Node) : Prop where
  blockAt? : ∀ c, Node.blockAt? (around c) q = some c
  setChildren : ∀ c ns, Node.setChildren (around c) q ns = around { c with children := ns }

/-- In the normal form of a document there is a frame around the normal form of a block that holds
leaves, and it is the same one for all leaves. -/
theorem exists_frame (hd : Node.Uniform d.children) (hb : d.blockAt? path = some b) :
    ∃ q around, Frame q around ∧ ∀ ns, Node.AreLeaves ns → ns ≠ [] →
      ({ d with children := Node.setChildren d.children path ns } : Document).normalize =
        { d with children := around ({ b with children := ns } : Block).normalize } := by
  obtain ⟨parent, front, back, rfl, hcs⟩ := Node.exists_siblings_of_blockAt? hb
  have hfocus := Node.focus_setChildren hcs
  obtain ⟨q, put, hput, hnormal⟩ := hfocus.exists_normal
  have hblocks := (hfocus.uniform_children hd).areBlocks
  rw [Node.areBlocks_append, Node.areBlocks_cons] at hblocks
  have hfront := Node.areBlocks_filter_normalizeAll hblocks.1
  have hback := Node.areBlocks_filter_normalizeAll hblocks.2.2
  generalize hfront' : (Node.normalizeAll front).filter (fun n => !n.isEmptyList) = front' at hfront
  generalize hback' : (Node.normalizeAll back).filter (fun n => !n.isEmptyList) = back' at hback
  have hat : ∀ kept, Node.childrenAt? (put kept) q = some kept :=
    fun kept => (hput kept).childrenAt?_put kept
  have hall : ∀ c, Node.AreBlocks (front' ++ .block c :: back') := by
    intro c
    rw [Node.areBlocks_append, Node.areBlocks_cons]
    exact ⟨hfront, rfl, hback⟩
  have hleft : ∀ c, put (front' ++ .block c :: back') ≠ [] := by
    intro c hnil
    have hnot := (hput (front' ++ .block c :: back')).not_areLeaves_put
      (Node.not_areLeaves_insert front' back' c)
    rw [hnil] at hnot
    exact hnot (Node.areLeaves_iff.mpr rfl)
  refine ⟨q ++ [front'.length], fun c => put (front' ++ .block c :: back'), ⟨?_, ?_⟩, ?_⟩
  · exact fun c => Node.blockAt?_of_childrenAt? (hat _)
  · intro c ns
    rw [Node.setChildren_concat (hat _), (hput _).setChildren_eq]
  · intro ns hns hne
    have hstays : (Node.block ({ b with children := ns } : Block).normalize).isEmptyList = false := by
      obtain ⟨-, hne'⟩ := Block.areLeaves_normalize (b := { b with children := ns })
        (Node.areLeaves_iff.mp hns) hne
      rw [Node.isEmptyList, List.isEmpty_eq_false_iff.mpr hne', Bool.and_false]
    have hkept := Node.filter_normalizeAll_around front back hstays
    rw [hfront', hback'] at hkept
    have hnew : Node.AreBlocks (front ++ .block { b with children := ns } :: back) := by
      rw [Node.areBlocks_append, Node.areBlocks_cons]
      exact ⟨hblocks.1, rfl, hblocks.2.2⟩
    have hroot := hfocus.areBlocks_put (.inr hd.areBlocks) hnew
    have htree := hnormal _ _ hkept (hall _) (by simp)
    have hblocks' := Node.areBlocks_filter_normalizeAll hroot
    rw [htree] at hblocks'
    refine normalize_eq_of_kept ?_ hblocks' (hleft _)
    show (Node.normalizeAll (Node.setChildren _ _ _)).filter _ = _
    rw [Node.setChildren_concat hcs, htree]

/-- The normal form of a document of blocks that hold only leaves or only blocks is regular. -/
theorem regular_normalize (hd : Node.Uniform d.children) (hids : d.ids.Nodup) :
    d.normalize.Regular := by
  have hsettled := settled_normalize d
  refine ⟨nodup_ids_normalize hd.areBlocks hids, ⟨hsettled.areBlocks, ?_⟩, hsettled.blocks⟩
  have hsort := Node.everywhere_homogeneous_normalizeAll d.children hd.homogeneous
  unfold normalize
  dsimp only
  rw [wrapLeaves_of_areBlocks (Node.areBlocks_filter_normalizeAll hd.areBlocks)]
  split
  next =>
    have hleaf : Node.AreLeaves [.leaf {}] := by
      intro n hn
      rw [List.mem_singleton.mp hn]
      rfl
    exact ⟨⟨.inl hleaf, Node.everywhere_of_areLeaves hleaf⟩, trivial⟩
  next => exact hsort

/-! ## A place to type -/

/-- Text can be typed at an offset of the block at a path. -/
structure Typable (d : Document) (path : Path) (b : Block) (n : Nat) : Prop where
  uniform : Node.Uniform d.children
  nodup : d.ids.Nodup
  blockAt? : d.blockAt? path = some b
  areLeaves : Node.AreLeaves b.children
  nonempty : b.children ≠ []
  isBoundary : (Node.ownText b.children).isBoundary n = true
  isVoid : b.kind.isVoid = false

/-- The document with text put in at an offset of the block at a path, finished. -/
def withText (d : Document) (path : Path) (b : Block) (n : Nat) (t : Text) : Document :=
  { d with children := Node.setChildren d.children path (b.withText n t).children }.committed
    (some (.collapsed ⟨b.id, n + t.bytes⟩))

/-- A document with another version. -/
def withVersion (d : Document) (v : Nat) : Document :=
  { d with version := v }

namespace Typable

theorem insertText?_eq (h : d.Typable path b n) (t : Text) :
    Node.insertText? b.children n t = some (b.withText n t).children ∧
      Node.AreLeaves (b.withText n t).children ∧ (b.withText n t).children ≠ [] :=
  Block.insertText?_eq h.areLeaves h.nonempty h.isBoundary t

/-- Where text can be typed, putting it in comes to an end. -/
theorem certain_insertAt (h : d.Typable path b n) (ht : t ≠ []) (changed : List BlockId) :
    EditM.Certain (EditM.insertAt t (⟨b.id, n⟩, changed)) d fun e d' =>
      e = .goTo (changed ++ [b.id]) ⟨b.id, n + t.bytes⟩ ∧
        d' = { d with children := Node.setChildren d.children path (b.withText n t).children } := by
  unfold EditM.insertAt
  refine (EditM.certain_editable h.nodup h.blockAt? (Node.areLeaves_iff.mp h.areLeaves) h.isVoid).bind ?_
  rintro _ _ ⟨rfl, rfl⟩
  rw [if_neg (by simpa using ht)]
  exact .step (EditM.editChildren_eq h.nodup h.blockAt? (h.insertText?_eq t).1) (.pure ⟨rfl, rfl⟩)

/-- The normal form of the document with text in its place: the frame around the normal form of the
block. -/
theorem exists_around (h : d.Typable path b n) : ∃ q around, Frame q around ∧ ∀ t,
    ({ d with children := Node.setChildren d.children path (b.withText n t).children } :
      Document).normalize = { d with children := around (b.withText n t).normalize } := by
  obtain ⟨q, around, hframe, hnormal⟩ := exists_frame h.uniform h.blockAt?
  refine ⟨q, around, hframe, fun t => ?_⟩
  obtain ⟨-, hleaves, hne⟩ := h.insertText?_eq t
  exact hnormal _ hleaves hne

end Typable

/-- Other leaves in a block leave a tree uniform. -/
theorem uniform_setChildren (hd : Node.Uniform d.children) (hb : d.blockAt? path = some b)
    {ns : List Node} (hns : Node.AreLeaves ns) :
    Node.Uniform (Node.setChildren d.children path ns) := by
  obtain ⟨parent, front, back, rfl, hcs⟩ := Node.exists_siblings_of_blockAt? hb
  have hfocus := Node.focus_setChildren hcs
  have hsiblings := hfocus.uniform_children hd
  have hall := hsiblings
  rw [List.append_cons, Node.uniform_append, Node.uniform_append] at hall
  rw [Node.setChildren_concat hcs, List.append_cons]
  refine hfocus.uniform_put hd hsiblings.areBlocks ?_
  rw [Node.uniform_append, Node.uniform_append]
  exact ⟨⟨hall.1.1, Node.uniform_of_areLeaves hns⟩, hall.2⟩

/-- Behind the text that was put in stands the cursor. -/
theorem Typable.cursorIn (h : d.Typable path b n) {around : Block → List Node}
    (hframe : Frame q around)
    (hnormal : ({ d with children := Node.setChildren d.children path (b.withText n t).children } :
      Document).normalize = { d with children := around (b.withText n t).normalize })
    (v : Nat) :
    ((d.withText path b n t).withVersion v).CursorIn q (b.withText n t).normalize (n + t.bytes) := by
  obtain ⟨-, hleaves, hne⟩ := h.insertText?_eq t
  have hids := (Edited.put_leaves (G := True) h.blockAt? hleaves).toNumbered.nodup rfl h.nodup
  have hregular := regular_normalize (uniform_setChildren h.uniform h.blockAt? hleaves) hids
  obtain ⟨hleaves', hne'⟩ := Block.areLeaves_normalize (Node.areLeaves_iff.mp hleaves) hne
  have htext := Node.areLeaves_iff.mp hleaves'
  have hc : ({ d with children := Node.setChildren d.children path (b.withText n t).children } :
      Document).normalize.blockAt? q = some (b.withText n t).normalize := by
    rw [hnormal]
    exact hframe.blockAt? _
  have hin : BlockPoint.In ⟨b.id, n + t.bytes⟩
      ({ d with children := Node.setChildren d.children path (b.withText n t).children } :
        Document).normalize q (b.withText n t).normalize := by
    refine ⟨hc, Block.id_normalize _, ?_⟩
    rw [Node.ownText_congr hleaves' hleaves (Block.marked_normalize _)]
    exact Block.isBoundary_withText h.areLeaves h.nonempty h.isBoundary t
  have hcursor := cursorAt_committed (exists_resolve? hregular.nodup hin htext
    ((hregular.isTextBlock_eq hc).symm.trans htext))
  refine ⟨hregular.of_children _ _, hc, htext, ?_⟩
  rw [Block.id_normalize]
  exact hcursor

/-! ## Typing more -/

theorem CursorIn.typable (h : d.CursorIn path b n) (hvoid : b.kind.isVoid = false) :
    d.Typable path b n :=
  ⟨h.regular.uniform, h.regular.nodup, h.blockAt?, h.areLeaves,
    (h.regular.settled_of_blockAt? h.blockAt?).nonempty, h.isBoundary, hvoid⟩

/-- At a cursor where text can be edited, text is put in. -/
theorem CursorIn.apply_insertText (h : d.CursorIn path b n) (hvoid : b.kind.isVoid = false)
    (ht : t ≠ []) : ∃ patch, d.apply (.insertText t) = (.ok patch, d.withText path b n t) := by
  have hedit : EditM.Certain (d.edit (.insertText t)) d fun e d' =>
      e = .goTo [b.id] ⟨b.id, n + t.bytes⟩ ∧
        d' = { d with children := Node.setChildren d.children path (b.withText n t).children } := by
    refine h.refilled.certain_insertText hvoid ?_
    rw [if_neg (by simpa using ht)]
    exact .step (EditM.editChildren_eq h.regular.nodup h.blockAt? ((h.typable hvoid).insertText?_eq t).1)
      (.pure ⟨rfl, rfl⟩)
  obtain ⟨e, d', patch, ⟨rfl, rfl⟩, happly⟩ := apply_of_certain rfl hedit
  rw [finished_goTo] at happly
  exact ⟨patch, happly⟩

/-- At a cursor where text can be edited, putting in nothing changes nothing. -/
theorem CursorIn.apply_insertText_nil (h : d.CursorIn path b n) (hvoid : b.kind.isVoid = false) :
    ∃ patch, d.apply (.insertText []) = (.ok patch, d) := by
  have hedit : EditM.Certain (d.edit (.insertText [])) d fun e d' =>
      e = .goTo [] ⟨b.id, n⟩ ∧ d' = d :=
    h.refilled.certain_insertText hvoid (.pure ⟨rfl, rfl⟩)
  obtain ⟨e, d', patch, ⟨rfl, rfl⟩, happly⟩ := apply_of_certain rfl hedit
  exact ⟨patch, happly⟩

/-- Where a range goes depends on the tree only. -/
theorem resolveRange_congr (h : d.children = d'.children) (r : BlockRange) :
    d.resolveRange r = d'.resolveRange r := by
  obtain ⟨children, s, v, next⟩ := d
  obtain ⟨children', s', v', next'⟩ := d'
  cases h
  rfl

/-- What becomes of two documents with the same normal form is the same but for the version. -/
theorem exists_committed_eq (hchildren : d.normalize.children = d'.normalize.children)
    (hnext : d.normalize.nextId = d'.normalize.nextId) (place : Option BlockRange) :
    ∃ v, d.committed place = (d'.committed place).withVersion v := by
  have hplace : place.map d.normalize.resolveRange = place.map d'.normalize.resolveRange := by
    cases place with
    | none => rfl
    | some r => exact congrArg some (resolveRange_congr hchildren r)
  refine ⟨(d.committed place).version, ?_⟩
  unfold committed
  rw [hplace]
  generalize d.normalize = e at hchildren hnext ⊢
  generalize d'.normalize = e' at hchildren hnext ⊢
  obtain ⟨children, s, v, next⟩ := e
  obtain ⟨children', s', v', next'⟩ := e'
  cases hchildren
  cases hnext
  rfl

/-- Other leaves in a block of a regular document are all that is brought into normal form. -/
theorem Regular.normalize_setChildren (hd : d.Regular) (hb : d.blockAt? path = some b)
    {ns : List Node} (hns : Node.AreLeaves ns) (hne : ns ≠ []) :
    ({ d with children := Node.setChildren d.children path ns } : Document).normalize =
      { d with children :=
          Node.setChildren d.children path ({ b with children := ns } : Block).normalize.children } := by
  have hswapped := Swapped.setChildren hb ns
  have hnew : Node.Filled [.block { b with children := ns }] :=
    Node.filled_block.mpr ⟨⟨hne, Node.everywhere_of_areLeaves hns⟩, trivial⟩
  have hfilled := hswapped.filled hd Node.areBlocks_block hnew (List.cons_ne_nil _ _)
  have hnormal := hswapped.normalize hd Node.areBlocks_block hnew (List.cons_ne_nil _ _)
  rw [Node.normalizeAll, Block.normalize_eq (b := { b with children := ns }) rfl] at hnormal
  have hchildren := hnormal.eq_setChildren
  rw [hfilled.normalize_eq] at hchildren ⊢
  exact congrArg (fun children => ({ d with children } : Document)) hchildren

/-- A text in the place of the frame, behind one that was put in, comes to both texts at once. -/
theorem Typable.exists_withText_eq (h : d.Typable path b n) (ha : a ≠ []) (t : Text) (v : Nat)
    {around : Block → List Node} (hframe : Frame q around)
    (hnormal : ∀ t, ({ d with children := Node.setChildren d.children path (b.withText n t).children } :
      Document).normalize = { d with children := around (b.withText n t).normalize }) :
    ∃ v', ((d.withText path b n a).withVersion v).withText q (b.withText n a).normalize
        (n + a.bytes) t = (d.withText path b n (a ++ t)).withVersion v' := by
  have hcursor := h.cursorIn hframe (hnormal a) v
  have hvoid : (b.withText n a).normalize.kind.isVoid = false := by
    rw [Block.kind_normalize]
    exact h.isVoid
  obtain ⟨-, hleaves, hne⟩ := (hcursor.typable hvoid).insertText?_eq t
  have hchildren : ((d.withText path b n a).withVersion v).children =
      around (b.withText n a).normalize := by
    show ({ d with children := Node.setChildren d.children path (b.withText n a).children } :
      Document).normalize.children = _
    rw [hnormal]
  have hnext : ((d.withText path b n a).withVersion v).nextId = d.nextId := by
    show ({ d with children := Node.setChildren d.children path (b.withText n a).children } :
      Document).normalize.nextId = _
    rw [hnormal]
  have hblock := Block.normalize_withText_withText h.areLeaves h.nonempty h.isBoundary ha t
  have hid : (b.withText n a).normalize.id = b.id := Block.id_normalize _
  generalize (b.withText n a).normalize = c at hcursor hleaves hne hchildren hblock hid ⊢
  generalize (d.withText path b n a).withVersion v = e at hcursor hchildren hnext ⊢
  have hput := hcursor.regular.normalize_setChildren hcursor.blockAt? hleaves hne
  have hplace : n + a.bytes + t.bytes = n + (a ++ t).bytes := by
    rw [Text.bytes_append, Nat.add_assoc]
  unfold withText
  rw [hid, hplace]
  refine exists_committed_eq ?_ ?_ _
  · rw [hput, hnormal, ← hblock]
    dsimp only
    rw [hchildren, hframe.setChildren]
    exact congrArg around (Block.normalize_eq (b := c.withText (n + a.bytes) t) rfl).symm
  · rw [hput, hnormal]
    exact hnext

/-- More text behind a text that was put in comes to both texts at once. -/
theorem Typable.apply_insertText_behind (h : d.Typable path b n) (ha : a ≠ []) (t : Text) (v : Nat) :
    ∃ patch v', ((d.withText path b n a).withVersion v).apply (.insertText t) =
      (.ok patch, (d.withText path b n (a ++ t)).withVersion v') := by
  obtain ⟨q, around, hframe, hnormal⟩ := h.exists_around
  have hcursor := h.cursorIn hframe (hnormal a) v
  have hvoid : (b.withText n a).normalize.kind.isVoid = false := by
    rw [Block.kind_normalize]
    exact h.isVoid
  by_cases ht : t = []
  · obtain ⟨patch, happly⟩ := hcursor.apply_insertText_nil hvoid
    subst ht
    rw [List.append_nil]
    exact ⟨patch, v, happly⟩
  · obtain ⟨patch, happly⟩ := hcursor.apply_insertText hvoid ht
    obtain ⟨v', hsame⟩ := h.exists_withText_eq ha t v hframe hnormal
    rw [hsame] at happly
    exact ⟨patch, v', happly⟩

/-! ## The first chunk -/

/-- Where a selection was cleared, text can be typed if its block can be edited. -/
theorem Typable.of_opened {s : Range} {x : BlockPoint × List BlockId} {σ : Seam}
    (h : EditM.Opened d s x d' σ) (hvoid : σ.block.kind.isVoid = false) :
    ∃ path b n, d'.Typable path b n ∧ x.1 = ⟨b.id, n⟩ := by
  obtain ⟨path, ns, hb, hleaves, hne, hmarked, -⟩ := h.seam.exists_block
  refine ⟨path, _, x.1.offset, ⟨h.seam.uniform, h.seam.nodup, hb, hleaves, hne, ?_, hvoid⟩, ?_⟩
  · rw [Seam.ownText_of_marked hleaves hmarked, h.seam.offset_eq]
    exact Text.isBoundary_iff.mpr ⟨_, _, rfl, rfl⟩
  · rw [← h.seam.block_eq]

/-- Where a selection starts in a block that takes no text, inserting text is refused. -/
theorem Regular.insertText_of_void (hd : d.Regular) {s : Range} (hs : d.selection = some s)
    {anchor : BlockPoint} (hanchor : d.blockPoint s.anchor = .ok anchor)
    (hsite : d.Site s.start path b n) (hvoid : b.kind.isVoid = true) (t : Text) :
    d.apply (.insertText t) = (.error (.refused (.notATextBlock path)), d) := by
  refine refused_of_edit rfl ?_
  show EditM.insertText t d = _
  rw [EditM.insertText_eq, bind_of_ok (EditM.selectionPoint_eq hs hanchor)]
  cases hcollapsed : s.isCollapsed with
  | false => exact bind_of_error (EditM.clearing_of_void hd.nodup hsite hvoid hcollapsed)
  | true =>
    -- The cursor is the start of the selection, and its block is asked for in front of the text.
    have hstart : s.start = s.anchor := by
      rw [Range.start, ← (of_decide_eq_true hcollapsed : s.anchor = s.focus), ite_self]
    rw [hstart] at hsite
    cases hsite.blockPoint_eq.symm.trans hanchor
    rw [EditM.clearing_bind, hcollapsed, if_pos rfl, pure_bind]
    exact bind_of_error (EditM.editable_of_void hd.nodup hsite.blockAt? hvoid)

/-- Where a selection starts in a block that can be edited, there is a place where text is put in. -/
theorem Regular.exists_typable (hd : d.Regular) {s : Range} (hs : d.selection = some s)
    (haddr : d.AddressesBoth s) {anchor : BlockPoint} (hanchor : d.blockPoint s.anchor = .ok anchor)
    (hsite : d.Site s.start path b n) (hvoid : b.kind.isVoid = false) :
    ∃ (d₁ : Document) (q : Path) (c : Block) (m : Nat), d₁.Typable q c m ∧
      ∀ t : Text, t ≠ [] →
        ∃ patch, d.apply (.insertText t) = (.ok patch, d₁.withText q c m t) := by
  obtain ⟨⟨p, changed⟩, d₁, hok, -, σ, hopened, hblock⟩ :=
    EditM.certain_clearing hd haddr hanchor hsite hvoid
  obtain ⟨q, c, m, hplace, hp⟩ := Typable.of_opened hopened (hblock ▸ hvoid)
  cases hp
  refine ⟨d₁, q, c, m, hplace, fun t ht => ?_⟩
  have hedit : EditM.Certain (d.edit (.insertText t)) d fun e d' =>
      e = .goTo (changed ++ [c.id]) ⟨c.id, m + t.bytes⟩ ∧
        d' = { d₁ with children := Node.setChildren d₁.children q (c.withText m t).children } := by
    show EditM.Certain (EditM.insertText t) d _
    rw [EditM.insertText_eq]
    exact .step (EditM.selectionPoint_eq hs hanchor) (.step hok (hplace.certain_insertAt ht changed))
  obtain ⟨e, d₂, patch, ⟨rfl, rfl⟩, happly⟩ := apply_of_certain rfl hedit
  have hnamed : (Effect.goTo (changed ++ [c.id]) ⟨c.id, m + t.bytes⟩).changed ≠ [] :=
    List.append_ne_nil_of_right_ne_nil changed (List.cons_ne_nil _ _)
  rw [finished, if_neg hnamed] at happly
  exact ⟨patch, happly⟩

/-- Inserting text is refused whatever the text is, or there is a place where it is put in. -/
theorem Ready.insertText_cases (hd : d.Ready) :
    (∃ e, ∀ t, d.apply (.insertText t) = (.error (.refused e), d)) ∨
      ∃ (d₁ : Document) (q : Path) (c : Block) (m : Nat), d₁.Typable q c m ∧
        ∀ t : Text, t ≠ [] →
          ∃ patch, d.apply (.insertText t) = (.ok patch, d₁.withText q c m t) := by
  cases hs : d.selection with
  | none =>
    left
    refine ⟨.noSelection, fun t => refused_of_edit rfl ?_⟩
    show EditM.insertText t d = _
    rw [EditM.insertText_eq]
    refine bind_of_error ?_
    rw [EditM.selectionPoint, get_bind, hs]
    rfl
  | some s =>
    have haddr := hd.selection s hs
    obtain ⟨anchor, hanchor⟩ := addresses_iff.mp haddr.1
    obtain ⟨path, b, n, hsite⟩ := hd.regular.exists_site haddr.start_stop.1
    cases hvoid : b.kind.isVoid with
    | true => exact .inl ⟨_, hd.regular.insertText_of_void hs hanchor hsite hvoid⟩
    | false => exact .inr (hd.regular.exists_typable hs haddr hanchor hsite hvoid)

/-! ## Chunks -/

/-- Types one text after another, until one is refused. -/
def typeAll (d : Document) : List Text → Except Halt Unit × Document
  | [] => (.ok (), d)
  | t :: ts =>
    match d.apply (.insertText t) with
    | (.ok _, d') => d'.typeAll ts
    | (.error e, d') => (.error e, d')

theorem typeAll_cons_of_ok {patch : Patch} (h : d.apply (.insertText t) = (.ok patch, d'))
    (ts : List Text) : d.typeAll (t :: ts) = d'.typeAll ts := by
  rw [typeAll, h]

/-- Typing texts one after another is refused if typing another one is, and else comes to the same
document but for its version. -/
def TypesAs (d : Document) (ts : List Text) (t : Text) : Prop :=
  (∃ e, d.typeAll ts = (.error (.refused e), d) ∧
    d.apply (.insertText t) = (.error (.refused e), d)) ∨
  ∃ patch d' v, d.apply (.insertText t) = (.ok patch, d') ∧ d.typeAll ts = (.ok (), d'.withVersion v)

/-- Behind a text that was put in, texts are typed as if they had been put in with it. -/
theorem Typable.exists_typeAll (h : d.Typable path b n) (ha : a ≠ []) (ts : List Text) (v : Nat) :
    ∃ v', ((d.withText path b n a).withVersion v).typeAll ts =
      (.ok (), (d.withText path b n (a ++ ts.flatten)).withVersion v') := by
  induction ts generalizing a v with
  | nil =>
    rw [List.flatten_nil, List.append_nil]
    exact ⟨v, rfl⟩
  | cons t ts ih =>
    obtain ⟨patch, v', happly⟩ := h.apply_insertText_behind ha t v
    obtain ⟨v'', hall⟩ := ih (List.append_ne_nil_of_left_ne_nil ha t) v'
    rw [typeAll_cons_of_ok happly, hall, List.flatten_cons, List.append_assoc]
    exact ⟨v'', rfl⟩

/-- A text is typed in chunks as it is typed at once, if the first chunk is not empty. -/
theorem typesAs_flatten (hd : d.Ready) (ha : a ≠ []) (ts : List Text) :
    d.TypesAs (a :: ts) (a ++ ts.flatten) := by
  rcases hd.insertText_cases with ⟨e, hrefused⟩ | ⟨d₁, path, b, n, hplace, hput⟩
  · refine .inl ⟨e, ?_, hrefused _⟩
    rw [typeAll, hrefused a]
  · obtain ⟨patch, happly⟩ := hput a ha
    obtain ⟨patch', happly'⟩ := hput (a ++ ts.flatten) (List.append_ne_nil_of_left_ne_nil ha _)
    obtain ⟨v, hall⟩ := hplace.exists_typeAll ha ts (d₁.withText path b n a).version
    exact .inr ⟨patch', _, v, happly', (typeAll_cons_of_ok happly ts).trans hall⟩

/-- Two characters over a selection that runs from a bold leaf of one paragraph into the next one. -/
theorem typesAs_flatten_characters :
    let d := (ofBlocks [.ofKind .paragraph [.leaf ⟨['a'], {}⟩, .leaf ⟨['é', 'c'], { bold := true }⟩],
      .ofText .paragraph ['d', 'e']]).run [.select ⟨⟨[1, 0], 1⟩, ⟨[0, 1], 0⟩⟩]
    d.Ready ∧ d.TypesAs [['é'], ['x']] ['é', 'x'] := by
  intro d
  have hsound : ∀ b ∈ [Block.ofKind .paragraph [.leaf ⟨['a'], {}⟩,
      .leaf ⟨['é', 'c'], { bold := true }⟩], .ofText .paragraph ['d', 'e']],
      b.Everywhere Block.Sound := by
    simp only [List.forall_mem_cons]
    exact ⟨Block.everywhere_sound_ofKind _ (.inl (Node.areLeaves_iff.mpr rfl)) trivial,
      Block.everywhere_sound_ofText _ _, fun b hb => absurd hb List.not_mem_nil⟩
  have hd : d.Ready := by
    refine ⟨regular_run hsound (List.forall_mem_singleton.mpr trivial), by decide, ?_⟩
    rintro _ ⟨⟩
    exact ⟨addresses_iff.mpr ⟨⟨2, 1⟩, by rfl⟩, addresses_iff.mpr ⟨⟨1, 1⟩, by rfl⟩⟩
  exact ⟨hd, typesAs_flatten hd (List.cons_ne_nil _ _) [['x']]⟩

end Document

end BlockNotes
