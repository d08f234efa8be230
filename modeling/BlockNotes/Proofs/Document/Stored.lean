import BlockNotes.Document.Stored
import BlockNotes.Proofs.Document.Bare
import BlockNotes.Proofs.Document.Preserved
import BlockNotes.Proofs.Json.RoundTrip

/-!
# Saving and loading

A document is written as a JSON text and read back.  There are two conditions on a
tree for this to be lossless.  Its kinds are canonical, because reading makes them
so, and no leaf has more than one link, because there is room for one
(`Stored.node_ofBlock`).  A third one is on the document: it is settled, because it
is brought into normal form when it is loaded (`Document.bareAll_ofBlocks`).

Every document that comes about is settled and has canonical kinds
(`Document.Reachable`).  So it has a round trip as long as there is room for its
links and it is not nested too deeply to be read
(`Document.Settled.exists_ofJson?_toJson`).
-/

namespace BlockNotes

/-- At most one address: a stored leaf has room for one. -/
def Marks.AtMostOneLink (ms : Marks) : Prop := ms.links.toList.length ≤ 1

instance : DecidablePred Marks.AtMostOneLink :=
  fun ms => inferInstanceAs (Decidable (ms.links.toList.length ≤ 1))

/-! ## Reading back -/

namespace Kind

/-- The address of an image. -/
def address? : Kind → Option String
  | image url => some url
  | _ => none

/-- A canonical kind is the one that its type stands for. -/
theorem ofStored_storedType {k : Kind} (h : k.IsCanonical) :
    ofStored (some k.storedType) k.language? k.address? = k := by
  cases k with
  | heading level =>
    obtain ⟨hlow, hhigh⟩ := h
    obtain rfl | rfl | rfl : level = 1 ∨ level = 2 ∨ level = 3 := by omega
    · rfl
    · rfl
    · rfl
  | code language =>
    exact canonical_of_isCanonical h
  | _ => rfl

end Kind

namespace Stored

/-- The reading of a string. -/
def Reading.ofString (t : String) : Reading := ⟨.string t.toList, none, none⟩

@[simp] theorem optionalText_ofString (o : Option String) :
    optionalText (o.map Reading.ofString) = some o := by
  cases o with
  | none => rfl
  | some t => simp [optionalText, Reading.text?, Reading.ofString]

/-- The fields of a leaf are told apart, whichever of them are there. -/
theorem ofFields?_leaf (text : Text) (bold italic code : Bool) (link : Option Text) :
    ofFields? (Reading.ofFields (field "text" (.string text) ::
      (flagField "bold" bold ++ flagField "italic" italic ++ flagField "code" code ++
        (link.map fun t => field "link" (.string t)).toList))) =
    some (.leaf { text, marks := { bold, italic, code, links := match link with
      | some t => NameSet.empty.insert (String.ofList t)
      | none => ∅ } }) := by
  cases bold <;> cases italic <;> cases code <;> cases link <;> rfl

/-- A leaf is read back if there is room for its links. -/
theorem node_ofLeaf {l : Leaf} (h : l.marks.AtMostOneLink) :
    (Reading.of (ofLeaf l)).node = some (.leaf l) := by
  obtain ⟨text, bold, italic, code, ⟨links, hlinks⟩⟩ := l
  have hread := ofFields?_leaf text bold italic code (links.getLast?.map String.toList)
  rw [Option.map_map] at hread
  refine hread.trans ?_
  cases links with
  | nil => rfl
  | cons url links =>
    cases links with
    | nil =>
      have hurl : String.ofList url.toList = url := String.ofList_toList
      simp only [List.getLast?_singleton, Option.map_some, hurl]
      rfl
    | cons url' links => exact absurd h (by simp [Marks.AtMostOneLink])

/-- The fields of a block are told apart, whichever of them are there, and none of them is that of a
leaf. -/
theorem ofFields?_block (k : Kind) (v : JsonValue) :
    ofFields? (Reading.ofFields (textField "type" k.storedType ::
      (kindFields k ++ [field "children" v]))) =
    block? (some (Reading.ofString k.storedType)) (k.language?.map Reading.ofString)
      (k.address?.map Reading.ofString) (some (Reading.of v)) := by
  refine Eq.trans ?_ (Option.or_none (o := block? _ _ _ _))
  cases k <;> rfl

/-- A canonical kind is read back. -/
theorem block?_storedType {k : Kind} (h : k.IsCanonical) {r : Reading} {ns : List Node}
    (hr : r.nodes = some ns) :
    block? (some (Reading.ofString k.storedType)) (k.language?.map Reading.ofString)
      (k.address?.map Reading.ofString) (some r) = some (.block ⟨0, k, ns⟩) := by
  have htype := optionalText_ofString (some k.storedType)
  rw [Option.map_some] at htype
  simp only [block?, htype, optionalText_ofString, hr, Option.bind_eq_bind, Option.bind_some,
    Kind.ofStored_storedType h, Block.ofKind, Kind.canonical_of_isCanonical h]

mutual

/-- A block is read back, without identities, if its kinds are canonical and there is room for its
links. -/
theorem node_ofBlock : (b : Block) → Node.MadeOf Kind.IsCanonical Marks.AtMostOneLink (.block b) →
    (Reading.of (ofBlock b)).node = some (.block b.bare)
  | ⟨id, kind, children⟩, h => by
    rw [Node.madeOf_block] at h
    have hnodes : (Reading.of (.array (ofNodes children))).nodes = some (Node.bareAll children) :=
      mapM_node_ofNodes children h.2
    exact (ofFields?_block kind _).trans (block?_storedType h.1 hnodes)

theorem mapM_node_ofNodes : (ns : List Node) →
    Node.AllMadeOf Kind.IsCanonical Marks.AtMostOneLink ns →
    (Reading.ofItems (ofNodes ns)).mapM Reading.node = some (Node.bareAll ns)
  | [], _ => rfl
  | .leaf l :: rest, h => by
    rw [Node.allMadeOf_cons, Node.madeOf_leaf] at h
    rw [ofNodes, Reading.ofItems, List.mapM_cons, node_ofLeaf h.1, mapM_node_ofNodes rest h.2]
    rfl
  | .block b :: rest, h => by
    rw [Node.allMadeOf_cons] at h
    rw [ofNodes, Reading.ofItems, List.mapM_cons, node_ofBlock b h.1, mapM_node_ofNodes rest h.2]
    rfl

end

/-! ## What is written -/

theorem number_notMem_ofLeaf (l : Leaf) : .number ∉ (ofLeaf l).tokens := by
  rw [ofLeaf, JsonValue.tokens, List.mem_cons, not_or]
  refine ⟨nofun, JsonValue.number_notMem_fieldTokens ?_ true⟩
  have hflag : ∀ (name : String) (value : Bool), ∀ f ∈ flagField name value,
      .number ∉ f.value.tokens := by
    intro name value f hf
    rw [flagField] at hf
    split at hf
    · rw [List.mem_singleton.mp hf]
      simp [field, JsonValue.tokens]
    · cases hf
  simp only [List.forall_mem_cons, List.forall_mem_append]
  refine ⟨by simp [field, JsonValue.tokens], ⟨⟨hflag _ _, hflag _ _⟩, hflag _ _⟩, ?_⟩
  intro f hf
  obtain ⟨url, -, rfl⟩ := Option.map_eq_some_iff.mp (Option.mem_toList.mp hf)
  simp [textField, field, JsonValue.tokens]

mutual

theorem number_notMem_ofBlock : (b : Block) → .number ∉ (ofBlock b).tokens
  | ⟨id, kind, children⟩ => by
    rw [ofBlock, JsonValue.tokens, List.mem_cons, not_or]
    refine ⟨nofun, JsonValue.number_notMem_fieldTokens ?_ true⟩
    have hchildren : .number ∉ (JsonValue.array (ofNodes children)).tokens := by
      rw [JsonValue.tokens, List.mem_cons, not_or]
      exact ⟨nofun, JsonValue.number_notMem_itemTokens (number_notMem_ofNodes children) true⟩
    have hkind : ∀ f ∈ kindFields kind, .number ∉ f.value.tokens := by
      cases kind <;> simp [kindFields, textField, field, JsonValue.tokens]
    simp only [List.forall_mem_cons, List.forall_mem_append]
    exact ⟨by simp [textField, field, JsonValue.tokens], hkind, hchildren,
      fun _ hf => absurd hf List.not_mem_nil⟩

/-- What is written has no numbers in it. -/
theorem number_notMem_ofNodes : (ns : List Node) → ∀ v ∈ ofNodes ns, .number ∉ v.tokens
  | [] => fun _ hv => absurd hv List.not_mem_nil
  | .leaf l :: rest => List.forall_mem_cons.mpr ⟨number_notMem_ofLeaf l, number_notMem_ofNodes rest⟩
  | .block b :: rest =>
    List.forall_mem_cons.mpr ⟨number_notMem_ofBlock b, number_notMem_ofNodes rest⟩

end

mutual

theorem ofBlock_bare : (b : Block) → ofBlock b.bare = ofBlock b
  | ⟨_, kind, children⟩ => by
    rw [Block.bare, ofBlock, ofBlock, ofNodes_bareAll children]

/-- Identities are not written. -/
theorem ofNodes_bareAll : (ns : List Node) → ofNodes (Node.bareAll ns) = ofNodes ns
  | [] => rfl
  | .leaf l :: rest => by rw [Node.bareAll, ofNodes, ofNodes, ofNodes_bareAll rest]
  | .block b :: rest => by
    rw [Node.bareAll, ofNodes, ofNodes, ofBlock_bare b, ofNodes_bareAll rest]

end

/-- Where there are only blocks, all nodes are written. -/
theorem map_ofBlock_filterMap {ns : List Node} (h : Node.AreBlocks ns) :
    (ns.filterMap Node.block?).map ofBlock = ofNodes ns := by
  induction ns with
  | nil => rfl
  | cons n ns ih =>
    rw [Node.areBlocks_cons] at h
    cases n with
    | leaf l => cases h.1
    | block b => simp [Node.block?, ofNodes, ih h.2]

end Stored

/-! ## What is read -/

namespace Stored

/-- Whatever is read has canonical kinds and no more links than there is room for. -/
structure Reading.Sound (r : Reading) : Prop where
  node : ∀ n, r.node = some n → Node.MadeOf Kind.IsCanonical Marks.AtMostOneLink n
  nodes : ∀ ns, r.nodes = some ns → Node.AllMadeOf Kind.IsCanonical Marks.AtMostOneLink ns

theorem Reading.sound_of_none (shape : Shape) : Reading.Sound ⟨shape, none, none⟩ :=
  ⟨nofun, nofun⟩

theorem madeOf_block? {type language url children : Option Reading} {n : Node}
    (hchildren : ∀ r, children = some r → r.Sound)
    (h : block? type language url children = some n) :
    Node.MadeOf Kind.IsCanonical Marks.AtMostOneLink n := by
  simp only [block?, Option.bind_eq_bind, Option.bind_eq_some_iff] at h
  obtain ⟨type, -, language, -, url, -, r, hr, ns, hns, heq⟩ := h
  cases heq
  exact Block.madeOf_ofKind _ ((hchildren r hr).nodes ns hns)

theorem madeOf_leaf? {text bold italic code link : Option Reading} {n : Node}
    (h : leaf? text bold italic code link = some n) :
    Node.MadeOf Kind.IsCanonical Marks.AtMostOneLink n := by
  simp only [leaf?, Option.bind_eq_bind, Option.bind_eq_some_iff] at h
  obtain ⟨r, -, h⟩ := h
  split at h
  next t _ =>
    simp only [Option.bind_some, Option.bind_eq_some_iff] at h
    obtain ⟨bold, -, italic, -, code, -, link, -, heq⟩ := h
    cases heq
    refine .leaf ?_
    cases link with
    | none => exact Nat.zero_le 1
    | some url => exact Nat.le_refl 1
  next => cases h

theorem sound_of_atMostOne {name : String} {fields : List (Text × Reading)} {r : Option Reading}
    (hfields : ∀ f ∈ fields, f.2.Sound) (h : atMostOne name fields = some r) :
    ∀ r', r = some r' → r'.Sound := by
  rintro r' rfl
  have hmem : r' ∈ named name fields := by
    unfold atMostOne at h
    split at h
    next => cases h
    next hone =>
      cases h
      rw [hone]
      exact List.mem_singleton_self _
    next => cases h
  obtain ⟨f, hf, rfl⟩ := List.mem_map.mp hmem
  exact hfields f (List.mem_of_mem_filter hf)

theorem madeOf_ofFields? {fields : List (Text × Reading)} (hfields : ∀ f ∈ fields, f.2.Sound)
    {n : Node} (h : ofFields? fields = some n) :
    Node.MadeOf Kind.IsCanonical Marks.AtMostOneLink n := by
  rcases Option.or_eq_some_iff.mp h with h | ⟨-, h⟩
  · simp only [Option.bind_eq_bind, Option.bind_eq_some_iff] at h
    obtain ⟨type, -, language, -, url, -, children, hchildren, h⟩ := h
    exact madeOf_block? (sound_of_atMostOne hfields hchildren) h
  · simp only [Option.bind_eq_bind, Option.bind_eq_some_iff] at h
    obtain ⟨text, -, bold, -, italic, -, code, -, link, -, h⟩ := h
    exact madeOf_leaf? h

theorem madeOf_ofItems? {items : List Reading} (hitems : ∀ r ∈ items, r.Sound) {n : Node}
    (h : ofItems? items = some n) : Node.MadeOf Kind.IsCanonical Marks.AtMostOneLink n := by
  rcases Option.or_eq_some_iff.mp h with h | ⟨-, h⟩
  · split at h
    next type language url children _ =>
      refine madeOf_block? ?_ h
      rintro r ⟨⟩
      exact hitems children (by simp)
    next => cases h
  · exact madeOf_leaf? (Option.ite_none_right_eq_some.mp h).2

theorem allMadeOf_mapM_node {rs : List Reading} (hrs : ∀ r ∈ rs, r.Sound) {ns : List Node}
    (h : rs.mapM Reading.node = some ns) :
    Node.AllMadeOf Kind.IsCanonical Marks.AtMostOneLink ns := by
  induction rs generalizing ns with
  | nil =>
    cases h
    exact Node.allMadeOf_nil
  | cons r rs ih =>
    rw [List.forall_mem_cons] at hrs
    simp only [List.mapM_cons, Option.bind_eq_bind, Option.bind_eq_some_iff] at h
    obtain ⟨n, hn, ms, hms, heq⟩ := h
    cases heq
    exact Node.allMadeOf_cons.mpr ⟨hrs.1.node n hn, ih hrs.2 hms⟩

mutual

theorem Reading.sound_of (v : JsonValue) : (Reading.of v).Sound := by
  match v with
  | .null => exact sound_of_none _
  | .bool b => exact sound_of_none _
  | .number => exact sound_of_none _
  | .string t => exact sound_of_none _
  | .array items =>
    have hitems := Reading.sound_ofItems items
    exact ⟨fun n h => madeOf_ofItems? hitems h, fun ns h => allMadeOf_mapM_node hitems h⟩
  | .object fields => exact ⟨fun n h => madeOf_ofFields? (Reading.sound_ofFields fields) h, nofun⟩

theorem Reading.sound_ofItems (items : List JsonValue) : ∀ r ∈ Reading.ofItems items, r.Sound := by
  match items with
  | [] => exact fun _ hr => absurd hr List.not_mem_nil
  | v :: rest => exact List.forall_mem_cons.mpr ⟨Reading.sound_of v, Reading.sound_ofItems rest⟩

theorem Reading.sound_ofFields (fields : List JsonField) :
    ∀ f ∈ Reading.ofFields fields, f.2.Sound := by
  match fields with
  | [] => exact fun _ hf => absurd hf List.not_mem_nil
  | ⟨name, v⟩ :: rest =>
    exact List.forall_mem_cons.mpr ⟨Reading.sound_of v, Reading.sound_ofFields rest⟩

end

/-- Blocks at the root are taken as they are. -/
theorem map_block_map_rootBlock {ns : List Node} (h : Node.AreBlocks ns) :
    (ns.map rootBlock).map .block = ns := by
  induction ns with
  | nil => rfl
  | cons n ns ih =>
    rw [Node.areBlocks_cons] at h
    cases n with
    | leaf l => cases h.1
    | block b => rw [List.map_cons, List.map_cons, ih h.2]; rfl

theorem madeOf_rootBlock {n : Node} (h : Node.MadeOf Kind.IsCanonical Marks.AtMostOneLink n) :
    Node.MadeOf Kind.IsCanonical Marks.AtMostOneLink (.block (rootBlock n)) := by
  cases h with
  | leaf marks => exact Block.madeOf_ofKind _ (Node.allMadeOf_singleton.mpr (.leaf marks))
  | block kind children => exact .block kind children

end Stored

/-! ## Documents -/

namespace Document

variable {d : Document}

/-- A document as a JSON value. -/
def stored (d : Document) : JsonValue := .array (d.blocks.map Stored.ofBlock)

theorem stored_eq (h : Node.AreBlocks d.children) : d.stored = .array (Stored.ofNodes d.children) := by
  rw [stored, blocks, Stored.map_ofBlock_filterMap h]

/-- Trees that are the same but for identities are written alike. -/
theorem toJson_congr {d' : Document} (h : Node.AreBlocks d.children)
    (h' : Node.AreBlocks d'.children)
    (hbare : Node.bareAll d'.children = Node.bareAll d.children) : d'.toJson = d.toJson := by
  have hnodes : Stored.ofNodes d'.children = Stored.ofNodes d.children := by
    rw [← Stored.ofNodes_bareAll, hbare, Stored.ofNodes_bareAll]
  show d'.stored.write = d.stored.write
  rw [stored_eq h, stored_eq h', hnodes]

/-- A document is made of the blocks that are read, if they are settled. -/
theorem bareAll_ofBlocks {bs : List Block} (hne : bs ≠ [])
    (hsettled : Node.Everywhere Block.Settled (bs.map .block)) :
    Node.bareAll (ofBlocks bs).children = Node.bareAll (bs.map .block) := by
  have hadopt := Node.bareAll_adoptAll (bs.map .block) 1
  have hnew : Document.Settled
      ⟨(Node.adoptAll (bs.map .block) 1).1, none, 0, (Node.adoptAll (bs.map .block) 1).2⟩ := by
    refine ⟨?_, ?_, ?_⟩
    · intro hnil
      have hlength := congrArg List.length (Node.map_isLeaf_adoptAll (bs.map .block) 1)
      dsimp only at hnil
      rw [hnil] at hlength
      simp only [List.map_nil, List.length_nil, List.length_map] at hlength
      exact hne (List.length_eq_zero_iff.mp hlength.symm)
    · exact (Node.areBlocks_iff_of_map_isLeaf (Node.map_isLeaf_adoptAll _ 1)).mpr
        (Node.areBlocks_map_block bs)
    · dsimp only
      rw [← Node.everywhere_settled_bareAll, hadopt, Node.everywhere_settled_bareAll]
      exact hsettled
  have hchildren : (ofBlocks bs).children = (Node.adoptAll (bs.map .block) 1).1 :=
    congrArg Document.children hnew.normalize_eq
  rw [hchildren, hadopt]

/-- No leaf has more than one link. -/
def AtMostOneLink (d : Document) : Prop :=
  ∀ l ∈ Node.leavesOf d.children, l.marks.AtMostOneLink

instance : Decidable d.AtMostOneLink :=
  inferInstanceAs (Decidable (∀ l ∈ Node.leavesOf d.children, l.marks.AtMostOneLink))

theorem MadeOf.atMostOneLink {K : Kind → Prop} (h : d.MadeOf K Marks.AtMostOneLink) :
    d.AtMostOneLink :=
  ((Node.allMadeOf_iff _).mp h).2

/-- A settled document is read back from what is written for it. -/
theorem Settled.exists_ofJson?_toJson (hd : d.Settled)
    (hmade : d.MadeOf Kind.IsCanonical Marks.AtMostOneLink)
    (hdepth : d.stored.depth ≤ JsonValue.maxOpen) :
    ∃ d', ofJson? d.toJson = some d' ∧ Node.bareAll d'.children = Node.bareAll d.children ∧
      d'.toJson = d.toJson := by
  have hnumber : .number ∉ d.stored.tokens := by
    rw [stored_eq hd.areBlocks, JsonValue.tokens, List.mem_cons, not_or]
    exact ⟨nofun, JsonValue.number_notMem_itemTokens (Stored.number_notMem_ofNodes _) true⟩
  have htext : JsonValue.ofText? d.toJson = some d.stored := JsonValue.ofText?_write hnumber hdepth
  have hnodes : (Stored.Reading.of d.stored).nodes = some (Node.bareAll d.children) := by
    rw [stored_eq hd.areBlocks]
    exact Stored.mapM_node_ofNodes _ hmade
  have hblocks : Node.AreBlocks (Node.bareAll d.children) :=
    (Node.areBlocks_iff_of_map_isLeaf (Node.map_isLeaf_bareAll d.children)).mpr hd.areBlocks
  have hroot := Stored.map_block_map_rootBlock hblocks
  generalize hbs : (Node.bareAll d.children).map Stored.rootBlock = bs at hroot
  have hne : bs ≠ [] := by
    rintro rfl
    have hlength := congrArg List.length (Node.map_isLeaf_bareAll d.children)
    rw [← hroot] at hlength
    exact hd.nonempty (List.length_eq_zero_iff.mp (by simpa using hlength.symm))
  have hbare : Node.bareAll (ofBlocks bs).children = Node.bareAll d.children := by
    rw [bareAll_ofBlocks hne, hroot, Node.bareAll_bareAll]
    rw [hroot, Node.everywhere_settled_bareAll]
    exact hd.blocks
  refine ⟨ofBlocks bs, ?_, hbare, toJson_congr hd.areBlocks (usable_ofBlocks bs).settled.areBlocks hbare⟩
  rw [ofJson?, htext, Option.bind_eq_bind, Option.bind_some, hnodes, Option.bind_eq_bind,
    Option.bind_some, hbs]

/-! ## Documents that come about -/

/-- A document that is loaded is made of blocks with canonical kinds and enough room for their
links. -/
theorem exists_of_ofJson? {t : Text} (h : ofJson? t = some d) :
    ∃ bs : List Block, d = ofBlocks bs ∧
      ∀ b ∈ bs, Node.MadeOf Kind.IsCanonical Marks.AtMostOneLink (.block b) := by
  simp only [ofJson?, Option.bind_eq_bind, Option.bind_eq_some_iff] at h
  obtain ⟨v, -, nodes, hnodes, heq⟩ := h
  cases heq
  refine ⟨_, rfl, List.forall_mem_map.mpr ?_⟩
  intro n hn
  exact Stored.madeOf_rootBlock ((Stored.Reading.sound_of v).nodes nodes hnodes n hn)

theorem exists_of_ofContent (t : Text) :
    ∃ bs : List Block, ofContent t = ofBlocks bs ∧
      ∀ b ∈ bs, Node.MadeOf Kind.IsCanonical Marks.AtMostOneLink (.block b) := by
  unfold ofContent
  split
  next => exact ⟨[], rfl, fun _ hb => absurd hb List.not_mem_nil⟩
  next =>
    cases hjson : ofJson? t with
    | some d => exact exists_of_ofJson? hjson
    | none =>
      refine ⟨[.ofText .paragraph t], rfl, List.forall_mem_singleton.mpr ?_⟩
      exact Block.madeOf_ofKind _ (Node.allMadeOf_singleton.mpr (.leaf (Nat.zero_le 1)))

/-- Documents that come about: new ones of blocks whose kinds are canonical, those that are loaded,
and what commands make of them. -/
inductive Reachable : Document → Prop where
  /-- A document of given blocks. -/
  | ofBlocks {bs : List Block}
      (hbs : ∀ b ∈ bs, Node.MadeOf Kind.IsCanonical (fun _ => True) (.block b)) :
      Reachable (ofBlocks bs)
  /-- A document that a JSON text stores. -/
  | ofJson {t : Text} {d : Document} (h : ofJson? t = some d) : Reachable d
  /-- The document of the content of a file. -/
  | ofContent (t : Text) : Reachable (ofContent t)
  /-- What a command makes of a document, whatever came of it. -/
  | perform {d : Document} {c : Command} (hd : Reachable d)
      (hc : c.MadeOf Kind.IsCanonical fun _ => True) : Reachable (d.perform c)

/-- Each of them comes from new blocks by a run of commands. -/
theorem Reachable.exists_run (hd : d.Reachable) : ∃ (bs : List Block) (cs : List Command),
    (∀ b ∈ bs, Node.MadeOf Kind.IsCanonical (fun _ => True) (.block b)) ∧
      (∀ c ∈ cs, c.MadeOf Kind.IsCanonical fun _ => True) ∧ d = (Document.ofBlocks bs).run cs := by
  have hnew : ∀ {d : Document} {bs : List Block}, d = Document.ofBlocks bs →
      (∀ b ∈ bs, Node.MadeOf Kind.IsCanonical Marks.AtMostOneLink (.block b)) →
      ∃ (bs : List Block) (cs : List Command),
        (∀ b ∈ bs, Node.MadeOf Kind.IsCanonical (fun _ => True) (.block b)) ∧
          (∀ c ∈ cs, c.MadeOf Kind.IsCanonical fun _ => True) ∧
            d = (Document.ofBlocks bs).run cs := by
    intro d bs heq hbs
    exact ⟨bs, [], fun b hb => (hbs b hb).mono (fun _ h => h) fun _ _ => trivial,
      fun _ hc => absurd hc List.not_mem_nil, heq⟩
  induction hd with
  | @ofBlocks bs hbs => exact ⟨bs, [], hbs, fun _ hc => absurd hc List.not_mem_nil, rfl⟩
  | ofJson h =>
    obtain ⟨bs, heq, hbs⟩ := exists_of_ofJson? h
    exact hnew heq hbs
  | ofContent t =>
    obtain ⟨bs, heq, hbs⟩ := exists_of_ofContent t
    exact hnew heq hbs
  | @perform d c hd hc ih =>
    obtain ⟨bs, cs, hbs, hcs, rfl⟩ := ih
    refine ⟨bs, cs ++ [c], hbs, List.forall_mem_append.mpr ⟨hcs, List.forall_mem_singleton.mpr hc⟩, ?_⟩
    rw [run_append]
    rfl

theorem Reachable.wellNumbered (hd : d.Reachable) : d.WellNumbered := by
  obtain ⟨bs, cs, -, -, rfl⟩ := hd.exists_run
  exact wellNumbered_run (wellNumbered_ofBlocks bs) cs

theorem Reachable.settled (hd : d.Reachable) : d.Settled := by
  obtain ⟨bs, cs, -, -, rfl⟩ := hd.exists_run
  exact ((usable_ofBlocks bs).run (wellNumbered_ofBlocks bs) cs).settled

/-- All kinds are canonical. -/
theorem Reachable.madeOf (hd : d.Reachable) : d.MadeOf Kind.IsCanonical fun _ => True := by
  obtain ⟨bs, cs, hbs, hcs, rfl⟩ := hd.exists_run
  exact (madeOf_ofBlocks trivial trivial hbs).run Kind.isCanonical_canonical trivial
    (wellNumbered_ofBlocks bs) hcs

/-- Commands that bring in no marks do not bring in links. -/
theorem RunsTo.atMostOneLink {d' : Document} (h : d.RunsTo d') (hd : d.WellNumbered)
    (hlinks : d.AtMostOneLink) : d'.AtMostOneLink := by
  obtain ⟨cs, hcs, rfl⟩ := h
  have hmade : d.MadeOf (fun _ => True) Marks.AtMostOneLink :=
    (Node.allMadeOf_iff _).mpr ⟨Node.everywhere_iff.mpr fun _ _ _ => trivial, hlinks⟩
  refine (hmade.run (fun _ => trivial) (Nat.zero_le 1) hd ?_).atMostOneLink
  intro c hc
  have hplain := hcs c hc
  cases c with
  | insertBlock path b =>
    refine Node.MadeOf.mono (fun _ _ => trivial) ?_ hplain.1
    rintro ms rfl
    exact Nat.zero_le 1
  | _ => trivial

end Document

end BlockNotes
