import BlockNotes.Proofs.Document.Selection
import BlockNotes.Proofs.Document.Weight
import Mathlib.Data.Prod.Lex

/-!
# Going down

The *rank* of a document (`Document.rank`) counts, the first one counting most: its bytes
of text, its blocks that are neither paragraphs nor lists, its lists, its blocks, and
whether a range is selected.  Ranks are well-founded, so a document cannot go down for ever.

No single one of these numbers would do.  Blocks that are joined keep their bytes, a
paragraph comes in the place of a heading and not in addition to it, and a selection may be
taken away that covers no text.  Each of these is a way to go down (`Document.Descent`).
Normal form, which comes after every edit, does not lead back up (`Document.Descends.rank_lt`).
A document that is not in normal form stands above all others, as nothing is known of what
becomes of its leaves at the root.
-/

namespace BlockNotes

/-! ## Ranks -/

namespace Scale

/-- Bytes of text. -/
def bytes : Scale := ⟨1, fun _ => 0⟩

/-- Blocks that are neither paragraphs nor lists. -/
def styled : Scale := ⟨0, fun kind => if kind = .paragraph ∨ kind.isList then 0 else 1⟩

/-- Lists. -/
def lists : Scale := ⟨0, fun kind => if kind.isList then 1 else 0⟩

/-- Blocks. -/
def blocks : Scale := ⟨0, fun _ => 1⟩

@[simp] theorem byte_bytes : bytes.byte = 1 := rfl

@[simp] theorem block_bytes (kind : Kind) : bytes.block kind = 0 := rfl

@[simp] theorem block_styled_paragraph : styled.block .paragraph = 0 := rfl

@[simp] theorem block_lists_paragraph : lists.block .paragraph = 0 := rfl

@[simp] theorem block_blocks (kind : Kind) : blocks.block kind = 1 := rfl

theorem block_styled_of_isList {kind : Kind} (h : kind.isList = true) : styled.block kind = 0 :=
  if_pos (.inr h)

theorem block_styled_of_ne {kind : Kind} (h : kind ≠ .paragraph) (hlist : kind.isList = false) :
    styled.block kind = 1 :=
  if_neg (by simp [h, hlist])

theorem block_lists_of_isList {kind : Kind} (h : kind.isList = true) : lists.block kind = 1 :=
  if_pos h

end Scale

namespace Document

variable {d d' : Document}

/-- Whether the selection is a range and no cursor. -/
def isExpanded (d : Document) : Bool := d.selection.any fun r => !r.isCollapsed

open Classical in
/-- How far down a document can go. -/
noncomputable def rank (d : Document) : ℕ ×ₗ ℕ ×ₗ ℕ ×ₗ ℕ ×ₗ ℕ ×ₗ ℕ :=
  toLex (if d.Settled then 0 else 1, toLex (d.weigh .bytes, toLex (d.weigh .styled,
    toLex (d.weigh .lists, toLex (d.weigh .blocks, d.isExpanded.toNat)))))

/-- There is no way down without an end. -/
theorem wellFounded_rank : WellFounded fun d d' : Document => d.rank < d'.rank :=
  InvImage.wf rank wellFounded_lt

theorem Settled.rank_lt_iff (hd : d.Settled) (hd' : d'.Settled) : d'.rank < d.rank ↔
    d'.weigh .bytes < d.weigh .bytes ∨ d'.weigh .bytes = d.weigh .bytes ∧
      (d'.weigh .styled < d.weigh .styled ∨ d'.weigh .styled = d.weigh .styled ∧
        (d'.weigh .lists < d.weigh .lists ∨ d'.weigh .lists = d.weigh .lists ∧
          (d'.weigh .blocks < d.weigh .blocks ∨ d'.weigh .blocks = d.weigh .blocks ∧
            d'.isExpanded.toNat < d.isExpanded.toNat))) := by
  simp [rank, Prod.Lex.toLex_lt_toLex, hd, hd']

/-- What is brought into normal form is below what is not. -/
theorem Settled.rank_lt (hd' : d'.Settled) (hd : ¬ d.Settled) : d'.rank < d.rank := by
  simp [rank, Prod.Lex.toLex_lt_toLex, hd, hd']

/-! ## Ways down -/

/-- A document was edited into another one that is further down, and the selection goes to a place.
What counts more than what goes down has not gone up. -/
inductive Descent (d d' : Document) (place : Option BlockRange) : Prop where
  /-- Text went away. -/
  | text (hbytes : d'.weigh .bytes < d.weigh .bytes)
  /-- A block lost its kind. -/
  | style (hbytes : d'.weigh .bytes ≤ d.weigh .bytes) (hstyled : d'.weigh .styled < d.weigh .styled)
  /-- A list became something else. -/
  | list (hbytes : d'.weigh .bytes ≤ d.weigh .bytes) (hstyled : d'.weigh .styled ≤ d.weigh .styled)
      (hlists : d'.weigh .lists < d.weigh .lists)
  /-- A block went away, and some are left. -/
  | block (hle : ∀ s, d'.weigh s ≤ d.weigh s) (hleft : 0 < d'.weigh .blocks)
      (hblocks : d'.weigh .blocks < d.weigh .blocks)
  /-- A range was deleted, and a cursor is left in its place. -/
  | selection (hle : ∀ s, d'.weigh s ≤ d.weigh s) (hexpanded : d.isExpanded = true) (p : BlockPoint)
      (hplace : place = some (.collapsed p))

theorem weigh_committed (s : Scale) (place : Option BlockRange) :
    (d.committed place).weigh s = d.normalize.weigh s := rfl

theorem settled_committed (d : Document) (place : Option BlockRange) :
    (d.committed place).Settled :=
  (usable_committed d place).settled

/-- A place of a cursor is where a cursor is. -/
theorem isExpanded_committed_collapsed (d : Document) (p : BlockPoint) :
    (d.committed (some (.collapsed p))).isExpanded = false := by
  have hcollapsed : (d.normalize.resolveRange (.collapsed p)).isCollapsed = true := by
    unfold resolveRange BlockRange.collapsed
    cases (d.normalize.resolve? p).or d.normalize.firstPoint? <;>
      simp [Range.isCollapsed, Range.collapsed]
  rw [isExpanded, committed, Option.map_some, Option.any_some, hcollapsed]
  rfl

/-- In a settled document there is a block. -/
theorem Settled.weigh_blocks_pos (hd : d.Settled) : 0 < d.weigh .blocks := by
  obtain ⟨n, ns, hns⟩ := List.exists_cons_of_ne_nil hd.nonempty
  have hblock := hd.areBlocks n (hns ▸ List.mem_cons_self)
  cases n with
  | leaf l => cases hblock
  | block b =>
    rw [weigh, hns, Node.weigh_block, Scale.block_blocks]
    omega

/-- Normal form does not lead back up. -/
theorem Descent.rank_committed_lt {place : Option BlockRange} (h : Descent d d' place)
    (hd : d.Settled) (hblocks : Node.AreBlocks d'.children) :
    (d'.committed place).rank < d.rank := by
  have hsome := hd.weigh_blocks_pos
  have hnormal : ∀ s, (d'.committed place).weigh s ≤ max (d'.weigh s) (s.block .paragraph) :=
    fun s => weigh_normalize_le hblocks
  have hbytes := hnormal .bytes
  have hstyled := hnormal .styled
  have hlists := hnormal .lists
  have hnumber := hnormal .blocks
  simp only [Scale.block_bytes, Scale.block_styled_paragraph, Scale.block_lists_paragraph,
    Scale.block_blocks, Nat.max_zero] at hbytes hstyled hlists hnumber
  rw [hd.rank_lt_iff (settled_committed d' place)]
  cases h with
  | text h => omega
  | style hbytes' h => omega
  | list hbytes' hstyled' h => omega
  | block hle hleft h =>
    have hbytes' := hle .bytes
    have hstyled' := hle .styled
    have hlists' := hle .lists
    omega
  | selection hle hexpanded p hplace =>
    have hbytes' := hle .bytes
    have hstyled' := hle .styled
    have hlists' := hle .lists
    have hnumber' := hle .blocks
    have hcursor : (d'.committed place).isExpanded.toNat < d.isExpanded.toNat := by
      rw [hplace, isExpanded_committed_collapsed, hexpanded]
      exact Nat.zero_lt_one
    omega

/-- A document was edited and the result brought into normal form.  If the document was in normal
form before, the edit was a way down. -/
def Descends (d d' : Document) : Prop :=
  ∃ (d₁ : Document) (place : Option BlockRange), d' = d₁.committed place ∧
    (d.Settled → Node.AreBlocks d₁.children ∧ d.Descent d₁ place)

theorem Descends.rank_lt (h : d.Descends d') : d'.rank < d.rank := by
  obtain ⟨d₁, place, rfl, hdescent⟩ := h
  by_cases hd : d.Settled
  · obtain ⟨hblocks, hdescent⟩ := hdescent hd
    exact hdescent.rank_committed_lt hd hblocks
  · exact (settled_committed d₁ place).rank_lt hd

/-- The place where an edit wants the selection to be counts more than the one from before. -/
theorem Descent.or {place : Option BlockRange} (h : Descent d d' place)
    (saved : Option BlockRange) : Descent d d' (place.or saved) := by
  cases h with
  | text h => exact .text h
  | style hbytes h => exact .style hbytes h
  | list hbytes hstyled h => exact .list hbytes hstyled h
  | block hle hleft h => exact .block hle hleft h
  | selection hle hexpanded p hplace =>
    rw [hplace, Option.some_or]
    exact .selection hle hexpanded p rfl

/-- A block that becomes a paragraph is weighed as one. -/
theorem Exchanged.weigh_paragraph {path : Path} {b : Block} {next : BlockId}
    (h : d.Exchanged path b [.block { b with kind := .paragraph }] next d') (s : Scale) :
    d'.weigh s + s.block b.kind = d.weigh s + s.block .paragraph := by
  have hadd := h.weigh_add s
  rw [Block.weigh_eq, Node.weigh_block, Node.weigh_nil] at hadd
  dsimp only at hadd
  omega

/-- A block that becomes a paragraph and was none is a way down. -/
theorem Exchanged.descent {path : Path} {b : Block} {next : BlockId}
    (h : d.Exchanged path b [.block { b with kind := .paragraph }] next d')
    (hkind : b.kind ≠ .paragraph) (place : Option BlockRange) : Descent d d' place := by
  have hbytes := h.weigh_paragraph .bytes
  have hstyled := h.weigh_paragraph .styled
  have hlists := h.weigh_paragraph .lists
  simp only [Scale.block_bytes, Scale.block_styled_paragraph, Scale.block_lists_paragraph]
    at hbytes hstyled hlists
  cases hlist : b.kind.isList with
  | true =>
    rw [Scale.block_styled_of_isList hlist] at hstyled
    rw [Scale.block_lists_of_isList hlist] at hlists
    exact .list (by omega) (by omega) (by omega)
  | false =>
    rw [Scale.block_styled_of_ne hkind hlist] at hstyled
    exact .style (by omega) (by omega)

end Document

/-! ## Deleting backward -/

namespace EditM

theorem wordBefore_ne_nil {reversed : Text} (h : reversed ≠ []) : wordBefore reversed ≠ [] := by
  unfold wordBefore
  dsimp only
  split
  next hempty =>
    rw [Bool.and_eq_true, List.isEmpty_iff, List.isEmpty_iff] at hempty
    rw [hempty.2, List.length_nil, List.drop_zero]
    simpa using h
  next hempty =>
    intro hnil
    rw [List.append_eq_nil_iff] at hnil
    exact hempty (by rw [hnil.2, hnil.1]; rfl)

theorem lineBefore_ne_nil {reversed : Text} (h : reversed ≠ []) : lineBefore reversed ≠ [] := by
  unfold lineBefore
  split
  next => exact List.cons_ne_nil _ _
  next hline =>
    obtain ⟨c, rest, rfl⟩ := List.exists_cons_of_ne_nil h
    have hc : c ≠ '\n' := by
      rintro rfl
      exact hline rest rfl
    rw [List.takeWhile_cons_of_pos (by simpa using hc)]
    exact List.cons_ne_nil _ _

/-- A deletion that does not end at the start of a text takes something of it. -/
theorem previousBoundary?_lt {text : Text} {offset start : Nat} {unit : DeleteUnit}
    (h : previousBoundary? text offset unit = some start) (hpos : 0 < offset) :
    start < offset ∧ offset ≤ text.bytes := by
  obtain ⟨_, htake, rfl⟩ := Option.map_eq_some_iff.mp h
  obtain ⟨⟨before, rest⟩, hsplit, rfl⟩ := Option.map_eq_some_iff.mp htake
  dsimp only
  have hoffset := Text.bytes_of_splitAt? hsplit
  have htext := Text.append_of_splitAt? hsplit
  have hreversed : before.reverse ≠ [] := by
    rw [Ne, List.reverse_eq_nil_iff]
    rintro rfl
    exact absurd hoffset (Nat.ne_of_lt hpos)
  have hless : ∀ taken : Text, taken ≠ [] → offset - taken.bytes < offset := by
    intro taken hne
    exact Nat.sub_lt hpos (Nat.pos_of_ne_zero fun h => hne (Text.bytes_eq_zero.mp h))
  refine ⟨?_, ?_⟩
  · cases unit with
    | character => exact hless _ (by simpa using hreversed)
    | word => exact hless _ (wordBefore_ne_nil hreversed)
    | line => exact hless _ (lineBefore_ne_nil hreversed)
  · rw [← htext, Text.bytes_append, hoffset]
    exact Nat.le_add_right _ _

variable {d : Document}

/-- Where identities are distinct, it is known which children are changed. -/
theorem answers_editChildren_eq (hd : d.ids.Nodup) {path : Path} {b : Block}
    (hb : d.blockAt? path = some b) (f : Block → Option (List Node)) :
    Answers (editChildren b.id f) d fun _ d' => ∃ ns, f b = some ns ∧
      d' = { d with children := Node.setChildren d.children path ns } := by
  have hfind : d.findPath? b.id = some path := Document.findPath?_of_blockAt? hd hb
  unfold editChildren
  refine .get ?_
  simp only [hfind, hb]
  refine .orLost ?_
  intro ns hns
  exact .modify (.pure ⟨ns, hns, rfl⟩)

theorem answers_selectionPoint :
    Answers selectionPoint d fun x d' => d' = d ∧ d.selection = some x.1 ∧
      d.blockPoint x.1.anchor = .ok x.2 := by
  unfold selectionPoint
  refine .get (.orRefuse ?_)
  intro r hr
  refine .ofExcept ?_
  intro p hp
  exact .pure ⟨rfl, hr, hp⟩

/-- Joining a block to the one before it is done in three places: the block is emptied, its leaves come
behind those of the other one, and it goes away. -/
theorem answers_join (hd : d.ids.Nodup) {p q : Path} {b c : Block} (hb : d.blockAt? p = some b)
    (hc : d.blockAt? q = some c) (hpq : Path.Before p q) (e : Effect) :
    Answers
      (do
        putChildren q []
        editChildren b.id fun b => some (b.children ++ c.children)
        removeNode q
        pure e)
      d fun e' d' => e' = e ∧ ∃ d₁ d₂, d.Exchanged q c [.block { c with children := [] }] d.nextId d₁ ∧
        d₁.Exchanged p b [.block { b with children := b.children ++ c.children }] d₁.nextId d₂ ∧
        d₂.Exchanged q { c with children := [] } [] d₂.nextId d' ∧ ∃ b', d'.blockAt? p = some b' := by
  refine .modify ?_
  have hcut := Document.Exchanged.setChildren hc []
  have hnone : Node.AreLeaves [] := List.forall_mem_nil _
  have hids := (Document.Edited.put_leaves (G := True) hc hnone).toNumbered.nodup rfl hd
  have hframe : Node.blockAt? (Node.setChildren d.children q []) p = Node.blockAt? d.children p :=
    Node.blockAt?_setChildren_of_before (Node.childrenAt?_of_blockAt? hc) (hpq.append_right [0]) rfl
  generalize hd₁ : ({ d with children := Node.setChildren d.children q [] } : Document) = d₁
    at hcut hids
  have hb₁ : d₁.blockAt? p = some b := hd₁ ▸ hframe.trans hb
  have hc₁ : d₁.blockAt? q = some { c with children := [] } :=
    hd₁ ▸ Node.blockAt?_setChildren_self hc []
  refine (answers_editChildren_eq hids hb₁ _).bind ?_
  rintro _ d₂ ⟨ns, hns, rfl⟩
  cases hns
  -- The block that is emptied is not touched when its leaves go to the other one.
  have hc₂ := (Node.blockAt?_setChildren_of_after hpq (b.children ++ c.children)).trans hc₁
  have hb₂ := Node.blockAt?_setChildren_self hb₁ (b.children ++ c.children)
  refine (certain_removeNode_exchanged (d := { d₁ with children := _ }) hc₂).answers.bind ?_
  intro _ d' hremove
  refine .pure ⟨rfl, d₁, _, hcut, .setChildren hb₁ _, hremove, ?_⟩
  obtain ⟨parent, front, back, rfl, hcs, rfl⟩ := hremove
  exact ⟨_, (Node.blockAt?_setChildren_of_before hcs hpq (by simp)).trans hb₂⟩

/-- Joining a block to the one before it takes this block away and nothing else. -/
theorem answers_join_weigh (hd : d.ids.Nodup) {p q : Path} {b c : Block}
    (hb : d.blockAt? p = some b) (hc : d.blockAt? q = some c) (hpq : Path.Before p q) (e : Effect) :
    Answers
      (do
        putChildren q []
        editChildren b.id fun b => some (b.children ++ c.children)
        removeNode q
        pure e)
      d fun e' d' => e' = e ∧ (∀ s : Scale, d'.weigh s + s.block c.kind = d.weigh s) ∧
        (Node.AreBlocks d.children → Node.AreBlocks d'.children) ∧
        ∃ b', d'.blockAt? p = some b' := by
  refine (answers_join hd hb hc hpq e).mono ?_
  rintro _ d' ⟨rfl, d₁, d₂, hcut, hjoin, hremove, hb'⟩
  refine ⟨rfl, ?_, ?_, hb'⟩
  · intro s
    have hcut := hcut.weigh_add s
    have hjoin := hjoin.weigh_add s
    have hremove := hremove.weigh_add s
    simp only [Block.weigh_eq, Node.weigh_block, Node.weigh_append, Node.weigh_nil]
      at hcut hjoin hremove
    omega
  · intro hblocks
    exact hremove.areBlocks (hjoin.areBlocks (hcut.areBlocks hblocks Node.areBlocks_block)
      Node.areBlocks_block) (List.forall_mem_nil _)

/-- Joining a block to the one before it is a way down, and so is the removal of an image. -/
theorem answers_mergeIntoPrevious_descent (hd : d.ids.Nodup) (hblocks : Node.AreBlocks d.children)
    (id : BlockId) : Answers (mergeIntoPrevious id) d fun e d' => e.changed ≠ [] →
      Node.AreBlocks d'.children ∧ d.Descent d' e.target := by
  unfold mergeIntoPrevious
  refine .get ?_
  dsimp only
  split
  next => exact .throw
  next => exact .pure fun hne => absurd rfl hne
  next position hposition =>
    split
    next p b q c hb hc =>
      have hbefore : Path.Before p q :=
        Document.before_of_getElem? hd (Nat.lt_succ_self position) hb hc
      have hb := (Document.mem_matching.mp (List.mem_of_getElem? hb)).1
      have hc := (Document.mem_matching.mp (List.mem_of_getElem? hc)).1
      split
      next hvoid =>
        refine (certain_removeNode_exchanged hb).answers.bind ?_
        intro _ d' hd'
        refine .pure fun _ => ⟨hd'.areBlocks hblocks fun n hn => absurd hn List.not_mem_nil, ?_⟩
        have hbytes := hd'.weigh_add .bytes
        have hstyled := hd'.weigh_add .styled
        have hone : Scale.styled.block b.kind = 1 := by
          cases hkind : b.kind with
          | image url => rfl
          | _ => rw [hkind] at hvoid; cases hvoid
        rw [Block.weigh_eq, hone, Node.weigh_nil] at hstyled
        rw [Node.weigh_nil] at hbytes
        exact .style (by omega) (by omega)
      next =>
        rw [hc]
        refine (answers_join_weigh hd hb hc hbefore _).mono ?_
        rintro _ d' ⟨rfl, hweigh, hblocks', b', hb'⟩ _
        refine ⟨hblocks' hblocks, .block ?_ ?_ ?_⟩
        · intro s
          have := hweigh s
          omega
        · have hle := Node.weigh_le_of_blockAt? (s := .blocks) hb'
          rw [Block.weigh_eq, Scale.block_blocks] at hle
          exact Nat.lt_of_lt_of_le (by omega) hle
        · have hless := hweigh .blocks
          rw [Scale.block_blocks] at hless
          omega
    next => exact .throw

/-- Deleting backward is a way down, unless it names no block. -/
theorem answers_deleteBackward_descent (hd : d.ids.Nodup) (hblocks : Node.AreBlocks d.children)
    (unit : DeleteUnit) : Answers (deleteBackward unit) d fun e d' => e.changed ≠ [] →
      Node.AreBlocks d'.children ∧ d.Descent d' e.target := by
  unfold deleteBackward
  refine answers_selectionPoint.bind ?_
  rintro ⟨r, p⟩ _ ⟨rfl, hr, hp⟩
  dsimp only
  split
  next hexpanded =>
    refine (answers_deleteRange_lighter r).bind ?_
    rintro ⟨start, changed⟩ d' ⟨-, hlighter⟩
    refine .pure fun _ => ⟨hlighter.areBlocks hblocks, .selection hlighter.weigh_le ?_ start rfl⟩
    rw [Document.isExpanded, hr]
    exact hexpanded
  next =>
    refine (checked_editable p.block).answers.bind ?_
    rintro b _ ⟨rfl, hid, htext, -, path, hb⟩
    split
    next hpos =>
      refine .orLost ?_
      intro start hstart
      rw [← hid]
      refine (answers_editChildren_eq hd hb _).bind ?_
      rintro _ d' ⟨ns, herase, rfl⟩
      refine .pure fun _ => ⟨Document.areBlocks_putChildren hb hblocks ns, .text ?_⟩
      obtain ⟨hless, hle⟩ := previousBoundary?_lt hstart hpos
      rw [Block.text_eq_ownText htext, Node.bytes_ownText] at hle
      have hsize := Node.size_eraseText? herase
      have hdiff := Node.weigh_of_map_block? (s := .bytes) (Node.map_block?_eraseText? herase)
      have hput := Document.weigh_putChildren (s := .bytes) hb ns
      rw [Scale.byte_bytes] at hdiff
      rw [Document.weigh]
      dsimp only
      omega
    next => exact answers_mergeIntoPrevious_descent hd hblocks p.block

end EditM

/-! ## Commands -/

namespace Document

variable {d : Document}

/-- A backward deletion leaves the document as it is or leads down. -/
theorem descends_deleteBackward (hd : d.ids.Nodup) (unit : DeleteUnit) :
    d.perform (.deleteBackward unit) = d ∨ d.Descends (d.perform (.deleteBackward unit)) := by
  have hedit : EditM.Checked (d.edit (.deleteBackward unit)) d fun e d' =>
      EditM.Outcome True d e d' ∧ (d.Settled → e.changed ≠ [] →
        Node.AreBlocks d'.children ∧ d.Descent d' e.target) := by
    have hchecked := EditM.checked_deleteBackward (G := True) hd unit
    refine hchecked.of_answers fun e d' hok => ⟨hchecked.answers e d' hok, ?_⟩
    intro hsettled
    exact EditM.answers_deleteBackward_descent hd hsettled.areBlocks unit e d' hok
  rw [perform]
  rcases apply_cases rfl hedit with ⟨e, h⟩ | ⟨e, d', p, ⟨houtcome, hdescent⟩, h⟩
  · rw [h]
    exact .inl rfl
  · rw [h, finished]
    split
    next hnil => exact .inl (houtcome.idle hnil)
    next hne =>
      refine .inr ⟨d', _, rfl, ?_⟩
      intro hsettled
      obtain ⟨hblocks, hdescent⟩ := hdescent hsettled hne
      exact ⟨hblocks, hdescent.or _⟩

/-- A block that was none becomes a paragraph. -/
theorem exists_apply_setKind {path : Path} {b : Block} (hb : d.blockAt? path = some b) :
    ∃ p d' place, d.apply (.setKind path .paragraph) = (.ok p, d'.committed place) ∧
      d.Exchanged path b [.block { b with kind := .paragraph }] d.nextId d' := by
  obtain ⟨e, d', p, ⟨rfl, hexchanged⟩, h⟩ :=
    apply_of_certain (d := d) (c := .setKind path .paragraph) rfl
      (EditM.certain_setKind hb .paragraph)
  refine ⟨p, d', d.selection.bind d.blockRange?, ?_, hexchanged⟩
  rw [h, finished_stay]

end Document

end BlockNotes
