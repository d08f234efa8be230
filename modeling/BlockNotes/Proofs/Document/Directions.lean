import BlockNotes.Proofs.Document.Clearing

/-!
# Selections that run backward

A selection may be begun at either end.  Inserting text and deleting backward do not
make a difference: they come to the same document with the same cursor, or they are
refused (`Document.both_ways`).  The two runs go side by side.  Once the ends have
been put in order what is done is the same and blind (`EditM.Blind`), and when it is
finished nothing is left of the selection.

Splitting asks one question more.  Before anything else it asks whether the block of the
anchor can be edited, and that is the first block or the last one.  So if the last block
takes no text and the first one does, a selection that was begun at the first one is
split and the same selection the other way round is refused.
-/

namespace BlockNotes

namespace Document

variable {d d' : Document} {p q : Point} {s : Range} {path : Path} {b : Block} {n : Nat}

/-! ## Two runs side by side -/

/-- What becomes of an edited document does not depend on the selection from before. -/
theorem committed_withSelection (d : Document) (s : Option Range) (place : Option BlockRange) :
    (d.withSelection s).committed place = d.committed place := by
  have hnormal : (d.withSelection s).normalize = d.normalize.withSelection s := by
    unfold normalize withSelection
    dsimp only
    split <;> rfl
  unfold committed
  rw [hnormal]
  rfl

/-- Whether a selection was begun at one point or at the other, a command comes to the same
document, or it is refused for the same reason and changes nothing. -/
def SameBothWays (d : Document) (p q : Point) (c : Command) : Prop :=
  (∃ patch d', (d.withSelection (some ⟨p, q⟩)).apply c = (.ok patch, d') ∧
    (d.withSelection (some ⟨q, p⟩)).apply c = (.ok patch, d')) ∨
  ∃ e, (d.withSelection (some ⟨p, q⟩)).apply c =
      (.error (.refused e), d.withSelection (some ⟨p, q⟩)) ∧
    (d.withSelection (some ⟨q, p⟩)).apply c =
      (.error (.refused e), d.withSelection (some ⟨q, p⟩))

/-- An effect that names a block and sends the cursor somewhere. -/
def Moving (e : Effect) : Prop :=
  e.changed ≠ [] ∧ e.target ≠ none

/-- What a command comes to whose edit is made of blind steps. -/
theorem apply_of_blind {m : EditM Effect} (hm : EditM.Blind m) {c : Command}
    (hc : c.editsContent = true) {s : Option Range}
    (hedit : (d.withSelection s).edit c (d.withSelection s) = m (d.withSelection s)) :
    (∀ e d', m d = .ok e d' → Moving e → (d.withSelection s).apply c =
      (.ok ⟨.content, e.changed, (d'.committed e.target).selection, (d'.committed e.target).version⟩,
        d'.committed e.target)) ∧
    ∀ e, m d = .error (.refused e) d →
      (d.withSelection s).apply c = (.error (.refused e), d.withSelection s) := by
  rw [hm] at hedit
  refine ⟨?_, ?_⟩
  · rintro ⟨changed, target⟩ d' hok ⟨hchanged, htarget⟩
    rw [hok, EditM.reselect] at hedit
    obtain ⟨place, rfl⟩ := Option.ne_none_iff_exists'.mp htarget
    rw [apply, apply_eq hc, bind_of_ok hedit, if_neg (by simpa using hchanged)]
    show (_, (d'.withSelection s).committed (some place)) = _
    rw [← committed_withSelection d' s (some place)]
    rfl
  · intro e herr
    rw [herr, EditM.reselect] at hedit
    rw [apply, apply_eq hc, bind_of_error hedit]

/-- Where both runs come to the same blind steps, they come to the same. -/
theorem sameBothWays_of_blind {m : EditM Effect} (hm : EditM.Blind m) {c : Command}
    (hc : c.editsContent = true) (hchecked : EditM.Checked m d fun e _ => Moving e)
    (hpq : (d.withSelection (some ⟨p, q⟩)).edit c (d.withSelection (some ⟨p, q⟩)) =
      m (d.withSelection (some ⟨p, q⟩)))
    (hqp : (d.withSelection (some ⟨q, p⟩)).edit c (d.withSelection (some ⟨q, p⟩)) =
      m (d.withSelection (some ⟨q, p⟩))) : d.SameBothWays p q c := by
  obtain ⟨hok, herr⟩ := apply_of_blind hm hc hpq
  obtain ⟨hok', herr'⟩ := apply_of_blind hm hc hqp
  rcases hchecked with ⟨e, h⟩ | ⟨e, d', h, hmoving⟩
  · exact .inr ⟨e, herr e h, herr' e h⟩
  · exact .inl ⟨_, _, hok e d' h hmoving, hok' e d' h hmoving⟩

/-- A cursor has no direction. -/
theorem sameBothWays_self (hd : d.ids.Nodup) (p : Point) {c : Command} (hc : c.editsContent = true) :
    d.SameBothWays p p c := by
  rcases apply_cases hc (EditM.checked_ofCommand (d := d.withSelection (some ⟨p, p⟩)) hd _ c)
    with ⟨e, h⟩ | ⟨e, d', patch, -, h⟩
  · exact .inr ⟨e, h, h⟩
  · exact .inl ⟨patch, _, h, h⟩

end Document

/-! ## The edits -/

namespace EditM

variable {d : Document} {p q : Point} {path : Path} {b : Block} {n : Nat} {anchor : BlockPoint}

/-- Behind a selection, steps go on with it and the block point of its anchor. -/
theorem selectionPoint_bind {β : Type} (hanchor : d.blockPoint p = .ok anchor)
    (f : Range × BlockPoint → EditM β) :
    (selectionPoint >>= f) (d.withSelection (some ⟨p, q⟩)) =
      f (⟨p, q⟩, anchor) (d.withSelection (some ⟨p, q⟩)) :=
  bind_of_ok (selectionPoint_eq rfl hanchor)

theorem answers_insertAt {x : BlockPoint × List BlockId} (hx : x.2 ≠ []) (t : Text) :
    Answers (insertAt t x) d fun e _ => Document.Moving e := by
  refine (checked_editable x.1.block).answers.bind ?_
  intro _ _ _
  split
  next => exact .pure ⟨hx, nofun⟩
  next =>
    exact .skip fun _ _ => .pure ⟨List.append_ne_nil_of_left_ne_nil hx _, nofun⟩

/-- Clearing an expanded selection names a block. -/
theorem Opened.ne_nil {s : Range} {x : BlockPoint × List BlockId} {d' : Document}
    {σ : Document.Seam} (h : Opened d s x d' σ) (hexpanded : s.isCollapsed = false) : x.2 ≠ [] := by
  intro hnil
  cases hexpanded.symm.trans (h.idle hnil).2

/-- Clearing an expanded selection and going on is refused in front, or comes to its end. -/
theorem checked_clearing_bind {s : Range} (hd : d.Regular) (hs : d.AddressesBoth s)
    (hanchor : d.blockPoint s.anchor = .ok anchor) (hexpanded : s.isCollapsed = false)
    {f : BlockPoint × List BlockId → EditM Effect}
    (hf : ∀ x d', Ready x.1 d' → x.2 ≠ [] → Certain (f x) d' fun e _ => Document.Moving e) :
    Checked (clearing s anchor >>= f) d fun e _ => Document.Moving e := by
  obtain ⟨path, b, n, hsite⟩ := hd.exists_site hs.start_stop.1
  cases hvoid : b.kind.isVoid with
  | true => exact .inl ⟨_, bind_of_error (clearing_of_void hd.nodup hsite hvoid hexpanded)⟩
  | false =>
    refine ((certain_clearing hd hs hanchor hsite hvoid).bind ?_).checked
    rintro x d' ⟨hready, σ, hopened, -⟩
    exact hf x d' hready (hopened.ne_nil hexpanded)

theorem certain_insertAt_moving {x : BlockPoint × List BlockId} (hready : Ready x.1 d)
    (hx : x.2 ≠ []) (t : Text) : Certain (insertAt t x) d fun e _ => Document.Moving e := by
  obtain ⟨e, d', hok, -⟩ := certain_insertAt (G := True) hready t x.2
  exact ⟨e, d', hok, answers_insertAt hx t e d' hok⟩

theorem certain_splitAt_moving {x : BlockPoint × List BlockId} (hready : Ready x.1 d) :
    Certain (splitAt x) d fun e _ => Document.Moving e := by
  obtain ⟨hd, path, b, hin, htext, -⟩ := hready
  refine (certain_splitAt hd hin htext x.2).mono ?_
  intro e d' hsplit
  refine ⟨hsplit.changed, ?_⟩
  obtain ⟨_, _, _, _, -, -, -, rfl, -⟩ := hsplit
  exact nofun

end EditM

namespace Document

variable {d : Document} {p q : Point} {path path' : Path} {b c : Block} {m n : Nat}

/-! ## Inserting and deleting -/

/-- Inserting text is the same both ways. -/
theorem Regular.sameBothWays_insertText (hd : d.Regular) (hp : d.Addresses p) (hq : d.Addresses q)
    (t : Text) : d.SameBothWays p q (.insertText t) := by
  by_cases hne : p = q
  · cases hne
    exact sameBothWays_self hd.nodup p rfl
  · obtain ⟨anchor, hanchor⟩ := addresses_iff.mp hp
    obtain ⟨anchor', hanchor'⟩ := addresses_iff.mp hq
    have hblind : EditM.Blind (EditM.clearing ⟨p, q⟩ anchor >>= EditM.insertAt t) :=
      .bind (.clearing _ _) fun _ => .insertAt t _
    refine sameBothWays_of_blind hblind rfl ?_ ?_ ?_
    · exact EditM.checked_clearing_bind hd ⟨hp, hq⟩ hanchor (decide_eq_false hne)
        fun x d' hready hx => EditM.certain_insertAt_moving hready hx t
    · show EditM.insertText t _ = _
      rw [EditM.insertText_eq, EditM.selectionPoint_bind hanchor]
    · show EditM.insertText t _ = _
      rw [EditM.insertText_eq, EditM.selectionPoint_bind hanchor',
        EditM.clearing_swap hne anchor anchor']

/-- Deleting backward is the same both ways. -/
theorem Regular.sameBothWays_deleteBackward (hd : d.Regular) (hp : d.Addresses p)
    (hq : d.Addresses q) (unit : DeleteUnit) : d.SameBothWays p q (.deleteBackward unit) := by
  by_cases hne : p = q
  · cases hne
    exact sameBothWays_self hd.nodup p rfl
  · obtain ⟨anchor, hanchor⟩ := addresses_iff.mp hp
    obtain ⟨anchor', hanchor'⟩ := addresses_iff.mp hq
    have hexcise := EditM.certain_excise hd (r := ⟨p, q⟩)
      (AddressesBoth.start_stop ⟨hp, hq⟩).1 (AddressesBoth.start_stop ⟨hp, hq⟩).2
    have hblind : EditM.Blind (EditM.deleteRange ⟨p, q⟩ >>= fun x => pure (Effect.goTo x.2 x.1)) :=
      .bind (.deleteRange _) fun _ => .pure _
    refine sameBothWays_of_blind hblind rfl ?_ ?_ ?_
    · refine (hexcise.bind ?_).checked
      intro x d' hx
      exact .pure ⟨hx.changed, nofun⟩
    · show EditM.deleteBackward unit _ = _
      unfold EditM.deleteBackward
      rw [EditM.selectionPoint_bind hanchor]
      simp only [Range.isCollapsed, hne, decide_false, Bool.not_false, if_true]
    · show EditM.deleteBackward unit _ = _
      unfold EditM.deleteBackward
      rw [EditM.selectionPoint_bind hanchor', EditM.deleteRange_swap p q]
      simp only [Range.isCollapsed, Ne.symm hne, decide_false, Bool.not_false, if_true]

/-! ## Splitting -/

/-- The block around a point takes no text. -/
def VoidAt (d : Document) (p : Point) : Prop :=
  ∃ b, d.blockAt? p.path.dropLast = some b ∧ b.kind.isVoid = true

theorem Site.voidAt_iff (h : d.Site p path b n) : d.VoidAt p ↔ b.kind.isVoid = true := by
  unfold VoidAt
  rw [h.above_eq, h.blockAt?]
  constructor
  · rintro ⟨c, hc, hvoid⟩
    cases hc
    exact hvoid
  · exact fun hvoid => ⟨b, rfl, hvoid⟩

/-- A selection that was begun in a block that takes no text is not split. -/
theorem Regular.splitBlock_of_void (hd : d.Regular) (hsite : d.Site p path b n)
    (hvoid : b.kind.isVoid = true) :
    (d.withSelection (some ⟨p, q⟩)).apply .splitBlock =
      (.error (.refused (.notATextBlock path)), d.withSelection (some ⟨p, q⟩)) := by
  refine refused_of_edit rfl ?_
  show EditM.splitBlock _ = _
  rw [EditM.splitBlock_eq, EditM.selectionPoint_bind hsite.blockPoint_eq]
  exact bind_of_error (EditM.editable_of_void (d := d.withSelection (some ⟨p, q⟩)) hd.nodup
    hsite.blockAt? hvoid)

/-- Where a selection was begun in a block that can be edited, splitting goes on with clearing it. -/
theorem Regular.edit_splitBlock (hd : d.Regular) (hsite : d.Site p path b n)
    (hvoid : b.kind.isVoid = false) :
    (d.withSelection (some ⟨p, q⟩)).edit .splitBlock (d.withSelection (some ⟨p, q⟩)) =
      (EditM.clearing ⟨p, q⟩ ⟨b.id, n⟩ >>= EditM.splitAt) (d.withSelection (some ⟨p, q⟩)) := by
  show EditM.splitBlock _ = _
  rw [EditM.splitBlock_eq, EditM.selectionPoint_bind hsite.blockPoint_eq]
  obtain ⟨_, _, hok, rfl, -⟩ := EditM.certain_editable (d := d.withSelection (some ⟨p, q⟩)) hd.nodup
    hsite.blockAt? hsite.isTextBlock hvoid
  exact bind_of_ok hok

/-- If the last block can be edited, splitting is the same both ways. -/
theorem Regular.sameBothWays_splitBlock (hd : d.Regular) (hp : d.Site p path b m)
    (hq : d.Site q path' c n) (hle : p ≤ q) (hvoid : c.kind.isVoid = false) :
    d.SameBothWays p q .splitBlock := by
  by_cases hne : p = q
  · cases hne
    exact sameBothWays_self hd.nodup p rfl
  have hboth : d.AddressesBoth ⟨p, q⟩ :=
    ⟨addresses_iff.mpr ⟨_, hp.blockPoint_eq⟩, addresses_iff.mpr ⟨_, hq.blockPoint_eq⟩⟩
  have hexpanded : Range.isCollapsed ⟨p, q⟩ = false := decide_eq_false hne
  have hblind : EditM.Blind (EditM.clearing ⟨p, q⟩ ⟨b.id, m⟩ >>= EditM.splitAt) :=
    .bind (.clearing _ _) fun _ => .splitAt _
  have hback := hd.edit_splitBlock (q := p) hq hvoid
  rw [EditM.clearing_swap (Ne.symm hne) _ ⟨b.id, m⟩] at hback
  cases hstart : b.kind.isVoid with
  | true =>
    have hsite : d.Site (Range.start ⟨p, q⟩) path b m := by
      rwa [Range.start, if_pos hle]
    have hrefused : EditM.clearing ⟨p, q⟩ ⟨b.id, m⟩ d = .error (.refused (.notATextBlock path)) d :=
      EditM.clearing_of_void hd.nodup hsite hstart hexpanded
    exact .inr ⟨_, hd.splitBlock_of_void hp hstart,
      (apply_of_blind hblind rfl hback).2 _ (bind_of_error hrefused)⟩
  | false =>
    refine sameBothWays_of_blind hblind rfl ?_ (hd.edit_splitBlock hp hstart) hback
    exact EditM.checked_clearing_bind hd hboth hp.blockPoint_eq hexpanded
      fun x d' hready _ => EditM.certain_splitAt_moving hready

/-- A selection that was begun at its first point, in a block that can be edited, is split. -/
theorem Regular.exists_splitBlock (hd : d.Regular) (hp : d.Site p path b m)
    (hq : d.Site q path' c n) (hle : p ≤ q) (hstart : b.kind.isVoid = false) :
    ∃ patch d', (d.withSelection (some ⟨p, q⟩)).apply .splitBlock = (.ok patch, d') := by
  have hboth : d.AddressesBoth ⟨p, q⟩ :=
    ⟨addresses_iff.mpr ⟨_, hp.blockPoint_eq⟩, addresses_iff.mpr ⟨_, hq.blockPoint_eq⟩⟩
  have hsite : d.Site (Range.start ⟨p, q⟩) path b m := by
    rwa [Range.start, if_pos hle]
  have hblind : EditM.Blind (EditM.clearing ⟨p, q⟩ ⟨b.id, m⟩ >>= EditM.splitAt) :=
    .bind (.clearing _ _) fun _ => .splitAt _
  have hcertain : EditM.Certain (EditM.clearing ⟨p, q⟩ ⟨b.id, m⟩ >>= EditM.splitAt) d
      fun e _ => Moving e :=
    (EditM.certain_clearing hd hboth hp.blockPoint_eq hsite hstart).bind
      fun x d' hx => EditM.certain_splitAt_moving hx.1
  obtain ⟨e, d', hok, hmoving⟩ := hcertain
  exact ⟨_, _, (apply_of_blind hblind rfl (hd.edit_splitBlock hp hstart)).1 e d' hok hmoving⟩

/-- What a direction makes of a split: nothing, if the last block can be edited.  If it takes no text,
the selection that was begun in it is refused, and the other one is split if the first block can be
edited. -/
structure SplitsBothWays (d : Document) (r : Range) : Prop where
  same : ¬ d.VoidAt r.stop → d.SameBothWays r.start r.stop .splitBlock
  backward : d.VoidAt r.stop → ∃ e,
    (d.withSelection (some ⟨r.stop, r.start⟩)).apply .splitBlock =
      (.error (.refused e), d.withSelection (some ⟨r.stop, r.start⟩))
  forward : d.VoidAt r.stop → ((∃ patch d',
    (d.withSelection (some ⟨r.start, r.stop⟩)).apply .splitBlock = (.ok patch, d')) ↔
      ¬ d.VoidAt r.start)

theorem Regular.splitsBothWays (hd : d.Regular) {r : Range} (hr : d.AddressesBoth r) :
    d.SplitsBothWays r := by
  obtain ⟨path, b, m, hp⟩ := hd.exists_site hr.start_stop.1
  obtain ⟨path', c, n, hq⟩ := hd.exists_site hr.start_stop.2
  have hle := le_stop r
  refine ⟨?_, ?_, ?_⟩
  · rw [hq.voidAt_iff, Bool.not_eq_true]
    exact hd.sameBothWays_splitBlock hp hq hle
  · rw [hq.voidAt_iff]
    exact fun hvoid => ⟨_, hd.splitBlock_of_void hq hvoid⟩
  · rw [hp.voidAt_iff, Bool.not_eq_true]
    intro _
    constructor
    · rintro ⟨patch, d', hok⟩
      cases hstart : b.kind.isVoid with
      | false => rfl
      | true => cases (hd.splitBlock_of_void hp hstart).symm.trans hok
    · exact hd.exists_splitBlock hp hq hle

/-- Of two points of a regular document, whichever the selection is begun at, inserting text and
deleting backward come to the same.  Splitting does so if the later one of the points is in a block
that can be edited. -/
theorem both_ways (hd : d.Regular) (hp : d.Addresses p) (hq : d.Addresses q) :
    (∀ t, d.SameBothWays p q (.insertText t)) ∧
      (∀ unit, d.SameBothWays p q (.deleteBackward unit)) ∧
      d.SplitsBothWays ⟨p, q⟩ :=
  ⟨hd.sameBothWays_insertText hp hq, hd.sameBothWays_deleteBackward hp hq, hd.splitsBothWays ⟨hp, hq⟩⟩

/-- A paragraph and an image: text takes the place of the selection both ways, and the paragraph is
split if the selection was begun in it. -/
theorem both_ways_image :
    let d := ofBlocks [.ofText .paragraph ['a', 'b'], .ofText (.image "a.png") ['c', 'd']]
    d.Regular ∧ d.Addresses ⟨[0, 0], 1⟩ ∧ d.Addresses ⟨[1, 0], 1⟩ ∧
      d.SameBothWays ⟨[0, 0], 1⟩ ⟨[1, 0], 1⟩ (.insertText ['é']) ∧
      d.SplitsBothWays ⟨⟨[0, 0], 1⟩, ⟨[1, 0], 1⟩⟩ := by
  intro d
  have hnormal : d.IsNormal :=
    isNormal_ofBlocks_ofText [(.paragraph, ['a', 'b']), (.image "a.png", ['c', 'd'])]
  have hd : d.Regular := hnormal.regular (wellNumbered_ofBlocks _)
  have hp : d.Addresses ⟨[0, 0], 1⟩ := addresses_iff.mpr ⟨⟨1, 1⟩, by rfl⟩
  have hq : d.Addresses ⟨[1, 0], 1⟩ := addresses_iff.mpr ⟨⟨2, 1⟩, by rfl⟩
  obtain ⟨hinsert, -, hsplit⟩ := both_ways hd hp hq
  exact ⟨hd, hp, hq, hinsert _, hsplit⟩

/-- The same two blocks.  Begun in the image the selection is refused, and begun in the paragraph it
is split. -/
theorem exists_not_sameBothWays :
    let d := ofBlocks [.ofText .paragraph ['a', 'b'], .ofText (.image "a.png") ['c', 'd']]
    d.IsNormal ∧ d.WellNumbered ∧ d.Addresses ⟨[1, 0], 1⟩ ∧ d.Addresses ⟨[0, 0], 1⟩ ∧
      ¬ d.SameBothWays ⟨[1, 0], 1⟩ ⟨[0, 0], 1⟩ .splitBlock := by
  intro d
  have hnormal : d.IsNormal :=
    isNormal_ofBlocks_ofText [(.paragraph, ['a', 'b']), (.image "a.png", ['c', 'd'])]
  refine ⟨hnormal, wellNumbered_ofBlocks _, addresses_iff.mpr ⟨⟨2, 1⟩, by rfl⟩,
    addresses_iff.mpr ⟨⟨1, 1⟩, by rfl⟩, ?_⟩
  have hback : ((d.withSelection (some ⟨⟨[1, 0], 1⟩, ⟨[0, 0], 1⟩⟩)).apply .splitBlock).1 =
      .error (.refused (.notATextBlock [1])) := by rfl
  have hforth : ((d.withSelection (some ⟨⟨[0, 0], 1⟩, ⟨[1, 0], 1⟩⟩)).apply .splitBlock).1.isOk =
      true := by rfl
  rintro (⟨patch, d', h, -⟩ | ⟨e, -, h⟩)
  · rw [h] at hback
    cases hback
  · rw [h] at hforth
    cases hforth

end Document

end BlockNotes
