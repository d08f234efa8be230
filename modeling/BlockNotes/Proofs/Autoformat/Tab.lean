import BlockNotes.Proofs.Autoformat.Advance
import BlockNotes.Proofs.Document.Position

/-!
# Where the tabulator key is lost

The tabulator key cuts the text of a block at the offset of a point.  The offset is
counted among the leaves of the block, but its text counts the blocks within it as well.
So in a block that holds both leaves and blocks the offset may fall inside a
character (`Document.SplitsCharacter`), and then there is nothing to go on with.

That is the only way for the key to be lost (`DraftM.tab_lost_iff`).  However it ends,
it moves the draft on like any other input.  Both are read off one pass over the
steps of the key, which says of each cut when it fails.
-/

namespace BlockNotes

namespace Document

variable {d : Document} {p : Point} {r : BlockPoint}

/-! ## Offsets in the text of a block -/

/-- The offset of a point in its block falls inside a character of the text of the block. -/
def SplitsCharacter (d : Document) (p : Point) : Prop :=
  ∃ q b, d.blockPoint p = .ok q ∧ d.block? q.block = some b ∧ b.text.isBoundary q.offset = false

/-- This takes a block that holds both leaves and blocks. -/
theorem SplitsCharacter.mixed (hd : d.ids.Nodup) (h : d.SplitsCharacter p)
    (hr : d.blockPoint p = .ok r) :
    ∃ path b, d.blockAt? path = some b ∧ b.id = r.block ∧ b.children.any Node.isLeaf = true ∧
      b.isTextBlock = false := by
  obtain ⟨q, c, hq, hc, hsplits⟩ := h
  obtain rfl : r = q := Except.ok.inj (hr.symm.trans hq)
  obtain ⟨path, index, b, l, -, hb, hl, hoffset, rfl⟩ := exists_leaf_of_blockPoint hq
  obtain rfl : b = c := Option.some.inj ((block?_eq hd hb).symm.trans hc)
  refine ⟨path, b, hb, rfl, List.any_eq_true.mpr ⟨_, List.mem_of_getElem? hl, rfl⟩, ?_⟩
  cases htext : b.isTextBlock with
  | false => rfl
  | true =>
    rw [Block.text_eq_ownText htext, Node.isBoundary_offsetOf hl hoffset] at hsplits
    cases hsplits

/-- The tabulator key has to cut a text inside a character: at the cursor, if it takes indentation
away there, or at an end of a selection within one block. -/
def TabSplits (d : Document) (outdent : Bool) : Prop :=
  ∃ s, d.selection = some s ∧
    if s.isCollapsed then outdent = true ∧ d.SplitsCharacter s.anchor
    else (∃ p q, d.blockPoint s.start = .ok p ∧ d.blockPoint s.stop = .ok q ∧ p.block = q.block) ∧
      (d.SplitsCharacter s.start ∨ d.SplitsCharacter s.stop)

/-- The anchor is in the block where a character is split. -/
theorem TabSplits.exists_point {outdent : Bool} (h : d.TabSplits outdent) :
    ∃ s p q t, d.selection = some s ∧ d.blockPoint s.anchor = .ok t ∧ d.SplitsCharacter p ∧
      d.blockPoint p = .ok q ∧ q.block = t.block := by
  obtain ⟨s, hs, h⟩ := h
  split at h
  next =>
    obtain ⟨q, -, hq, -⟩ := id h.2
    exact ⟨s, s.anchor, q, q, hs, hq, h.2, hq, rfl⟩
  next =>
    obtain ⟨⟨p, q, hp, hq, hsame⟩, hsplits⟩ := h
    obtain ⟨t, ht, hblock⟩ : ∃ t, d.blockPoint s.anchor = .ok t ∧ p.block = t.block := by
      unfold Range.start at hp
      unfold Range.stop at hq
      split at hp
      next => exact ⟨p, hp, rfl⟩
      next hle =>
        rw [if_neg hle] at hq
        exact ⟨q, hq, hsame⟩
    rcases hsplits with hstart | hstop
    · exact ⟨s, s.start, p, t, hs, ht, hstart, hp, hblock⟩
    · exact ⟨s, s.stop, q, t, hs, ht, hstop, hq, hsame.symm.trans hblock⟩

/-- This takes a cursor in a block that holds both leaves and blocks. -/
theorem TabSplits.mixed (hd : d.ids.Nodup) {outdent : Bool} (h : d.TabSplits outdent) :
    ∃ path b, d.currentBlock? = some (path, b) ∧ b.children.any Node.isLeaf = true ∧
      b.isTextBlock = false := by
  obtain ⟨s, p, q, t, hs, ht, hsplits, hq, hblock⟩ := h.exists_point
  obtain ⟨path, b, hb, hid, hmixed⟩ := hsplits.mixed hd hq
  obtain ⟨path', index, b', l, hpath, hb', -, -, rfl⟩ := exists_leaf_of_blockPoint ht
  obtain ⟨rfl, rfl⟩ := eq_of_id_eq hd hb hb' (hid.trans hblock)
  exact ⟨path, b, currentBlock?_concat hs hpath hb, hmixed⟩

end Document

namespace DraftM

variable {L : Prop} {α : Type} {P : Progress Draft} {T : Task → Prop} {s : Draft} {id : BlockId}
  {k : Nat} {b : Block}

/-! ## Questions -/

theorem textAround_of_some (hb : s.document.block? id = some b) {x : Text × Text}
    (h : b.text.splitAt? k = some x) : textAround id k s = .ok x s := by
  show orLost ((((s.document.block? id).map Block.text).getD []).splitAt? k) s = _
  rw [hb, Option.map_some, Option.getD_some, h]
  rfl

theorem textAround_of_none (hb : s.document.block? id = some b)
    (h : b.text.splitAt? k = none) : textAround id k s = .error .lost s := by
  show orLost ((((s.document.block? id).map Block.text).getD []).splitAt? k) s = _
  rw [hb, Option.map_some, Option.getD_some, h]
  rfl

theorem textAround_cases (s : Draft) (id : BlockId) (k : Nat) :
    (∃ x, textAround id k s = .ok x s) ∨ textAround id k s = .error .lost s := by
  show (∃ x, orLost ((((s.document.block? id).map Block.text).getD []).splitAt? k) s = _) ∨
    orLost ((((s.document.block? id).map Block.text).getD []).splitAt? k) s = _
  cases (((s.document.block? id).map Block.text).getD []).splitAt? k with
  | none => exact .inr rfl
  | some x => exact .inl ⟨x, rfl⟩

/-- The text of the block of a point is cut at the offset of the point. -/
theorem keepsFrom_textAround {p : Point} {q : BlockPoint} (hq : s.document.blockPoint p = .ok q)
    (hb : s.document.block? q.block = some b) (hL : s.document.SplitsCharacter p → L)
    {f : Text × Text → DraftM α}
    (hf : ∀ x, b.text.splitAt? q.offset = some x → KeepsFrom P L (f x) s) :
    KeepsFrom P L (textAround q.block q.offset >>= f) s := by
  cases hcut : b.text.splitAt? q.offset with
  | none =>
    refine .stop (textAround_of_none hb hcut) fun _ => hL ⟨q, b, hq, hb, ?_⟩
    rw [Text.isBoundary, hcut]
    rfl
  | some x => exact .ask (textAround_of_some hb hcut) (hf x hcut)

theorem keeps_pointIn (id : BlockId) (offset : Nat) :
    Keeps P L (pointIn id offset) :=
  .get fun _ => keeps_orRefuse _ _

/-! ## The key -/

theorem Allows.keepsFrom_outdentAt (h : Allows P T) (hs : P.Good s) (unit : Text) (anchor : Point) :
    KeepsFrom P (s.document.SplitsCharacter anchor) (outdentAt unit anchor) s := by
  unfold outdentAt
  refine .ask (a := s) rfl ?_
  cases hp : s.document.blockPoint anchor with
  | error e => exact .stop rfl nofun
  | ok p =>
    refine .ask (a := p) rfl ?_
    obtain ⟨path, index, b, l, -, hb, -, -, rfl⟩ := Document.exists_leaf_of_blockPoint hp
    refine keepsFrom_textAround hp (Document.block?_eq (h.numbered hs).nodup hb) (fun h => h) ?_
    rintro ⟨before, after⟩ _
    refine .of_keeps ?_ hs
    dsimp only
    split
    next => exact .pure _
    next =>
      refine (keeps_pointIn _ _).bind ?_
      intro first
      refine (keeps_pointIn _ _).bind ?_
      intro last
      refine (h.perform _ (by trivial)).bind ?_
      intro _
      exact (keeps_pointIn _ _).bind fun _ => h.perform _ (by trivial)

/-- The third cut, from the start of the first line on, does not fail. -/
theorem Allows.keepsFrom_reindent (h : Allows P T) (hs : P.Good s) (unit : Text) (outdent : Bool)
    (r : Range) :
    KeepsFrom P
      ((∃ p q, s.document.blockPoint r.start = .ok p ∧ s.document.blockPoint r.stop = .ok q ∧
          p.block = q.block) ∧
        (s.document.SplitsCharacter r.start ∨ s.document.SplitsCharacter r.stop))
      (reindent unit outdent r) s := by
  unfold reindent
  refine .ask (a := s) rfl ?_
  dsimp only
  cases hstart : s.document.blockPoint r.start with
  | error e => exact .stop rfl nofun
  | ok start =>
    refine .ask (a := start) rfl ?_
    cases hstop : s.document.blockPoint r.stop with
    | error e => exact .stop rfl nofun
    | ok stop =>
      refine .ask (a := stop) rfl ?_
      split
      next => exact .of_keeps (.pure _) hs
      next hsame =>
        have hsame : start.block = stop.block := Decidable.not_not.mp hsame
        have hends : ∃ p q, Except.ok (ε := DocumentError) start = .ok p ∧
            Except.ok (ε := DocumentError) stop = .ok q ∧ p.block = q.block :=
          ⟨start, stop, rfl, rfl, hsame⟩
        obtain ⟨path, index, b, l, -, hb, -, -, hstart'⟩ :=
          Document.exists_leaf_of_blockPoint hstart
        have hb : s.document.block? start.block = some b := by
          rw [hstart']
          exact Document.block?_eq (h.numbered hs).nodup hb
        refine keepsFrom_textAround hstart hb (fun h => ⟨hends, .inl h⟩) ?_
        rintro ⟨before, after⟩ hbefore
        rw [hsame] at hb ⊢
        refine keepsFrom_textAround hstop hb (fun h => ⟨hends, .inr h⟩) ?_
        rintro ⟨upTo, rest⟩ hupTo
        have hle := Document.offset_le_of_le (h.numbered hs).nodup hstart hstop hsame
          (EditM.not_stop_lt_start r)
        obtain ⟨⟨front, touched⟩, htouched⟩ := Text.exists_splitAt?_lineStart hbefore hupTo hle
        refine .ask (a := (front, touched)) (by rw [htouched]; rfl) (.of_keeps ?_ hs)
        dsimp only
        refine (keeps_pointIn _ _).bind ?_
        intro first
        refine (keeps_pointIn _ _).bind ?_
        intro last
        refine (h.perform _ (by trivial)).bind ?_
        intro _
        refine (h.perform _ (by trivial)).bind ?_
        intro _
        refine (keeps_pointIn _ _).bind ?_
        intro front
        exact (keeps_pointIn _ _).bind fun back => h.perform _ (by trivial)

theorem Allows.keepsFrom_tab (h : Allows P T) (hs : P.Good s) (unit : Text) (outdent : Bool) :
    KeepsFrom P (s.document.TabSplits outdent) (tab unit outdent) s := by
  unfold tab Document.TabSplits
  refine .ask (a := s) rfl ?_
  cases hr : s.document.selection with
  | none => exact .of_keeps (.pure _) hs
  | some r =>
    dsimp only
    split
    next hcollapsed =>
      split
      next houtdent =>
        refine (h.keepsFrom_outdentAt hs unit r.anchor).mono fun h => ⟨r, rfl, ?_⟩
        rw [if_pos hcollapsed]
        exact ⟨houtdent, h⟩
      next => exact .of_keeps (h.perform _ (by trivial)) hs
    next hcollapsed =>
      refine (h.keepsFrom_reindent hs unit outdent r).mono fun h => ⟨r, rfl, ?_⟩
      rw [if_neg hcollapsed]
      exact h

theorem Allows.tab (h : Allows P T) (hL : L) (unit : Text) (outdent : Bool) :
    Keeps P L (tab unit outdent) :=
  fun _ hs => (h.keepsFrom_tab hs unit outdent).mono fun _ => hL

/-! ## When it is lost -/

theorem textAround_lost {p : Point} {q : BlockPoint} (hq : s.document.blockPoint p = .ok q)
    (h : s.document.SplitsCharacter p) : textAround q.block q.offset s = .error .lost s := by
  obtain ⟨q', b, hq', hb, hsplits⟩ := h
  obtain rfl : q = q' := Except.ok.inj (hq.symm.trans hq')
  exact textAround_of_none hb (Option.not_isSome_iff_eq_none.mp (ne_true_of_eq_false hsplits))

theorem outdentAt_lost {anchor : Point} (h : s.document.SplitsCharacter anchor) (unit : Text) :
    outdentAt unit anchor s = .error .lost s := by
  obtain ⟨q, -, hq, -⟩ := id h
  rw [outdentAt, get_bind, bind_of_ok (ofExcept_of_ok hq), bind_of_error (textAround_lost hq h)]

theorem reindent_lost {r : Range} {p q : BlockPoint} (hp : s.document.blockPoint r.start = .ok p)
    (hq : s.document.blockPoint r.stop = .ok q) (hsame : p.block = q.block)
    (h : s.document.SplitsCharacter r.start ∨ s.document.SplitsCharacter r.stop) (unit : Text)
    (outdent : Bool) : reindent unit outdent r s = .error .lost s := by
  rw [reindent, get_bind]
  dsimp only
  rw [bind_of_ok (ofExcept_of_ok hp), bind_of_ok (ofExcept_of_ok hq), if_neg (not_not_intro hsame)]
  rcases h with hfirst | hlast
  · rw [bind_of_error (textAround_lost hp hfirst)]
  · have hcut := textAround_lost hq hlast
    rw [← hsame] at hcut
    rcases textAround_cases s p.block p.offset with ⟨x, hx⟩ | hx
    · rw [bind_of_ok hx, bind_of_error hcut]
    · rw [bind_of_error hx]

/-- The key is lost exactly if it has to cut inside a character. -/
theorem tab_lost_iff (hs : s.document.WellNumbered) (unit : Text) (outdent : Bool) :
    Lost (tab unit outdent) s ↔ s.document.TabSplits outdent := by
  constructor
  · rintro ⟨t, h⟩
    exact ((allows_progress.keepsFrom_tab hs unit outdent).2 .lost t h).2 rfl
  · rintro ⟨r, hr, hsplits⟩
    refine ⟨s, ?_⟩
    rw [tab, get_bind, hr]
    dsimp only
    split at hsplits
    next hcollapsed =>
      rw [if_pos hcollapsed, if_pos hsplits.1]
      exact outdentAt_lost hsplits.2 unit
    next hcollapsed =>
      rw [if_neg hcollapsed]
      obtain ⟨⟨p, q, hp, hq, hsame⟩, hsplits⟩ := hsplits
      exact reindent_lost hp hq hsame hsplits unit outdent

end DraftM

end BlockNotes
