import BlockNotes.Proofs.Autoformat.AllOrNothing
import BlockNotes.Proofs.Editor.Lost
import BlockNotes.Proofs.Text.Lines

/-!
# The tabulator key in a code block

The key changes the indentation of the lines that the selection touches, which are those from the one
with its start to the one with its end (`EditorM.press_tab_reindents`).  All other lines stay, and so
do all other blocks.

What is rewritten is a slice of the text, from the start of the first line to the end of the
selection.  It is cut out of the text together with its lines (`Text.LineCut`), so a change of the
slice is a change of some lines of the whole (`Indent.append_reindent`).  A whole unit in front of the
slice's part of the last line is one in front of this line.  Taking indentation away is different.  A
part of a line loses what the line loses only if it is long enough (`Indent.outdentOf_of_append`), so
where the selection ends inside of the indentation the last line keeps it.
-/

namespace BlockNotes

namespace Indent

variable {k : Nat} {unit line p r x y : Text} {below : List Text}

/-! ## What a line loses -/

theorem outdentOf_eq (unit line : Text) :
    outdentOf unit line = if unit ≠ [] ∧ unit <+: line then unit
      else if ['\t'] <+: line then ['\t'] else [] := by
  rw [outdentOf, Text.startsWith, Text.startsWith]
  simp only [Bool.and_eq_true, List.isPrefixOf_iff_prefix, Bool.not_eq_true', List.isEmpty_eq_false_iff]

theorem outdentOf_congr (hunit : unit <+: x ↔ unit <+: y) (htab : ['\t'] <+: x ↔ ['\t'] <+: y) :
    outdentOf unit x = outdentOf unit y := by
  simp only [outdentOf_eq, hunit, htab]

/-- What a line loses stands at its start. -/
theorem prefix_outdentOf (unit line : Text) : outdentOf unit line <+: line := by
  rw [outdentOf_eq]
  split
  next h => exact h.2
  next =>
    split
    next h => exact h
    next => exact List.nil_prefix

theorem outdentOf_append_outdentLine (unit line : Text) :
    outdentOf unit line ++ outdentLine unit line = line :=
  List.prefix_iff_eq_append.mp (prefix_outdentOf unit line)

theorem prefix_append_newline (h : '\n' ∉ x) (line rest : Text) :
    x <+: line ++ '\n' :: rest ↔ x <+: line := by
  refine ⟨fun hx => ?_, fun hx => hx.trans (List.prefix_append _ _)⟩
  rcases List.prefix_or_prefix_of_prefix hx (List.prefix_append line _) with hle | ⟨z, rfl⟩
  · exact hle
  · cases z with
    | nil => simp
    | cons c z =>
      obtain ⟨rfl, -⟩ := List.cons_prefix_cons.mp ((List.prefix_append_right_inj line).mp hx)
      exact absurd (List.mem_append_right _ List.mem_cons_self) h

/-- What a line loses is a matter of this line. -/
theorem outdentOf_ofLines (h : '\n' ∉ unit) (p r : Text) (below : List Text) :
    outdentOf unit (p ++ Text.ofLines (r :: below)) = outdentOf unit (p ++ r) := by
  cases below with
  | nil => rfl
  | cons y ys =>
    have htext : p ++ Text.ofLines (r :: y :: ys) = p ++ r ++ '\n' :: Text.ofLines (y :: ys) := by
      rw [Text.ofLines_cons r (List.cons_ne_nil _ _), List.append_assoc]
    rw [htext]
    exact outdentOf_congr (prefix_append_newline h _ _) (prefix_append_newline (by decide) _ _)

/-- What a text starts with, a first part of it starts with if it is long enough. -/
theorem prefix_left_iff (h : x <+: p ++ r) : x <+: p ↔ x.bytes ≤ p.bytes := by
  constructor
  · rintro ⟨z, rfl⟩
    rw [Text.bytes_append]
    exact Nat.le_add_right _ _
  · intro hle
    rcases List.prefix_or_prefix_of_prefix h (List.prefix_append p r) with hx | ⟨z, rfl⟩
    · exact hx
    · rw [Text.bytes_append] at hle
      have hz : Text.bytes z = 0 := by omega
      simp [Text.bytes_eq_zero.mp hz]

/-- A first part of a line loses what the line loses, or nothing if it is too short for that. -/
theorem outdentOf_of_append (htab : ¬ ['\t'] <+: unit) (p r : Text) :
    outdentOf unit p =
      if p.bytes < (outdentOf unit (p ++ r)).bytes then [] else outdentOf unit (p ++ r) := by
  by_cases hunit : unit ≠ [] ∧ unit <+: p ++ r
  · -- A line that starts with a unit does not start with a tabulator character.
    have hno : ¬ ['\t'] <+: p := by
      intro hp
      obtain ⟨c, rest, rfl⟩ := List.exists_cons_of_ne_nil hunit.1
      obtain ⟨y, rfl⟩ := hp
      rw [List.append_assoc, List.singleton_append, List.cons_prefix_cons] at hunit
      exact htab ⟨rest, by rw [hunit.2.1]; rfl⟩
    rw [outdentOf_eq unit (p ++ r), if_pos hunit, outdentOf_eq, if_neg hno]
    simp only [prefix_left_iff hunit.2, ← Nat.not_lt, hunit.1, ne_eq, not_false_eq_true, true_and,
      ite_not]
  · have hshort : ¬ (unit ≠ [] ∧ unit <+: p) :=
      fun h => hunit ⟨h.1, h.2.trans (List.prefix_append p r)⟩
    rw [outdentOf_eq unit (p ++ r), if_neg hunit, outdentOf_eq, if_neg hshort]
    by_cases hline : ['\t'] <+: p ++ r
    · simp only [if_pos hline, prefix_left_iff hline, ← Nat.not_lt, ite_not]
    · rw [if_neg hline, if_neg fun h => hline (h.trans (List.prefix_append p r)), ite_self]

/-- A line whose first part has lost what it loses. -/
theorem outdentLine_append (htab : ¬ ['\t'] <+: unit) (p r : Text) :
    outdentLine unit p ++ r = if p.bytes < (outdentOf unit (p ++ r)).bytes then p ++ r
      else outdentLine unit (p ++ r) := by
  rw [outdentLine, outdentOf_of_append htab p r]
  split
  next => rfl
  next h =>
    have hle := (prefix_left_iff (prefix_outdentOf unit (p ++ r))).mpr (Nat.not_lt.mp h)
    rw [outdentLine, List.drop_append_of_le_length hle.length_le]

end Indent

namespace Document

variable {d d' : Document} {path : Path} {b c : Block} {m n : Nat} {x y z t : Text}

/-! ## Text in a block -/

/-- The block at a path has another text.  It has its identity and its kind, and all other blocks are
as they were. -/
structure Retexted (d : Document) (path : Path) (b : Block) (t : Text) (d' : Document) : Prop where
  block : ∃ c, d'.blockAt? path = some c ∧ c.id = b.id ∧ c.kind = b.kind ∧ c.text = t
  others : ∀ q, q ≠ path → (d'.blockAt? q).map Block.own = (d.blockAt? q).map Block.own

theorem Retexted.refl (hb : d.blockAt? path = some b) : d.Retexted path b b.text d :=
  ⟨⟨b, hb, rfl, rfl, rfl⟩, fun _ _ => rfl⟩

theorem Refilled.retexted (h : d.Refilled path b c n d') (hleaves : Node.AreLeaves b.children) :
    d.Retexted path b c.text d' :=
  ⟨⟨c, h.blockAt?, h.id_eq, h.kind_eq, rfl⟩,
    fun _ hq => h.swapped.map_own_blockAt? hleaves h.areLeaves hq⟩

theorem Regular.site_of_blockPoint (hd : d.Regular) (hb : d.blockAt? path = some b) {q : Point}
    (h : d.blockPoint q = .ok ⟨b.id, n⟩) : d.Site q path b n :=
  Document.site_of_blockPoint hd.nodup hb (isTextBlock_of_blockPoint hd.nodup hd.uniform hb h) h

/-- The ends of a range in a block are at the smaller and at the larger one of its offsets. -/
theorem site_start_stop_min {r : Range} (hp : d.Site r.anchor path b m)
    (hq : d.Site r.focus path b n) :
    d.Site r.start path b (min m n) ∧ d.Site r.stop path b (max m n) := by
  have hends := le_stop r
  by_cases h : r.anchor ≤ r.focus
  · have hle := hp.offset_le hq h
    rw [Range.start, Range.stop, if_pos h, if_pos h, Nat.min_eq_left hle, Nat.max_eq_right hle]
    exact ⟨hp, hq⟩
  · rw [Range.start, Range.stop, if_neg h, if_neg h] at hends ⊢
    have hle := hq.offset_le hp hends
    rw [Nat.min_eq_right hle, Nat.max_eq_left hle]
    exact ⟨hq, hp⟩

/-- A range between two places of a block in a direction.  If the places are different, the range is
expanded and has this direction. -/
theorem site_directed {p q : Point} (hp : d.Site p path b m) (hq : d.Site q path b n) (hle : m ≤ n)
    (backward : Bool) {r : Range} (hr : r = if backward then ⟨q, p⟩ else ⟨p, q⟩) :
    d.Site r.start path b m ∧ d.Site r.stop path b n ∧
      (m < n → r.isCollapsed = false ∧ r.isBackward = backward) := by
  have hne : m < n → p ≠ q := by
    rintro hlt rfl
    have hsame := Except.ok.inj (hp.blockPoint_eq.symm.trans hq.blockPoint_eq)
    exact Nat.ne_of_lt hlt (congrArg BlockPoint.offset hsame)
  have hnot : m < n → ¬ q ≤ p := fun hlt h => Nat.not_le_of_lt hlt (hq.offset_le hp h)
  cases backward with
  | false =>
    subst hr
    obtain ⟨hstart, hstop⟩ := site_start_stop hp hq hle
    exact ⟨hstart, hstop, fun hlt => ⟨decide_eq_false (hne hlt),
      decide_eq_false fun h => hnot hlt (point_le_of_lt h)⟩⟩
  | true =>
    subst hr
    obtain ⟨hstart, hstop⟩ := site_start_stop_min (r := ⟨q, p⟩) hq hp
    rw [Nat.min_eq_right hle] at hstart
    rw [Nat.max_eq_left hle] at hstop
    exact ⟨hstart, hstop, fun hlt => ⟨decide_eq_false (hne hlt).symm,
      decide_eq_true (not_not.mp (hnot hlt))⟩⟩

/-- The middle of a text is deleted. -/
theorem Orderly.exists_deleted (hd : d.Orderly) {r : Range} (hs : d.Site r.start path b m)
    (he : d.Site r.stop path b n) (htext : b.text = x ++ y ++ z) (hm : x.bytes = m)
    (hn : (x ++ y).bytes = n) :
    ∃ p d' c, d.apply (.deleteRange r) = (.ok p, d') ∧ d.Refilled path b c m d' ∧
      c.text = x ++ z := by
  obtain ⟨p, d', c, happly, hrefilled, hmarked⟩ := hd.exists_deleteRange hs he
  refine ⟨p, d', c, happly, hrefilled, ?_⟩
  have hfront : (x ++ y ++ z).charsBefore x.bytes = x.length := by
    rw [List.append_assoc, Text.charsBefore_append]
  rw [← Block.map_fst_marked, hmarked, List.map_append, List.map_take, List.map_drop,
    Block.map_fst_marked, ← Block.text_eq_ownText hs.isTextBlock, htext, ← hm, ← hn, hfront,
    Text.charsBefore_append, List.drop_left, List.append_assoc, List.take_left]

/-- Text is put in at the cursor. -/
theorem Refilled.exists_inserted (h : d.Refilled path b c n d') (hvoid : c.kind.isVoid = false)
    (htext : c.text = x ++ z) (hn : x.bytes = n) (t : Text) :
    ∃ p d'' c', d'.apply (.insertText t) = (.ok p, d'') ∧
      d.Refilled path b c' (n + t.bytes) d'' ∧ c'.text = x ++ t ++ z := by
  obtain ⟨p, d'', c', happly, hrefilled, marks, hmarked⟩ := h.exists_insertText hvoid t
  refine ⟨p, d'', c', happly, h.trans hrefilled, ?_⟩
  rw [← Block.map_fst_marked, hmarked, List.map_append, List.map_append, List.map_take,
    List.map_drop, Block.map_fst_marked, ← Block.text_eq_ownText h.isTextBlock, htext, ← hn,
    Text.charsBefore_append, List.take_left, List.drop_left, List.map_map]
  simp [Function.comp_def]

/-- A text stands in the block at a path, all other blocks are as they were, and the middle of the
text is selected, in a direction. -/
structure Rewritten (d : Document) (path : Path) (b : Block) (x y z : Text) (backward : Bool)
    (d' : Document) : Prop where
  orderly : d'.Orderly
  retexted : d.Retexted path b (x ++ y ++ z) d'
  selection : ∃ r c, d'.selection = some r ∧ d'.Site r.start path c x.bytes ∧
    d'.Site r.stop path c (x ++ y).bytes ∧
    (y ≠ [] → r.isCollapsed = false ∧ r.isBackward = backward)

end Document

/-- What the rewritten lines are in the whole text. -/
theorem Indent.append_reindent {t head slice tail : Text} {m n : Nat} {above front below : List Text}
    {p rest : Text} (h : t.LineCut m n head slice tail above front p rest below) (unit : Text)
    (outdent : Bool) :
    head ++ reindent unit outdent slice ++ tail = Text.ofLines (above ++
      (front.map (fun line => if outdent then outdentLine unit line else unit ++ line) ++
        [(if outdent then outdentLine unit p else unit ++ p) ++ rest]) ++ below) := by
  rw [reindent, h.slice_lines, List.map_append, List.map_singleton]
  exact h.append_ofLines _ _

namespace DraftM

variable {s : Draft} {path : Path} {b : Block} {r : Range} {m n : Nat} {unit x y z head slice tail : Text}
  {above front below : List Text} {p rest : Text}

/-- The place behind a first part of a text is found. -/
theorem exists_pointIn (hd : s.document.Orderly) (hb : s.document.blockAt? path = some b)
    (htext : b.isTextBlock = true) (hparts : b.text = x ++ y) :
    ∃ q, pointIn b.id x.bytes s = .ok q s ∧ s.document.Site q path b x.bytes := by
  obtain ⟨q, hq, hsite⟩ := hd.exists_pointIn? hb htext (Text.isBoundary_iff.mpr ⟨x, y, hparts, rfl⟩)
  exact ⟨q, pointIn_of_eq_some hq, hsite⟩

theorem textAround_of_append (hd : s.document.Orderly) (hb : s.document.blockAt? path = some b)
    (htext : b.text = x ++ y) (hx : x.bytes = n) : textAround b.id n s = .ok (x, y) s := by
  refine textAround_of_some (Document.block?_eq hd.nodup hb) ?_
  rw [htext, ← hx, Text.splitAt?_append]

/-- The middle of a text is found and deleted. -/
theorem exists_deleted (hd : s.document.Orderly) (hb : s.document.blockAt? path = some b)
    (htext : b.isTextBlock = true) (hparts : b.text = x ++ y ++ z) :
    ∃ first last d' c, pointIn b.id x.bytes s = .ok first s ∧
      pointIn b.id (x ++ y).bytes s = .ok last s ∧
      perform (.deleteRange ⟨first, last⟩) s = .ok ⟨⟩ { s with document := d' } ∧
      s.document.Refilled path b c x.bytes d' ∧ c.text = x ++ z := by
  have hle : x.bytes ≤ (x ++ y).bytes := by
    rw [Text.bytes_append]
    exact Nat.le_add_right _ _
  obtain ⟨first, hfirst, hsite⟩ :=
    exists_pointIn hd hb htext (hparts.trans (List.append_assoc x y z))
  obtain ⟨last, hlast, hsite'⟩ := exists_pointIn hd hb htext hparts
  obtain ⟨hstart, hstop⟩ := Document.site_start_stop hsite hsite' hle
  obtain ⟨_, d', c, hdelete, hrefilled, hrest⟩ := hd.exists_deleted hstart hstop hparts rfl rfl
  exact ⟨first, last, d', c, hfirst, hlast, perform_of_ok hdelete, hrefilled, hrest⟩

/-- The touched lines are rewritten, the last one up to the end of the selection, and selected. -/
theorem exists_reindent (hd : s.document.Orderly) (hp : s.document.Site r.start path b m)
    (hq : s.document.Site r.stop path b n) (hvoid : b.kind.isVoid = false)
    (hcut : b.text.LineCut m n head slice tail above front p rest below) (unit : Text)
    (outdent : Bool) :
    ∃ d', reindent unit outdent r s = .ok ⟨⟩ { s with document := d' } ∧
      s.document.Rewritten path b head (Indent.reindent unit outdent slice) tail r.isBackward d' := by
  have htext := hp.isTextBlock
  have hm := hp.isBoundary
  rw [← Block.text_eq_ownText htext] at hm
  obtain ⟨before, after, hbefore, hbytes⟩ := Text.isBoundary_iff.mp hm
  have hstart : m - before.lastLine.bytes = head.bytes := by
    rw [hcut.start, Text.columnAt, hbefore, ← hbytes, Text.charsBefore_append, List.take_left]
  obtain ⟨first, last, d₁, c₁, hfirst, hlast, hdelete, hrefilled₁, hrest⟩ :=
    exists_deleted hd hp.blockAt? htext hcut.text
  rw [hcut.stop] at hlast
  obtain ⟨_, d₂, c, hinsert, hrefilled, hall⟩ := hrefilled₁.exists_inserted
    (hrefilled₁.kind_eq ▸ hvoid) hrest rfl (Indent.reindent unit outdent slice)
  have hinsert' := perform_of_ok (s := { s with document := d₁ }) hinsert
  obtain ⟨q, hq₁, hsite₁⟩ := exists_pointIn (s := { s with document := d₂ }) hrefilled.orderly
    hrefilled.blockAt? hrefilled.isTextBlock (hall.trans (List.append_assoc head _ tail))
  obtain ⟨q', hq₂, hsite₂⟩ := exists_pointIn (s := { s with document := d₂ }) hrefilled.orderly
    hrefilled.blockAt? hrefilled.isTextBlock hall
  rw [hrefilled.id_eq] at hq₁ hq₂
  obtain ⟨hstart', hstop', hdirected⟩ := Document.site_directed hsite₁ hsite₂
    (Text.bytes_append head _ ▸ Nat.le_add_right _ _) r.isBackward rfl
  rw [Text.bytes_append] at hq₂
  have hretexted := hrefilled.retexted hp.areLeaves
  rw [hall] at hretexted
  refine ⟨{ d₂ with selection := some (if r.isBackward then ⟨q', q⟩ else ⟨q, q'⟩) }, ?_,
    hrefilled.orderly.of_children _ d₂.version, ⟨hretexted.block, hretexted.others⟩, _, c, rfl,
    ⟨hstart'.blockAt?, hstart'.areLeaves, hstart'.leaf⟩,
    ⟨hstop'.blockAt?, hstop'.areLeaves, hstop'.leaf⟩, fun hne => hdirected ?_⟩
  · rw [reindent, get_bind, bind_of_ok (ofExcept_of_ok hp.blockPoint_eq),
      bind_of_ok (ofExcept_of_ok hq.blockPoint_eq)]
    simp only [ne_eq, not_true_eq_false, if_false]
    rw [bind_of_ok (textAround_of_append hd hp.blockAt? hbefore hbytes)]
    dsimp only
    rw [bind_of_ok (textAround_of_append hd hp.blockAt? hcut.text hcut.stop)]
    dsimp only
    rw [hstart, Text.splitAt?_append]
    rw [bind_of_ok (show orLost (some (head, slice)) s = .ok (head, slice) s from rfl)]
    dsimp only
    rw [bind_of_ok hfirst, bind_of_ok hlast, bind_of_ok hdelete, bind_of_ok hinsert',
      bind_of_ok hq₁, bind_of_ok hq₂]
    cases r.isBackward with
    | false => exact perform_of_ok (Document.apply_select hsite₁.blockPoint_eq hsite₂.blockPoint_eq)
    | true => exact perform_of_ok (Document.apply_select hsite₂.blockPoint_eq hsite₁.blockPoint_eq)
  · have hpos := mt Text.bytes_eq_zero.mp hne
    rw [Text.bytes_append]
    omega

/-- An offset in a text that has lost what it started with. -/
theorem exists_parts_of_append_eq {u w : Text} (h : x ++ y = u ++ w) (k : Nat) :
    ∃ v v', w = v ++ v' ∧ v = x.drop u.length ∧ max (k + x.bytes - u.bytes) k = k + v.bytes := by
  rcases List.append_eq_append_iff.mp h with ⟨a, rfl, rfl⟩ | ⟨a, rfl, rfl⟩
  · refine ⟨[], w, rfl, by simp, ?_⟩
    rw [Text.bytes_append, Text.bytes_nil]
    omega
  · refine ⟨a, y, rfl, by simp, ?_⟩
    rw [Text.bytes_append]
    omega

/-- One step of indentation is taken away from the line with the cursor, and the cursor stays in front of
the same character, or it goes to the start of the line. -/
theorem exists_outdentAt (hd : s.document.Orderly) {anchor : Point}
    (hp : s.document.Site anchor path b n) (hs : s.document.selection = some (.collapsed anchor))
    (hunit : '\n' ∉ unit) (hcut : b.text.LineCut n n head slice tail above front p rest below) :
    ∃ d', outdentAt unit anchor s = .ok ⟨⟩ { s with document := d' } ∧ s.document.Retexted path b
        (Text.ofLines (above ++ Indent.outdentLine unit (slice ++ rest) :: below)) d' ∧
      d'.CursorAt ⟨b.id, head.bytes +
        Text.bytes (slice.drop (Indent.outdentOf unit (slice ++ rest)).length)⟩ := by
  obtain ⟨rfl, rfl, hlast⟩ := hcut.line
  have htail : tail = Text.ofLines (rest :: below) := by
    rw [← Text.ofLines_lines tail, hcut.tail_lines]
  have hloss := Indent.outdentOf_ofLines hunit slice rest below
  have hline := Indent.outdentOf_append_outdentLine unit (slice ++ rest)
  have hlines : b.text = Text.ofLines (above ++ (slice ++ rest) :: below) := by
    rw [← Text.ofLines_lines b.text, hcut.touches.lines_eq]
    simp
  have hstart : n - slice.bytes = head.bytes := by
    rw [← hcut.stop, Text.bytes_append, Nat.add_sub_cancel_right]
  rw [← htail] at hloss
  rw [outdentAt, get_bind, bind_of_ok (ofExcept_of_ok hp.blockPoint_eq),
    bind_of_ok (textAround_of_append hd hp.blockAt? hcut.text hcut.stop)]
  dsimp only
  rw [hlast, hloss, hstart]
  generalize Indent.outdentOf unit (slice ++ rest) = u at *
  generalize Indent.outdentLine unit (slice ++ rest) = line at *
  split
  next hzero =>
    rw [Text.bytes_eq_zero.mp hzero, List.nil_append] at hline
    refine ⟨s.document, rfl, ?_, anchor, hs, ?_⟩
    · rw [hline, ← hlines]
      exact .refl hp.blockAt?
    · rw [hp.blockPoint_eq, Text.bytes_eq_zero.mp hzero, List.length_nil, List.drop_zero,
        ← Text.bytes_append, hcut.stop]
  next =>
    have hsplit : slice ++ tail = u ++ Text.ofLines (line :: below) :=
      calc slice ++ tail = Text.ofLines ((slice ++ rest) :: below) := by
            rw [htail]
            exact Text.ofLines_append [] slice rest below
        _ = u ++ Text.ofLines (line :: below) := by
            rw [← hline]
            exact (Text.ofLines_append [] u line below).symm
    have hparts : b.text = head ++ u ++ Text.ofLines (line :: below) := by
      rw [hcut.text, List.append_assoc, hsplit, List.append_assoc]
    obtain ⟨first, last, d₁, c, hfirst, hlast, hdelete, hrefilled, hall⟩ :=
      exists_deleted hd hp.blockAt? hp.isTextBlock hparts
    obtain ⟨v, v', hw, hv, hmax⟩ := exists_parts_of_append_eq hsplit head.bytes
    have hfront : c.text = head ++ v ++ v' := by
      rw [hall, hw, List.append_assoc]
    obtain ⟨q, hq, hsite⟩ := exists_pointIn (s := { s with document := d₁ }) hrefilled.orderly
      hrefilled.blockAt? hrefilled.isTextBlock hfront
    rw [Text.bytes_append, ← hmax, hrefilled.id_eq, ← Text.bytes_append, hcut.stop] at hq
    have hlines' : c.text = Text.ofLines (above ++ line :: below) := by
      rw [hall, ← Text.ofLines_lines head, hcut.head_lines, Text.ofLines_append, List.nil_append]
    have hretexted := hrefilled.retexted hp.areLeaves
    rw [hlines'] at hretexted
    rw [Text.bytes_append] at hlast
    refine ⟨{ d₁ with selection := some (.collapsed q) }, ?_,
      ⟨hretexted.block, hretexted.others⟩, q, rfl, ?_⟩
    · rw [bind_of_ok hfirst, bind_of_ok hlast, bind_of_ok hdelete, bind_of_ok hq]
      exact perform_of_ok (Document.apply_select hsite.blockPoint_eq hsite.blockPoint_eq)
    · rw [← hv, ← Text.bytes_append, ← hrefilled.id_eq]
      exact hsite.blockPoint_eq

theorem tab_of_expanded (hr : s.document.selection = some r) (h : r.isCollapsed = false) (unit : Text)
    (outdent : Bool) : tab unit outdent s = reindent unit outdent r s := by
  rw [tab, get_bind, hr]
  dsimp only
  rw [h, if_neg Bool.false_ne_true]

theorem tab_of_collapsed (hr : s.document.selection = some r) (h : r.isCollapsed = true)
    (unit : Text) : tab unit true s = outdentAt unit r.anchor s := by
  rw [tab, get_bind, hr]
  dsimp only
  rw [h, if_pos rfl, if_pos rfl]

end DraftM

namespace EditorM

variable {τ : Type} [Tokenizer τ] {e : Editor τ} {m : Modifiers} {path : Path} {b : Block} {r : Range}
  {i j : Nat}

theorem press_tab_of_ok (hm : m.isCommand = false) (hcode : e.inCode = true) {s : Draft}
    (h : DraftM.tab e.indent m.shift e.draft = .ok ⟨⟩ s) :
    ∃ e', press ⟨.tab, m⟩ e = .ok true e' ∧ e'.document = s.document ∧ e'.indent = e.indent := by
  obtain ⟨e', hobserved, hdraft⟩ := observed_of_ok h
  have htolerate : tolerate (observed (DraftM.tab e.indent m.shift)) e = .ok () e' := by
    rw [tolerate, hobserved]
  refine ⟨e', ?_, congrArg Draft.document hdraft, indent_of_observed hobserved⟩
  rw [press, get_bind, (ofKey?_tab m _).mpr ⟨hm, hcode, rfl⟩]
  dsimp only
  rw [bind_of_ok htolerate]
  rfl

/-- With a cursor the line with the cursor is rewritten. -/
theorem press_tab_collapsed (he : e.document.Orderly) {head slice tail : Text}
    {above front below : List Text} {p rest : Text} (hp : e.document.Site r.anchor path b i)
    (hr : e.document.selection = some r) (hunit : '\n' ∉ e.indent) (hincode : e.inCode = true)
    (hm : m.isCommand = false) (hcollapsed : r.isCollapsed = true) (hshift : m.shift = true)
    (hcut : b.text.LineCut i i head slice tail above front p rest below) :
    ∃ e', press ⟨.tab, m⟩ e = .ok true e' ∧ e.document.Retexted path b (Text.ofLines
        (above ++ Indent.outdentLine e.indent (slice ++ rest) :: below)) e'.document ∧
      e'.document.CursorAt ⟨b.id, head.bytes +
        Text.bytes (slice.drop (Indent.outdentOf e.indent (slice ++ rest)).length)⟩ := by
  have hcursor : e.document.selection = some (.collapsed r.anchor) := by
    rw [hr, Range.collapsed, show r = ⟨r.anchor, r.focus⟩ from rfl,
      ← (of_decide_eq_true hcollapsed : r.anchor = r.focus)]
  obtain ⟨d', hrun, hretexted, hcursor'⟩ :=
    DraftM.exists_outdentAt (s := e.draft) he hp hcursor hunit hcut
  rw [← DraftM.tab_of_collapsed (s := e.draft) hr hcollapsed, ← hshift] at hrun
  obtain ⟨e', hpress, hdocument, -⟩ := press_tab_of_ok hm hincode hrun
  exact ⟨e', hpress, hdocument ▸ hretexted, hdocument ▸ hcursor'⟩

/-- With an expanded selection the touched lines are rewritten and selected. -/
theorem press_tab_expanded (he : e.document.Orderly) {n n' : Nat} {head slice tail : Text}
    {above front below : List Text} {p rest : Text} (hstart : e.document.Site r.start path b n)
    (hstop : e.document.Site r.stop path b n') (hr : e.document.selection = some r)
    (hvoid : b.kind.isVoid = false) (hincode : e.inCode = true) (hm : m.isCommand = false)
    (hexpanded : r.isCollapsed = false)
    (hcut : b.text.LineCut n n' head slice tail above front p rest below) :
    ∃ e', press ⟨.tab, m⟩ e = .ok true e' ∧ e.document.Rewritten path b head
        (Indent.reindent e.indent m.shift slice) tail r.isBackward e'.document ∧
      e'.indent = e.indent := by
  obtain ⟨d', hrun, hrewritten⟩ :=
    DraftM.exists_reindent (s := e.draft) he hstart hstop hvoid hcut e.indent m.shift
  rw [← DraftM.tab_of_expanded (s := e.draft) hr hexpanded] at hrun
  obtain ⟨e', hpress, hdocument, hindent⟩ := press_tab_of_ok hm hincode hrun
  exact ⟨e', hpress, hdocument ▸ hrewritten, hindent⟩

/-- The tabulator key in a code block, where a unit of indentation is some spaces and both ends of the
selection are in the block.  If the selection is expanded, each line from the one with its start to
the one with its end gets a unit.  With shift each of them loses a unit if it starts with one, or else
a tabulator character if it starts with one; but if the selection ends in the part that the last one
would lose, this line stays as it is.  With a cursor and shift the line with the cursor loses as much
in any case, and the cursor stays before the same character, or at the start of the line if it was in
the part that is gone.  All other lines and all other blocks are as they were. -/
theorem press_tab_reindents (he : e.document.Regular) {k : Nat}
    (hindent : e.indent = List.replicate (k + 1) ' ') (hr : e.document.selection = some r)
    (hb : e.document.blockAt? path = some b) (hcode : b.kind.isCode = true)
    (hanchor : e.document.blockPoint r.anchor = .ok ⟨b.id, i⟩)
    (hfocus : e.document.blockPoint r.focus = .ok ⟨b.id, j⟩) (hm : m.isCommand = false) :
    ∃ above front last below, b.text.Touches (min i j) (max i j) above (front ++ [last]) below ∧
      (r.isCollapsed = false → m.shift = false → ∃ e', press ⟨.tab, m⟩ e = .ok true e' ∧
        e.document.Retexted path b (Text.ofLines
          (above ++ (front ++ [last]).map (e.indent ++ ·) ++ below)) e'.document) ∧
      (r.isCollapsed = false → m.shift = true → ∃ e', press ⟨.tab, m⟩ e = .ok true e' ∧
        e.document.Retexted path b (Text.ofLines (above ++ (front.map (Indent.outdentLine e.indent) ++
          [if b.text.columnAt (max i j) < (Indent.outdentOf e.indent last).bytes then last
            else Indent.outdentLine e.indent last]) ++ below)) e'.document) ∧
      (r.isCollapsed = true → m.shift = true → ∃ e' x y, press ⟨.tab, m⟩ e = .ok true e' ∧
        e.document.Retexted path b (Text.ofLines
          (above ++ Indent.outdentLine e.indent last :: below)) e'.document ∧
        last = x ++ y ∧ x.bytes = b.text.columnAt i ∧ e'.document.CursorAt
          ⟨b.id, i - x.bytes + Text.bytes (x.drop (Indent.outdentOf e.indent last).length)⟩) := by
  have hp := he.site_of_blockPoint hb hanchor
  have hq := he.site_of_blockPoint hb hfocus
  obtain ⟨hstart, hstop⟩ := Document.site_start_stop_min hp hq
  have hincode : e.inCode = true := by
    rw [Editor.inCode, Document.currentBlock?_eq hr hp]
    exact hcode
  have hvoid : b.kind.isVoid = false := by
    cases hkind : b.kind <;> first | rfl | (rw [hkind] at hcode; cases hcode)
  have hnewline : '\n' ∉ e.indent := by
    rw [hindent]
    exact fun hmem => absurd (List.eq_of_mem_replicate hmem) (by decide)
  have htab : ¬ ['\t'] <+: e.indent := by
    rw [hindent, List.replicate_succ, List.cons_prefix_cons]
    exact fun h => absurd h.1 (by decide)
  have hleft := hstart.isBoundary
  have hright := hstop.isBoundary
  rw [← Block.text_eq_ownText hp.isTextBlock] at hleft hright
  obtain ⟨head, slice, tail, above, front, p, rest, below, hcut⟩ :=
    Text.exists_lineCut (Nat.le_trans (Nat.min_le_left i j) (Nat.le_max_left i j)) hleft hright
  refine ⟨above, front, p ++ rest, below, hcut.touches, ?_, ?_, ?_⟩
  · intro hexpanded hshift
    obtain ⟨e', hpress, ⟨-, hretexted, -⟩, -⟩ :=
      press_tab_expanded he.orderly hstart hstop hr hvoid hincode hm hexpanded hcut
    rw [Indent.append_reindent hcut, hshift] at hretexted
    refine ⟨e', hpress, ?_⟩
    simpa using hretexted
  · intro hexpanded hshift
    obtain ⟨e', hpress, ⟨-, hretexted, -⟩, -⟩ :=
      press_tab_expanded he.orderly hstart hstop hr hvoid hincode hm hexpanded hcut
    rw [Indent.append_reindent hcut, hshift] at hretexted
    refine ⟨e', hpress, ?_⟩
    rw [hcut.columnAt_eq, ← Indent.outdentLine_append htab]
    simpa using hretexted
  · intro hcollapsed hshift
    have hends : r.anchor = r.focus := of_decide_eq_true hcollapsed
    rw [hends, hfocus] at hanchor
    cases hanchor
    rw [Nat.min_self, Nat.max_self] at hcut
    obtain ⟨e', hpress, hretexted, hcursor⟩ :=
      press_tab_collapsed he.orderly hp hr hnewline hincode hm hcollapsed hshift hcut
    obtain ⟨-, rfl, -⟩ := hcut.line
    refine ⟨e', slice, rest, hpress, hretexted, rfl, hcut.columnAt_eq.symm, ?_⟩
    rw [← hcut.columnAt_eq, ← hcut.start]
    exact hcursor

/-- Three lines, the second one with a tabulator character, selected from the end of the last one back
into the indentation of the first one. -/
theorem press_tab_reindents_backward :
    let t : Text := [' ', ' ', 'a', '\n', '\t', 'é', '\n', ' ', ' ', 'c']
    let e := Editor.ofDocument ((Document.ofBlocks [.ofText (.code "text") t]).run
      [.select ⟨⟨[0, 0], 11⟩, ⟨[0, 0], 1⟩⟩]) Registry.empty {}
    ∃ e' c, press ⟨.tab, { shift := true }⟩ e = .ok true e' ∧ e'.document.blockAt? [0] = some c ∧
      c.kind = .code "text" ∧ c.text = ['a', '\n', 'é', '\n', 'c'] := by
  intro t e
  have hsound : ∀ b ∈ [Block.ofText (.code "text") t], b.Everywhere Block.Sound :=
    List.forall_mem_singleton.mpr (Block.everywhere_sound_ofText _ _)
  have he : e.document.Regular :=
    Document.regular_run hsound (List.forall_mem_singleton.mpr trivial)
  have hb : e.document.blockAt? [0] = some ⟨1, .code "text", [.leaf (.ofText t)]⟩ := by rfl
  have hm : Modifiers.isCommand { shift := true } = false := rfl
  obtain ⟨above, front, last, below, ⟨hlines, hfirst, hlast⟩, -, hout, -⟩ :=
    press_tab_reindents he (k := 1) rfl rfl hb rfl (i := 11) (j := 1) (by rfl) (by rfl) hm
  obtain ⟨e', hpress, ⟨c, hc, -, hkind, htext⟩, -⟩ := hout rfl rfl
  refine ⟨e', c, hpress, hc, hkind, htext.trans ?_⟩
  -- All three lines are touched.
  have habove : above = [] := List.length_eq_zero_iff.mp (hfirst.trans (by decide))
  have hcount : above.length + (front ++ [last]).length = 3 := hlast.trans (by decide)
  have hall : [[' ', ' ', 'a'], ['\t', 'é'], [' ', ' ', 'c']] = above ++ (front ++ [last]) ++ below :=
    hlines
  have hbelow : below = [] := by
    have hlength := congrArg List.length hall
    rw [List.length_append, List.length_append, hcount] at hlength
    exact List.length_eq_zero_iff.mp (Nat.add_left_cancel hlength).symm
  subst habove hbelow
  rw [List.nil_append, List.append_nil] at hall
  obtain ⟨rfl, hlast'⟩ := List.append_inj'
    (show [[' ', ' ', 'a'], ['\t', 'é']] ++ [[' ', ' ', 'c']] = front ++ [last] from hall) rfl
  cases hlast'
  decide

/-- The selection ends before the indentation of the last line does, and this line stays as it is. -/
theorem exists_press_tab_keeps_line :
    let t : Text := [' ', ' ', 'a', '\n', ' ', ' ', 'b']
    let e := Editor.ofDocument ((Document.ofBlocks [.ofText (.code "text") t]).run
      [.select ⟨⟨[0, 0], 0⟩, ⟨[0, 0], 5⟩⟩]) Registry.empty {}
    e.indent = [' ', ' '] ∧ t.Touches 0 5 [] [[' ', ' ', 'a'], [' ', ' ', 'b']] [] ∧
      (e.document.blockAt? [0]).map Block.text = some t ∧
      ((e.act (.press ⟨.tab, { shift := true }⟩)).document.blockAt? [0]).map Block.text =
        some ['a', '\n', ' ', ' ', 'b'] := by
  intro t e
  exact ⟨rfl, ⟨by decide, by decide, by decide⟩, by decide +kernel, by decide +kernel⟩

end EditorM

end BlockNotes
