import BlockNotes.Proofs.Editor.Reindent

/-!
# Indentation given and taken back

The tabulator key with shift takes back what the key without shift has done to a
selection (`EditorM.press_tab_unindents`).  It works on the selection that the first key
has left.  This goes from the start of the first line to where the selection ended
before, and what it holds are the rewritten lines (`Text.LineCut.rewritten`), the last
one up to the end of the selection.  Each of them starts with a unit of indentation, also
one that was empty or started with a tabulator character, and so loses it
(`Indent.reindent_reindent`).
-/

namespace BlockNotes

namespace Indent

variable {unit : Text}

/-- A line loses a unit that was put in front of it. -/
theorem outdentLine_unit_append (hunit : unit ≠ []) (line : Text) :
    outdentLine unit (unit ++ line) = line := by
  rw [outdentLine, outdentOf_eq, if_pos ⟨hunit, List.prefix_append unit line⟩, List.drop_left]

/-- With a unit in front of each line there are as many lines as before. -/
theorem lines_reindent (hunit : '\n' ∉ unit) (t : Text) :
    (reindent unit false t).lines = t.lines.map (unit ++ ·) := by
  refine Text.lines_ofLines ?_ (by simpa using Text.lines_ne_nil t)
  intro line hline
  obtain ⟨rest, hrest, rfl⟩ := List.mem_map.mp hline
  simpa [hunit] using Text.newline_not_mem_lines hrest

/-- Taking away the units that were put in front of the lines gives the lines back. -/
theorem reindent_reindent (hunit : unit ≠ []) (hnewline : '\n' ∉ unit) (t : Text) :
    reindent unit true (reindent unit false t) = t := by
  rw [reindent, lines_reindent hnewline, List.map_map]
  simp [Function.comp_def, outdentLine_unit_append hunit, Text.ofLines_lines]

theorem reindent_ne_nil (hunit : unit ≠ []) (hnewline : '\n' ∉ unit) (t : Text) :
    reindent unit false t ≠ [] := by
  intro hnil
  obtain ⟨line, rest, hlines⟩ := Text.exists_lines_eq_cons t
  have hfirst := lines_reindent hnewline t
  rw [hnil, hlines, List.map_cons] at hfirst
  obtain ⟨hline, -⟩ := List.cons.inj (show [[]] = _ from hfirst)
  exact hunit (List.append_eq_nil_iff.mp hline.symm).1

end Indent

/-- Where other lines have come in the place of a slice, they can be cut out again. -/
theorem Text.LineCut.rewritten {t head slice tail p rest slice' p' : Text} {m n : Nat}
    {above front below front' : List Text} (h : t.LineCut m n head slice tail above front p rest below)
    (hlines : slice'.lines = front' ++ [p']) :
    (head ++ slice' ++ tail).LineCut head.bytes (head ++ slice').bytes head slice' tail above front'
      p' rest below := by
  have htake : (head ++ slice' ++ tail).take ((head ++ slice' ++ tail).charsBefore head.bytes) =
      head := by
    rw [List.append_assoc, Text.charsBefore_append, List.take_left]
  refine ⟨rfl, ?_, rfl, h.head_lines, hlines, h.tail_lines, ?_⟩
  · rw [Text.columnAt, htake, Text.lastLine_of_lines h.head_lines]
    rfl
  · have hlength := Text.length_lines head
    rw [h.head_lines, List.length_append, List.length_singleton] at hlength
    rw [Text.lineAt, htake]
    exact Nat.succ.inj hlength

namespace Document

variable {d d₁ d' : Document} {path : Path} {b c : Block} {m n : Nat} {t t' : Text}

theorem Retexted.trans (h : d.Retexted path b t d₁) (hc : d₁.blockAt? path = some c)
    (h' : d₁.Retexted path c t' d') : d.Retexted path b t' d' := by
  obtain ⟨c', hc', hid, hkind, -⟩ := h.block
  cases hc.symm.trans hc'
  obtain ⟨b', hb', hid', hkind', htext⟩ := h'.block
  exact ⟨⟨b', hb', hid'.trans hid, hkind'.trans hkind, htext⟩,
    fun q hq => (h'.others q hq).trans (h.others q hq)⟩

/-- Where both ends of a range are in a block in order, its anchor is in it. -/
theorem exists_site_anchor {r : Range} (hstart : d.Site r.start path b m)
    (hstop : d.Site r.stop path b n) : ∃ i, d.Site r.anchor path b i := by
  unfold Range.start at hstart
  unfold Range.stop at hstop
  split at hstart
  next => exact ⟨m, hstart⟩
  next hle =>
    rw [if_neg hle] at hstop
    exact ⟨n, hstop⟩

end Document

theorem Kind.isVoid_of_isCode {kind : Kind} (hcode : kind.isCode = true) : kind.isVoid = false := by
  cases kind <;> first | rfl | cases hcode

namespace Editor

variable {τ : Type} {e : Editor τ} {path : Path} {b : Block} {r : Range} {i : Nat}

theorem inCode_of_site (hr : e.document.selection = some r) (hp : e.document.Site r.anchor path b i)
    (hcode : b.kind.isCode = true) : e.inCode = true := by
  rw [inCode, Document.currentBlock?_eq hr hp]
  exact hcode

/-- The document of an editor is orderly whatever was done. -/
theorem orderly_run [Tokenizer τ] (bs : List Block) (cs : List Command) (tokenizer : τ)
    (options : EditorOptions) (as : List EditorAction) :
    ((ofDocument ((Document.ofBlocks bs).run cs) tokenizer options).run as).document.Orderly := by
  have hd := Document.wellNumbered_run (Document.wellNumbered_ofBlocks bs) cs
  obtain ⟨hstart, hfresh⟩ := good_ofDocument hd tokenizer options
  obtain ⟨cs', -, heq⟩ := runsTo_run hstart hfresh as
  rw [heq]
  show (((Document.ofBlocks bs).run cs).run cs').Orderly
  rw [← Document.run_append]
  exact Document.orderly_run bs _

end Editor

namespace EditorM

variable {τ : Type} [Tokenizer τ] {e : Editor τ} {path : Path} {b : Block} {r : Range} {i j : Nat}
  {u v : Modifiers}

/-- The key and then the key with shift, over an expanded selection in a code block that holds leaves
in any orderly document. -/
theorem exists_press_tab_unindents (he : e.document.Orderly) (hunit : e.indent ≠ [])
    (hnewline : '\n' ∉ e.indent) (hb : e.document.blockAt? path = some b)
    (hcode : b.kind.isCode = true) (htext : b.isTextBlock = true)
    (hr : e.document.selection = some r) (hexpanded : r.isCollapsed = false)
    (hanchor : e.document.blockPoint r.anchor = .ok ⟨b.id, i⟩)
    (hfocus : e.document.blockPoint r.focus = .ok ⟨b.id, j⟩) (htab : u.isCommand = false)
    (hshift : u.shift = false) (huntab : v.isCommand = false) (hshift' : v.shift = true) :
    ∃ e₁ e₂ r₁, press ⟨.tab, u⟩ e = .ok true e₁ ∧ e₁.document.selection = some r₁ ∧
      r₁.isCollapsed = false ∧ r₁.isBackward = r.isBackward ∧
      press ⟨.tab, v⟩ e₁ = .ok true e₂ ∧ e.document.Retexted path b b.text e₂.document := by
  have hp := Document.site_of_blockPoint he.nodup hb htext hanchor
  have hq := Document.site_of_blockPoint he.nodup hb htext hfocus
  obtain ⟨hstart, hstop⟩ := Document.site_start_stop_min hp hq
  have hleft := hstart.isBoundary
  have hright := hstop.isBoundary
  rw [← Block.text_eq_ownText htext] at hleft hright
  obtain ⟨head, slice, tail, above, front, p, rest, below, hcut⟩ :=
    Text.exists_lineCut (Nat.le_trans (Nat.min_le_left i j) (Nat.le_max_left i j)) hleft hright
  obtain ⟨e₁, hpress, hrewritten, hindent⟩ := press_tab_expanded he hstart hstop hr
    (Kind.isVoid_of_isCode hcode) (Editor.inCode_of_site hr hp hcode) htab hexpanded hcut
  rw [hshift] at hrewritten
  obtain ⟨r₁, c, hr₁, hstart₁, hstop₁, hdirected⟩ := hrewritten.selection
  obtain ⟨hexpanded₁, hbackward⟩ := hdirected (Indent.reindent_ne_nil hunit hnewline slice)
  obtain ⟨c', hc', -, hkind, hall⟩ := hrewritten.retexted.block
  cases hc'.symm.trans hstart₁.blockAt?
  -- The second key finds the rewritten lines selected.
  have hlines : (Indent.reindent e.indent false slice).lines =
      front.map (e.indent ++ ·) ++ [e.indent ++ p] := by
    rw [Indent.lines_reindent hnewline, hcut.slice_lines, List.map_append, List.map_singleton]
  have hcut₁ := hcut.rewritten hlines
  rw [← hall] at hcut₁
  obtain ⟨k, hp₁⟩ := Document.exists_site_anchor hstart₁ hstop₁
  rw [← hkind] at hcode
  obtain ⟨e₂, hpress₂, hrewritten₂, -⟩ := press_tab_expanded hrewritten.orderly hstart₁ hstop₁ hr₁
    (Kind.isVoid_of_isCode hcode) (Editor.inCode_of_site hr₁ hp₁ hcode) huntab hexpanded₁ hcut₁
  have hretexted := hrewritten.retexted.trans hc' hrewritten₂.retexted
  rw [hshift', hindent, Indent.reindent_reindent hunit hnewline, ← hcut.text] at hretexted
  exact ⟨e₁, e₂, r₁, hpress, hr₁, hexpanded₁, hbackward, hpress₂, hretexted⟩

/-- The tabulator key with shift takes back what the tabulator key has done to an expanded selection in
a code block.  This is so in every document, made of any blocks and changed by any commands and
operations, for every code block that holds leaves, every expanded selection with both ends in it and
every unit of one or more spaces.  The second key finds an expanded selection of the same direction,
and after it the block has the text that it had before the first key, with its identity and its kind,
and all other blocks are as they were. -/
theorem press_tab_unindents (bs : List Block) (cs : List Command) (tokenizer : τ)
    (options : EditorOptions) (as : List EditorAction) :
    let e := (Editor.ofDocument ((Document.ofBlocks bs).run cs) tokenizer options).run as
    ∀ {k : Nat}, e.indent = List.replicate (k + 1) ' ' → e.document.blockAt? path = some b →
      b.kind.isCode = true → b.isTextBlock = true → e.document.selection = some r →
      r.isCollapsed = false → e.document.blockPoint r.anchor = .ok ⟨b.id, i⟩ →
      e.document.blockPoint r.focus = .ok ⟨b.id, j⟩ → u.isCommand = false → u.shift = false →
      v.isCommand = false → v.shift = true →
      ∃ e₁ e₂ r₁, press ⟨.tab, u⟩ e = .ok true e₁ ∧ e₁.document.selection = some r₁ ∧
        r₁.isCollapsed = false ∧ r₁.isBackward = r.isBackward ∧
        press ⟨.tab, v⟩ e₁ = .ok true e₂ ∧ e.document.Retexted path b b.text e₂.document := by
  intro e k hindent
  have hunit : e.indent ≠ [] := by
    rw [hindent]
    exact List.cons_ne_nil _ _
  have hnewline : '\n' ∉ e.indent := by
    rw [hindent]
    exact fun hmem => absurd (List.eq_of_mem_replicate hmem) (by decide)
  exact exists_press_tab_unindents (Editor.orderly_run bs cs tokenizer options as) hunit hnewline

/-- Beside a block with a leaf and a block side by side, three lines of a code block are selected from
inside of the last one back to behind the tabulator character of the first one.  The one between them
is empty. -/
theorem press_tab_unindents_backward :
    let t : Text := ['\t', 'a', '\n', '\n', ' ', ' ', 'é', 'b']
    let bs := [Block.ofKind .quote [.leaf (.ofText ['x']), .block (.ofText .paragraph ['y'])],
      .ofText (.code "text") t]
    let e := Editor.ofDocument ((Document.ofBlocks bs).run [.select ⟨⟨[1, 0], 8⟩, ⟨[1, 0], 1⟩⟩])
      Registry.empty {}
    ∃ e₁ e₂ r₁ c, press ⟨.tab, {}⟩ e = .ok true e₁ ∧ e₁.document.selection = some r₁ ∧
      r₁.isCollapsed = false ∧ r₁.isBackward = true ∧
      press ⟨.tab, { shift := true }⟩ e₁ = .ok true e₂ ∧ e₂.document.blockAt? [1] = some c ∧
      c.text = t := by
  intro t bs e
  have hb : e.document.blockAt? [1] = some ⟨3, .code "text", [.leaf (.ofText t)]⟩ := by rfl
  obtain ⟨e₁, e₂, r₁, hpress, hr₁, hexpanded, hbackward, hpress₂, ⟨c, hc, -, -, htext⟩, -⟩ :=
    press_tab_unindents bs _ Registry.empty {} [] (k := 1) (u := {}) (v := { shift := true }) rfl
      hb rfl rfl rfl rfl (i := 8) (j := 1) (by rfl) (by rfl) rfl rfl rfl rfl
  exact ⟨e₁, e₂, r₁, c, hpress, hr₁, hexpanded, hbackward, hpress₂, hc, htext⟩

end EditorM

end BlockNotes
