import BlockNotes.Proofs.Document.Reading
import BlockNotes.Proofs.Editor.Saved

/-!
# When an editor is lost

An operation is lost if it reaches for a place that is not there.  Only the tabulator
key can be, and only where the block with the cursor is a code block that holds both
leaves and blocks (`Editor.lost_iff`).  A JSON text may store such a block, and then
the key does get lost in it (`Editor.exists_press_lost`).

What reads a range does not get lost: a part of a leaf that cannot be cut out is left
out.  But this never happens either, neither to the selected text nor to what stands in
front of the cursor when a blank is typed (`Editor.reads_selected`,
`Editor.reads_typed`).
-/

namespace BlockNotes

variable {τ : Type}

/-! ## Operations -/

namespace EditorM

variable {α : Type} {e : Editor τ}

/-- Only a refusal is tolerated. -/
theorem lost_tolerate_iff {m : EditorM τ α} : Lost (tolerate m) e ↔ Lost m e := by
  cases hrun : m e with
  | ok a e' =>
    have heq : tolerate m e = .ok ⟨⟩ e' := by rw [tolerate, hrun]
    exact iff_of_false (not_lost_of_ok heq) (not_lost_of_ok hrun)
  | error halt e' =>
    rw [lost_iff_of_error hrun]
    cases halt with
    | refused error =>
      have heq : tolerate m e = .ok ⟨⟩ e' := by rw [tolerate, hrun]
      exact iff_of_false (not_lost_of_ok heq) nofun
    | lost =>
      have heq : tolerate m e = .error .lost e' := by rw [tolerate, hrun]
      rw [lost_iff_of_error heq]

variable [Tokenizer τ]

theorem lost_observed_iff {m : DraftM α} : Lost (observed m) e ↔ Lost m e.draft := by
  have heq := observed_eq m e
  cases hrun : m e.draft with
  | ok a s =>
    rw [hrun] at heq
    exact iff_of_false (not_lost_of_ok heq) (not_lost_of_ok hrun)
  | error halt s =>
    rw [hrun] at heq
    rw [lost_iff_of_error heq, lost_iff_of_error hrun]

/-- A key is lost if what it does is. -/
theorem lost_press_iff (k : KeyPress) :
    Lost (press k) e ↔ ∃ m, ofKey? e k = some m ∧ Lost m e := by
  cases hkey : ofKey? e k with
  | none =>
    have hpress : press k e = .ok false e := by
      rw [press, get_bind, hkey]
      rfl
    exact iff_of_false (not_lost_of_ok hpress) nofun
  | some m =>
    have hpress : press k e = (tolerate m >>= fun _ => pure true) e := by
      rw [press, get_bind, hkey]
    have hlost : Lost (press k) e ↔ Lost (tolerate m >>= fun _ => pure true) e := by
      rw [Lost, Lost, hpress]
    rw [hlost, lost_bind_pure_iff, lost_tolerate_iff]
    constructor
    · exact fun h => ⟨m, rfl, h⟩
    · rintro ⟨_, ⟨rfl⟩, h⟩
      exact h

/-- The tabulator key is for code blocks only. -/
theorem ofKey?_tab (m : Modifiers) (steps : EditorM τ Unit) :
    ofKey? e ⟨.tab, m⟩ = some steps ↔
      m.isCommand = false ∧ e.inCode = true ∧ observed (DraftM.tab e.indent m.shift) = steps := by
  simp only [ofKey?]
  cases hcommand : m.isCommand <;> cases hcode : e.inCode <;> simp

theorem lost_press_tab_iff (he : e.document.WellNumbered) (m : Modifiers) :
    Lost (press ⟨.tab, m⟩) e ↔
      m.isCommand = false ∧ e.inCode = true ∧ e.document.TabSplits m.shift := by
  rw [lost_press_iff]
  constructor
  · rintro ⟨steps, hsteps, hlost⟩
    obtain ⟨hcommand, hcode, rfl⟩ := (ofKey?_tab m steps).mp hsteps
    rw [lost_observed_iff] at hlost
    exact ⟨hcommand, hcode, (DraftM.tab_lost_iff he _ _).mp hlost⟩
  · rintro ⟨hcommand, hcode, hsplits⟩
    refine ⟨_, (ofKey?_tab m _).mpr ⟨hcommand, hcode, rfl⟩, ?_⟩
    rw [lost_observed_iff]
    exact (DraftM.tab_lost_iff he _ _).mpr hsplits

end EditorM

namespace Editor

/-- An operation is lost exactly if it is the tabulator key in a code block and has to cut a text
inside a character. -/
theorem lost_iff [Tokenizer τ] {e : Editor τ} (he : progress.Good e) (a : EditorAction) :
    Lost a.steps e ↔ ∃ m, a = .press ⟨.tab, m⟩ ∧ m.isCommand = false ∧ e.inCode = true ∧
      e.document.TabSplits m.shift := by
  constructor
  · intro hlost
    have hkey : ∃ k, a = .press k ∧ k.key = .tab := by
      by_contra hnot
      by_cases htick : a = .tick
      · subst htick
        obtain ⟨e', hok, -⟩ := EditorM.exists_tick he
        exact not_lost_of_ok hok ((lost_bind_pure_iff _).mp hlost)
      · by_cases hlanguages : ∃ languages, a = .setLanguages languages
        · obtain ⟨languages, rfl⟩ := hlanguages
          exact not_lost_of_ok rfl hlost
        · exact (keeps_steps htick (fun languages h => hlanguages ⟨languages, h⟩)
            fun k h htab => hnot ⟨k, h, htab⟩).not_lost he hlost
    obtain ⟨⟨key, m⟩, rfl, rfl⟩ := hkey
    exact ⟨m, rfl, (EditorM.lost_press_tab_iff he.1 m).mp ((lost_bind_pure_iff _).mp hlost)⟩
  · rintro ⟨m, rfl, h⟩
    exact (lost_bind_pure_iff _).mpr ((EditorM.lost_press_tab_iff he.1 m).mpr h)

/-! ## Reading -/

/-- The piece of a range that lies in the block at a path, if there is one. -/
def pieceAt? (d : Document) (r : Range) (path : Path) : Option Range :=
  match d.startOf path, d.endOf path with
  | .ok first, .ok last =>
    if last < r.start ∨ r.stop < first then none
    else some ⟨if first < r.start then r.start else first, if r.stop < last then r.stop else last⟩
  | _, _ => none

/-- The pieces of the selection, block after block. -/
def selectedPieces (e : Editor τ) : List Range :=
  match e.document.selection with
  | none => []
  | some s => e.document.textBlocks.filterMap fun (path, _) => pieceAt? e.document s path

theorem selectedText_eq (e : Editor τ) :
    e.selectedText = Text.ofLines (e.selectedPieces.map e.document.textIn) := by
  unfold selectedText selectedPieces
  dsimp only
  cases e.document.selection with
  | none => rfl
  | some s =>
    dsimp only
    rw [List.map_filterMap]
    refine congrArg Text.ofLines (List.filterMap_congr ?_)
    rintro ⟨path, b⟩ _
    unfold pieceAt?
    dsimp only
    cases e.document.startOf path with
    | error error => rfl
    | ok first =>
      cases e.document.endOf path with
      | error error => rfl
      | ok last =>
        dsimp only
        split <;> rfl

/-- The ends of a piece fit if those of the range do. -/
theorem reads_of_pieceAt? {d : Document} {s r : Range} {path : Path} {b : Block}
    (hanchor : d.Fits s.anchor) (hfocus : d.Fits s.focus) (hb : d.blockAt? path = some b)
    (htext : b.isTextBlock = true) (h : pieceAt? d s path = some r) : d.Reads r := by
  unfold pieceAt? at h
  split at h
  next first last hfirst hlast =>
    split at h
    next => cases h
    next =>
      cases h
      refine Document.reads_of_fits ?_ ?_
      · dsimp only
        split
        next => exact Document.fits_start hanchor hfocus
        next => exact Document.fits_of_startOf hfirst
      · dsimp only
        split
        next => exact Document.fits_stop hanchor hfocus
        next => exact (Document.addresses_of_endOf hb htext hlast).fits
  next => cases h

/-- Each part of the selected text can be cut out. -/
theorem reads_selected {e : Editor τ} (he : e.document.Usable) {r : Range}
    (hr : r ∈ e.selectedPieces) : e.document.Reads r := by
  unfold selectedPieces at hr
  split at hr
  next => cases hr
  next s hs =>
    obtain ⟨hanchor, hfocus⟩ := he.fits hs
    obtain ⟨⟨path, b⟩, hmem, hr⟩ := List.mem_filterMap.mp hr
    obtain ⟨hb, htext, -⟩ := Document.mem_textBlocks.mp hmem
    exact reads_of_pieceAt? hanchor hfocus hb htext hr

/-- Each part of what stands between the start of a block and the cursor can be cut out. -/
theorem reads_typed {d : Document} (hd : d.Usable) {p first : Point} {path : Path}
    (hcursor : DraftM.cursor? d = some p) (hfirst : d.startOf path = .ok first) :
    d.Reads ⟨first, p⟩ := by
  obtain ⟨s, hs, hp⟩ := Option.bind_eq_some_iff.mp hcursor
  obtain ⟨hanchor, -⟩ := hd.fits hs
  split at hp
  next =>
    cases hp
    exact Document.reads_of_fits (Document.fits_of_startOf hfirst) hanchor
  next => cases hp

/-! ## Runs -/

/-- Whatever was done to an editor over a document that is loaded: the next operation is lost
exactly if it is the tabulator key and has to cut a text inside a character.  Then the cursor is in
a block that holds both leaves and blocks.  And what is selected, and what stands in front of the
cursor, can be read. -/
theorem run_lost_iff [Tokenizer τ] {t : Text} {d : Document} (h : Document.ofJson? t = some d)
    (tokenizer : τ) (options : EditorOptions) (as : List EditorAction) :
    let e := (ofDocument d tokenizer options).run as
    (∀ a : EditorAction, (∃ e', a.steps e = .error .lost e') ↔
      ∃ m, a = .press ⟨.tab, m⟩ ∧ m.isCommand = false ∧ e.inCode = true ∧
        e.document.TabSplits m.shift) ∧
    (∀ outdent, e.document.TabSplits outdent → ∃ path b, e.document.currentBlock? = some (path, b) ∧
      b.children.any Node.isLeaf = true ∧ b.isTextBlock = false) ∧
    (e.selectedText = Text.ofLines (e.selectedPieces.map e.document.textIn) ∧
      ∀ r ∈ e.selectedPieces, e.document.Reads r) ∧
    ∀ p path first, DraftM.cursor? e.document = some p → e.document.startOf path = .ok first →
      e.document.Reads ⟨first, p⟩ := by
  intro e
  obtain ⟨bs, rfl, -⟩ := Document.exists_of_ofJson? h
  have hd := Document.wellNumbered_ofBlocks bs
  obtain ⟨hstart, hfresh⟩ := good_ofDocument hd tokenizer options
  obtain ⟨hgood, -⟩ := good_run hstart hfresh as
  obtain ⟨cs, -, hrun⟩ := runsTo_run hstart hfresh as
  have husable : e.document.Usable := by
    rw [hrun]
    exact (Document.usable_ofBlocks bs).run hd cs
  refine ⟨fun a => lost_iff hgood a, fun _ htab => htab.mixed hgood.1.nodup,
    ⟨selectedText_eq e, fun r hr => reads_selected husable hr⟩, ?_⟩
  intro p path first hcursor hfirst
  exact reads_typed husable hcursor hfirst

/-- A code block is loaded and a letter is typed. -/
theorem run_lost_iff_typed :
    let d := Document.ofBlocks [.ofText (.code "rust") ['é']]
    let e := (ofDocument d Registry.empty {}).run [.insertText ['a']]
    Document.ofJson? (JsonValue.write (.array [.object [⟨"type".toList, .string "code-block".toList⟩,
      ⟨"language".toList, .string "rust".toList⟩,
      ⟨"children".toList, .array [.object [⟨"text".toList, .string ['é']⟩]]⟩]])) = some d ∧
    ∀ a : EditorAction, (∃ e', a.steps e = .error .lost e') ↔
      ∃ m, a = .press ⟨.tab, m⟩ ∧ m.isCommand = false ∧ e.inCode = true ∧
        e.document.TabSplits m.shift := by
  intro d e
  have h : Document.ofJson? (JsonValue.write (.array [.object [
      ⟨"type".toList, .string "code-block".toList⟩, ⟨"language".toList, .string "rust".toList⟩,
      ⟨"children".toList, .array [.object [⟨"text".toList, .string ['é']⟩]]⟩]])) = some d := by
    rw [Document.ofJson?, JsonValue.ofText?_write (by decide) (by decide)]
    rfl
  exact ⟨h, (run_lost_iff h _ _ _).1⟩

/-- A code block that holds a paragraph and then letters is loaded, and the cursor is set between
the letters.  In the text of the block this offset is inside the character of the paragraph. -/
theorem exists_press_lost :
    let t : Text := "[\x7b\"type\":\"code-block\",\"children\":[".toList ++
      "\x7b\"type\":\"paragraph\",\"children\":[\x7b\"text\":\"é\"\x7d]\x7d,".toList ++
      "\x7b\"text\":\"ab\"\x7d]\x7d]".toList
    ∃ d, Document.ofJson? t = some d ∧
      ∃ e', (EditorAction.press ⟨.tab, { shift := true }⟩).steps
        ((ofDocument d Registry.empty {}).run [.select (.collapsed ⟨[0, 1], 1⟩)]) =
          .error .lost e' := by
  intro t
  have ht : t = JsonValue.write (.array [.object [⟨"type".toList, .string "code-block".toList⟩,
      ⟨"children".toList, .array [
        .object [⟨"type".toList, .string "paragraph".toList⟩,
          ⟨"children".toList, .array [.object [⟨"text".toList, .string ['é']⟩]]⟩],
        .object [⟨"text".toList, .string ['a', 'b']⟩]]⟩]]) := by rfl
  refine ⟨.ofBlocks [⟨0, .code "text", [.block (.ofText .paragraph ['é']),
    .leaf { text := ['a', 'b'] }]⟩], ?_, _, by rfl⟩
  rw [ht, Document.ofJson?, JsonValue.ofText?_write (by decide) (by decide)]
  rfl

end Editor

end BlockNotes
