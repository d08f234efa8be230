import BlockNotes.Proofs.Storage.Files
import BlockNotes.Proofs.Toml.Statements
import BlockNotes.Settings.Basic

/-!
# Saved settings are loaded

Settings are written as statements (`Settings.statements`), these build a table
(`Settings.toTable`), and the table is read as the settings again, so nothing is lost between
`Settings.toToml` and `Settings.ofTable?`.

Saving and loading differ in two points.  Loading refuses a width of the indentation that is not 1 to
16, while saving writes any; and loading expands the name of the log file, which leaves alone what
has nothing to expand (`Expansion.IsFixed`).  So what was saved is loaded exactly if the width is in
range (`Settings.load_of_save`).
-/

namespace BlockNotes

/-! ## Names with nothing to expand -/

namespace Expansion

variable {lookup? : Text → Option Text} {home : Option Text} {t : Text}

/-- Whether a dollar sign in front of this means something. -/
def isReference : Text → Bool
  | '$' :: _ => true
  | '\x7b' :: rest => '\x7d' ∈ rest
  | c :: _ => isNameChar c
  | [] => false

/-- Whether there is nothing to expand: no dollar sign that means something, and no tilde for the
home directory. -/
structure IsFixed (t : Text) : Prop where
  dollar : ∀ rest, '$' :: rest <:+ t → isReference rest = false
  tilde : t ≠ ['~']
  slash : ∀ rest, t ≠ '~' :: '/' :: rest

theorem IsFixed.of_not_mem (hdollar : '$' ∉ t) (htilde : t.head? ≠ some '~') : IsFixed t where
  dollar := fun _ h => absurd (h.subset List.mem_cons_self) hdollar
  tilde := fun h => htilde (h ▸ rfl)
  slash := fun _ h => htilde (h ▸ rfl)

/-- What has no dollar sign that means something is passed over character by character. -/
theorem expandAll?_eq (h : ∀ rest, '$' :: rest <:+ t → isReference rest = false) :
    expandAll? lookup? t = some t := by
  have behind : ∀ (front : Text) {u : Text},
      (∀ rest, '$' :: rest <:+ front ++ u → isReference rest = false) →
      ∀ rest, '$' :: rest <:+ u → isReference rest = false :=
    fun front _ h rest hrest => h rest (hrest.trans (List.suffix_append front _))
  fun_induction expandAll? lookup? t with
  | case1 => rfl
  | case2 rest hcut ih =>
    rw [ih (behind ['$', '\x7b'] h)]
    rfl
  | case3 rest inside after hcut =>
    have hclosed := h _ (List.suffix_refl _)
    rw [isReference, decide_eq_false_iff_not] at hclosed
    rw [Text.cutFirst?_of_not_mem hclosed] at hcut
    cases hcut
  | case4 rest => cases h _ (List.suffix_refl _)
  | case5 c rest hbrace hdollar hname =>
    have hnot := h _ (List.suffix_refl _)
    rw [isReference, hname] at hnot
    · cases hnot
    · exact hdollar
    · exact hbrace
  | case6 c rest hbrace hdollar hname ih =>
    rw [ih (behind ['$'] h)]
    rfl
  | case7 c rest _ _ _ ih =>
    rw [ih (behind [c] h)]
    rfl

theorem tilde_eq (htilde : t ≠ ['~']) (hslash : ∀ rest, t ≠ '~' :: '/' :: rest) :
    Expansion.tilde home t = t := by
  unfold Expansion.tilde
  split
  next => exact absurd rfl htilde
  next rest _ => exact absurd rfl (hslash rest)
  next => rfl

/-- What has nothing to expand stays as it is. -/
theorem IsFixed.full?_eq (h : IsFixed t) : full? lookup? home t = some t := by
  rw [full?, expandAll?_eq h.dollar, Option.map_some, tilde_eq h.tilde h.slash, ite_self]

end Expansion

namespace Settings

open TomlTable (Statement Literal)

variable {s : Settings} {fs fs' : FileSystem} {name : Text}

/-! ## Settings as a table -/

/-- The statements that settings are written in. -/
def statements (s : Settings) : List Statement :=
  let log := match s.logFile with
    | some t => [.line "log_file" (.string t), .empty]
    | none => []
  log ++ [.header "editor", .line "indent_width" (.number s.editor.indentWidth),
    .line "fallback_language" (.string s.editor.fallback.toList),
    .line "languages" (.strings (s.editor.languages.map String.toList))]

theorem flatMap_write_statements (s : Settings) :
    s.statements.flatMap Statement.write = s.toToml := by
  cases h : s.logFile <;> simp [statements, toToml, h, Statement.write, Literal.write]

theorem isValid_of_mem_statements (h : s.editor.indentWidth < Nat.pow 2 64) {x : Statement}
    (hx : x ∈ s.statements) : x.IsValid := by
  have hwidth : s.editor.indentWidth < Nat.pow 2 128 := Nat.lt_trans h (by decide)
  simp only [statements, List.mem_append, List.mem_cons, List.not_mem_nil, or_false] at hx
  rcases hx with hx | rfl | rfl | rfl | rfl
  · cases hlog : s.logFile with
    | none =>
      rw [hlog] at hx
      cases hx
    | some t =>
      rw [hlog] at hx
      simp only [List.mem_cons, List.not_mem_nil, or_false] at hx
      rcases hx with rfl | rfl
      · exact ⟨by decide, trivial⟩
      · trivial
  · exact (by decide : TomlTable.IsKey "editor".toList)
  · exact ⟨by decide, hwidth⟩
  · exact ⟨by decide, trivial⟩
  · exact ⟨by decide, trivial⟩

/-- The table that the options of the editor are written as. -/
def editorTable (o : EditorOptions) : TomlTable :=
  ⟨.headed,
    [⟨"indent_width".toList, .integer o.indentWidth⟩,
      ⟨"fallback_language".toList, .string o.fallback.toList⟩,
      ⟨"languages".toList, .array ((o.languages.map String.toList).map .string)⟩]⟩

/-- The table that settings are written as. -/
def toTable (s : Settings) : TomlTable :=
  let log := match s.logFile with
    | some t => [⟨"log_file".toList, .string t⟩]
    | none => []
  ⟨.headed, log ++ [⟨"editor".toList, .table (editorTable s.editor)⟩]⟩

theorem foldlM_statements (s : Settings) :
    s.statements.foldlM Statement.perform? (.empty .headed, []) =
      some (s.toTable, ["editor".toList]) := by
  cases h : s.logFile with
  | none =>
    simp only [statements, toTable, h]
    rfl
  | some t =>
    simp only [statements, toTable, h]
    rfl

/-- What is written is read as the table that it was written from. -/
theorem ofText?_toToml (h : s.editor.indentWidth < Nat.pow 2 64) :
    TomlTable.ofText? s.toToml = some s.toTable := by
  rw [← flatMap_write_statements, TomlTable.ofText?_write fun _ hx => isValid_of_mem_statements h hx,
    foldlM_statements]
  rfl

/-! ## The table as settings -/

theorem orDefault_some {α : Type} (read : TomlValue → Option α) (default : α) (v : TomlValue) :
    orDefault read default (some v) = read v := rfl

theorem strings?_map (ts : List String) :
    strings? (.array ((ts.map String.toList).map .string)) = some ts := by
  rw [strings?]
  induction ts with
  | nil => rfl
  | cons t ts ih =>
    rw [List.map_cons, List.map_cons, List.mapM_cons, ih, string?, Option.map_some,
      String.ofList_toList]
    rfl

theorem number?_natCast {n : Nat} (h : n < Nat.pow 2 64) : number? (.integer n) = some n := by
  have hrange : (0 : Int) ≤ n ∧ (n : Int) < 0x10000000000000000 :=
    ⟨Int.natCast_nonneg n, Int.ofNat_lt.mpr h⟩
  rw [number?, if_pos hrange, Int.toNat_natCast]

theorem editor?_editorTable {o : EditorOptions} (h : o.indentWidth < Nat.pow 2 64) :
    editor? (.table (editorTable o)) = some o := by
  have hwidth : (editorTable o).find? "indent_width".toList = some (.integer o.indentWidth) := rfl
  have hfallback : (editorTable o).find? "fallback_language".toList =
      some (.string o.fallback.toList) := rfl
  have hlanguages : (editorTable o).find? "languages".toList =
      some (.array ((o.languages.map String.toList).map .string)) := rfl
  rw [editor?, hwidth, hfallback, hlanguages, editorOf?, orDefault_some, orDefault_some,
    orDefault_some, number?_natCast h, strings?_map, string?, Option.map_some,
    String.ofList_toList]
  rfl

theorem ofTable?_toTable (h : s.editor.indentWidth < Nat.pow 2 64) : ofTable? s.toTable = some s := by
  have hlog : s.toTable.find? "log_file".toList = s.logFile.map .string := by
    unfold toTable
    cases s.logFile <;> rfl
  have heditor : s.toTable.find? "editor".toList = some (.table (editorTable s.editor)) := by
    unfold toTable
    cases s.logFile <;> rfl
  rw [ofTable?, hlog, heditor, orDefault_some, editor?_editorTable h]
  cases s with
  | mk logFile editor => cases logFile <;> rfl

/-- Nothing is lost between writing settings and reading them. -/
theorem read_toToml (h : s.editor.indentWidth < Nat.pow 2 64) :
    (TomlTable.ofText? s.toToml).bind ofTable? = some s := by
  rw [ofText?_toToml h, Option.bind_some, ofTable?_toTable h]

/-! ## Loading what was saved -/

section

variable {lookup? : Text → Option Text} {home : Option Text}

theorem logFile_expand (h : ∀ t ∈ s.logFile, Expansion.IsFixed t) :
    (s.expand lookup? home).logFile = s.logFile := by
  rw [expand]
  cases hlog : s.logFile with
  | none => rfl
  | some t => rw [Option.map_some, (h t hlog).full?_eq, Option.getD_some]

/-- Where settings were saved, they are read again, and then looked at and expanded. -/
theorem load_of_save (h : s.save fs name = .ok fs') (hwidth : s.editor.indentWidth < Nat.pow 2 64) :
    load fs' lookup? home name =
      if s.isValid then .ok (some (s.expand lookup? home))
      else .error (.invalidIndentWidth s.editor.indentWidth) := by
  have hput : fs.Put name (.text s.toToml) fs' := FileSystem.put_of_write h
  rw [load, if_pos (FileSystem.contains_of_read hput.read), hput.read]
  dsimp only
  rw [read_toToml hwidth]

/-- What was saved is loaded with the same options of the editor, and with the same log file where
its name has nothing to expand, if the width of the indentation is 1 to 16.  With any other width of
64 bits it is refused, and for nothing but the width. -/
theorem load_saved (s : Settings) (fs fs' : FileSystem) (name : Text)
    (lookup? : Text → Option Text) (home : Option Text) (h : s.save fs name = .ok fs')
    (hwidth : s.editor.indentWidth < Nat.pow 2 64) :
    (1 ≤ s.editor.indentWidth ∧ s.editor.indentWidth ≤ 16 →
      ∃ loaded, load fs' lookup? home name = .ok (some loaded) ∧ loaded.editor = s.editor ∧
        ((∀ t ∈ s.logFile, Expansion.IsFixed t) → loaded.logFile = s.logFile)) ∧
    (¬ (1 ≤ s.editor.indentWidth ∧ s.editor.indentWidth ≤ 16) →
      load fs' lookup? home name = .error (.invalidIndentWidth s.editor.indentWidth)) := by
  rw [load_of_save h hwidth, isValid]
  constructor
  · intro hrange
    rw [if_pos (decide_eq_true hrange)]
    exact ⟨s.expand lookup? home, rfl, rfl, logFile_expand⟩
  · intro hrange
    exact if_neg (by simpa using hrange)

end

/-- A log file and a language, saved to a directory that is made for them. -/
theorem load_saved_nested :
    ∃ s fs', s.logFile = some "/tmp/blockmark.log".toList ∧ s.editor.languages = ["python"] ∧
      save s {} "nested/config.toml".toList = .ok fs' ∧
      load fs' (fun _ => none) none "nested/config.toml".toList = .ok (some s) := by
  let s : Settings :=
    { logFile := some "/tmp/blockmark.log".toList, editor := { languages := ["python"] } }
  have hsave : ∃ fs', save s {} "nested/config.toml".toList = .ok fs' := ⟨_, rfl⟩
  obtain ⟨fs', hsave⟩ := hsave
  have hfixed : ∀ t ∈ s.logFile, Expansion.IsFixed t := by
    rintro t ⟨⟩
    exact .of_not_mem (by decide) (by decide)
  obtain ⟨loaded, hload, heditor, hlog⟩ :=
    (load_saved s {} fs' "nested/config.toml".toList (fun _ => none) none hsave (by decide)).1
      (by decide)
  refine ⟨s, fs', rfl, rfl, hsave, ?_⟩
  rw [hload, show loaded = s from ?_]
  cases loaded
  cases heditor
  cases hlog hfixed
  rfl

/-- Settings without indentation are saved, and then refused. -/
theorem exists_save_load_error :
    ∃ fs', save { editor := { indentWidth := 0 } } {} "c.toml".toList = .ok fs' ∧
      ∀ lookup? home, load fs' lookup? home "c.toml".toList = .error (.invalidIndentWidth 0) := by
  have hsave : ∃ fs', save { editor := { indentWidth := 0 } } {} "c.toml".toList = .ok fs' :=
    ⟨_, rfl⟩
  obtain ⟨fs', hsave⟩ := hsave
  exact ⟨fs', hsave, fun _ _ => load_of_save hsave (by decide)⟩

end Settings

end BlockNotes
