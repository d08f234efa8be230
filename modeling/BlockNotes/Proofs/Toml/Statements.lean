import BlockNotes.Proofs.Text.Lines
import BlockNotes.Proofs.Toml.Numbers
import BlockNotes.Proofs.Toml.Tokens

/-!
# Statements in TOML are read back

The statements that a writer needs are headers of tables, and lines with a name and a string, a
number or an array of strings (`TomlTable.Statement`).  A document that consists of these is read
as what they say, one after the other (`TomlTable.ofText?_write`).

The proof follows the reader token by token.  Between two statements the reader expects one and no
value is open, so that it is given by the document so far and the last header
(`TomlTable.Reader.between`); a statement takes it from there to there again.
-/

namespace BlockNotes

namespace TomlTable

variable {name : Text}

/-! ## Names -/

/-- Whether a text is a name without quotes. -/
def IsName (name : Text) : Prop :=
  name ≠ [] ∧ name.all KeyPath.isNameChar = true

instance (name : Text) : Decidable (IsName name) :=
  inferInstanceAs (Decidable (_ ∧ _))

/-- Whether a text is a name that cannot be taken for a date. -/
def IsKey (name : Text) : Prop :=
  IsName name ∧ TomlWord.date? name ≠ some []

instance (name : Text) : Decidable (IsKey name) :=
  inferInstanceAs (Decidable (_ ∧ _))

theorem IsName.isNameChar {c : Char} (h : IsName name) (hc : c ∈ name) :
    KeyPath.isNameChar c = true :=
  List.all_eq_true.mp h.2 c hc

theorem toNat_of_isNameChar {c : Char} (h : KeyPath.isNameChar c = true) :
    0x2d ≤ c.toNat ∧ c.toNat ≤ 0x7a := by
  change (decide ('A'.val ≤ c.val ∧ c.val ≤ 'Z'.val) ||
      (decide ('a'.val ≤ c.val) && decide (c.val ≤ 'z'.val)) ||
      (decide ('0'.val ≤ c.val) && decide (c.val ≤ '9'.val)) ||
      decide (c = '_') || decide (c = '-')) = true at h
  simp only [Bool.or_eq_true, Bool.and_eq_true, decide_eq_true_eq, UInt32.le_iff_toNat_le] at h
  rcases h with (h | rfl) | rfl
  · change ((65 ≤ c.toNat ∧ c.toNat ≤ 90) ∨ (97 ≤ c.toNat ∧ c.toNat ≤ 122)) ∨
      (48 ≤ c.toNat ∧ c.toNat ≤ 57) at h
    omega
  · decide
  · decide

theorem isWord_of_isNameChar {c : Char} (h : KeyPath.isNameChar c = true) :
    TomlToken.isWord c = true := by
  have hsign : TomlToken.ofSign? c = none := by
    unfold TomlToken.ofSign?
    split <;> first | rfl | cases h
  have hplain : TomlToken.isPlain c = true := by
    have := toNat_of_isNameChar h
    simp only [TomlToken.isPlain, Bool.or_eq_true, Bool.and_eq_true, decide_eq_true_eq]
    omega
  have hother : c ≠ ' ' ∧ c ≠ '\t' ∧ c ≠ '"' ∧ c ≠ '\'' ∧ c ≠ '#' := by
    refine ⟨?_, ?_, ?_, ?_, ?_⟩ <;>
    · rintro rfl
      cases h
  simp [TomlToken.isWord, TomlToken.isBlank, hsign, hplain, hother]

theorem word?_name (h : IsName name) : KeyPath.word? {} name = some ⟨[name], true⟩ := by
  have hdot : '.' ∉ name := fun hmem => absurd (h.isNameChar hmem) (by decide)
  rw [KeyPath.word?, Text.split_of_not_mem hdot]
  dsimp only
  rw [KeyPath.bare?, if_neg h.1, if_pos h.2]
  rfl

/-! ## Statements -/

/-- A value on a line. -/
inductive Literal where
  /-- A string. -/
  | string (text : Text)
  /-- A natural number. -/
  | number (n : Nat)
  /-- An array of strings. -/
  | strings (texts : List Text)

namespace Literal

/-- The value that is written. -/
def value : Literal → TomlValue
  | string t => .string t
  | number n => .integer n
  | strings ts => .array (ts.map .string)

/-- A value as it is written. -/
def write : Literal → Text
  | string t => TomlWriter.string t
  | number n => (toString n).toList
  | strings ts => TomlWriter.strings ts

/-- The tokens of an item on a line of its own. -/
def itemLine (t : Text) : List TomlToken :=
  [.blank [' ', ' ', ' ', ' '], .ofString t, .comma, .newline]

/-- The tokens of an array of strings. -/
def items : List Text → List TomlToken
  | [] => [.openBracket, .closeBracket]
  | [t] => [.openBracket, .ofString t, .closeBracket]
  | ts => [.openBracket, .newline] ++ ts.flatMap itemLine ++ [.closeBracket]

theorem items_many (t u : Text) (ts : List Text) :
    items (t :: u :: ts) =
      [.openBracket, .newline] ++ (t :: u :: ts).flatMap itemLine ++ [.closeBracket] := rfl

/-- The tokens of a value. -/
def tokens : Literal → List TomlToken
  | string t => [.ofString t]
  | number n => [.word (toString n).toList]
  | strings ts => items ts

/-- Whether a value is kept as it is read. -/
def IsValid : Literal → Prop
  | number n => n < Nat.pow 2 128
  | _ => True

end Literal

/-- A statement. -/
inductive Statement where
  /-- An empty line. -/
  | empty
  /-- The header of a table. -/
  | header (name : String)
  /-- A name and its value. -/
  | line (name : String) (value : Literal)

namespace Statement

/-- A statement as it is written. -/
def write : Statement → Text
  | empty => ['\n']
  | header name => TomlWriter.header name
  | line name l => TomlWriter.line name l.write

/-- The tokens of a statement. -/
def tokens : Statement → List TomlToken
  | empty => [.newline]
  | header name => [.openBracket, .word name.toList, .closeBracket] ++ [.newline]
  | line name l => [.word name.toList, .blank [' '], .equals, .blank [' ']] ++ l.tokens ++ [.newline]

/-- Whether a statement is read as it is meant. -/
def IsValid : Statement → Prop
  | empty => True
  | header name => IsKey name.toList
  | line name l => IsKey name.toList ∧ l.IsValid

/-- What a statement does to a document below a header. -/
def perform? (d : TomlTable × List Text) : Statement → Option (TomlTable × List Text)
  | empty => some d
  | header name => (d.1.openTable? [name.toList]).map (·, [name.toList])
  | line name l =>
    (d.1.change? .implied (fun t => t.assign? [name.toList] l.value) d.2).map (·, d.2)

end Statement

variable {l : Literal} {s : Statement} {ss : List Statement}

/-! ## Their tokens -/

theorem flatMap_write_itemLine (ts : List Text) :
    (ts.flatMap Literal.itemLine).flatMap TomlToken.write =
      ts.flatMap fun t => [' ', ' ', ' ', ' '] ++ TomlWriter.string t ++ [',', '\n'] := by
  rw [List.flatMap_assoc]
  rfl

theorem Literal.flatMap_write (l : Literal) : l.tokens.flatMap TomlToken.write = l.write := by
  cases l with
  | string t => exact List.flatMap_singleton ..
  | number n => exact List.flatMap_singleton ..
  | strings ts =>
    match ts with
    | [] => rfl
    | [t] => simp [tokens, items, write, TomlWriter.strings, TomlToken.write, TomlToken.ofString]
    | t :: u :: ts =>
      rw [tokens, items_many, List.flatMap_append, List.flatMap_append, flatMap_write_itemLine]
      rfl

theorem Statement.flatMap_write (s : Statement) : s.tokens.flatMap TomlToken.write = s.write := by
  cases s with
  | empty => rfl
  | header name => simp [tokens, write, TomlWriter.header, TomlToken.write]
  | line name l =>
    rw [tokens, List.flatMap_append, List.flatMap_append, l.flatMap_write]
    simp [write, TomlWriter.line, TomlToken.write]

/-! ## Statements are told from each other -/

open TomlToken (Legible)

theorem isWritten_word (h : IsName name) : (TomlToken.word name).IsWritten :=
  ⟨h.1, fun _ hc => isWord_of_isNameChar (h.isNameChar hc)⟩

theorem isName_toString (n : Nat) : IsName (toString n).toList := by
  rw [Nat.toString_eq_repr, Nat.toList_repr]
  refine ⟨Nat.toDigits_ne_nil, List.all_eq_true.mpr fun c hc => ?_⟩
  simp [KeyPath.isNameChar, Char.isAlphanum, TomlWord.isDigit_of_mem_toDigits hc]

theorem legible_itemLine (t : Text) : Legible (Literal.itemLine t) where
  written := by simp [Literal.itemLine, TomlToken.IsWritten, TomlToken.ofString, TomlToken.isBlank]
  beside := by simp [Literal.itemLine, TomlToken.Beside, TomlToken.kind, TomlToken.ofString]

theorem legible_items (ts : List Text) : Legible (Literal.items ts) := by
  match ts with
  | [] => exact ⟨by simp [Literal.items, TomlToken.IsWritten], by decide⟩
  | [t] =>
    constructor
    · simp [Literal.items, TomlToken.IsWritten, TomlToken.ofString]
    · simp [Literal.items, TomlToken.Beside, TomlToken.kind, TomlToken.ofString]
  | t :: u :: ts =>
    have hopen : Legible [.openBracket, .newline] :=
      ⟨by simp [TomlToken.IsWritten], by decide⟩
    have hitems : Legible ((t :: u :: ts).flatMap Literal.itemLine) := by
      refine .flatMap (fun t _ => legible_itemLine t) ?_
      rintro t - a ha
      cases ha
      rfl
    refine (hopen.append hitems ?_).concat rfl
    rintro a ha - -
    cases ha
    exact .inl rfl

theorem legible_literal (l : Literal) : Legible l.tokens := by
  cases l with
  | string t =>
    exact ⟨List.forall_mem_singleton.mpr (TomlToken.isWritten_ofString t), .singleton _⟩
  | number n =>
    exact ⟨List.forall_mem_singleton.mpr (isWritten_word (isName_toString n)), .singleton _⟩
  | strings ts => exact legible_items ts

/-- A value does not begin with a blank. -/
theorem kind_ne_blank_of_mem_head? {a : TomlToken} (h : a ∈ l.tokens.head?) :
    a.kind ≠ .blank := by
  cases l with
  | string t =>
    cases h
    rw [TomlToken.kind_ofString]
    nofun
  | number n =>
    cases h
    nofun
  | strings ts =>
    match ts with
    | [] | [t] | t :: u :: ts =>
      cases h
      nofun

theorem getLast?_tokens (s : Statement) : s.tokens.getLast? = some .newline := by
  cases s with
  | empty => rfl
  | header name => exact List.getLast?_concat
  | line name l => exact List.getLast?_concat

theorem legible_statement (h : s.IsValid) : Legible s.tokens := by
  cases s with
  | empty => exact ⟨List.forall_mem_singleton.mpr trivial, .singleton _⟩
  | header name =>
    refine .concat ⟨?_, ?_⟩ rfl
    · simp only [List.forall_mem_cons]
      exact ⟨trivial, isWritten_word h.1, trivial, nofun⟩
    · simp [TomlToken.Beside, TomlToken.kind]
  | line name l =>
    refine .concat (.append ⟨?_, ?_⟩ (legible_literal l) fun a ha b hb => ?_) rfl
    · have hblank : (TomlToken.blank [' ']).IsWritten := by
        simp [TomlToken.IsWritten, TomlToken.isBlank]
      simp only [List.forall_mem_cons]
      exact ⟨isWritten_word h.1.1, hblank, trivial, hblank, nofun⟩
    · simp [TomlToken.Beside, TomlToken.kind]
    · cases ha
      exact .inr (kind_ne_blank_of_mem_head? hb).symm

theorem legible_statements (h : ∀ s ∈ ss, s.IsValid) : Legible (ss.flatMap Statement.tokens) := by
  refine .flatMap (fun s hs => legible_statement (h s hs)) fun s _ a ha => ?_
  rw [getLast?_tokens] at ha
  cases ha
  rfl

theorem not_mem_items {w : Text} (ts : List Text) : .word w ∉ Literal.items ts := by
  match ts with
  | [] | [t] | t :: u :: ts => simp [Literal.items, Literal.itemLine, TomlToken.ofString]

/-- No word of a statement is a date. -/
theorem date?_ne_of_mem {w : Text} (h : s.IsValid) (hw : .word w ∈ s.tokens) :
    TomlWord.date? w ≠ some [] := by
  cases s with
  | empty => simp [Statement.tokens] at hw
  | header name =>
    have heq : w = name.toList := by simpa [Statement.tokens] using hw
    exact heq ▸ h.2
  | line name l =>
    have heq : w = name.toList ∨ .word w ∈ l.tokens := by simpa [Statement.tokens] using hw
    rcases heq with rfl | hmem
    · exact h.1.2
    · cases l with
      | string t => simp [Literal.tokens, TomlToken.ofString] at hmem
      | number n =>
        cases List.mem_singleton.mp hmem
        exact TomlWord.date?_toString_ne n
      | strings ts => exact absurd hmem (not_mem_items ts)

/-! ## Statements are read -/

namespace Reader

/-- The reader within a statement. -/
def within (d : TomlTable × List Text) (path : List Text) (stack : List OpenValue) (e : Expected) :
    Reader :=
  { document := d.1, header := d.2, path, stack, expected := e }

/-- The reader between two statements. -/
def between (d : TomlTable × List Text) (path : List Text) : Reader :=
  within d path [] .statement

variable {d : TomlTable × List Text} {path : List Text} {items : List TomlValue}

theorem steps_itemLine (t : Text) (more : List TomlToken) :
    (Literal.itemLine t ++ more).foldlM step? (within d path [.array items] .item) =
      more.foldlM step? (within d path [.array (.string t :: items)] .item) := rfl

theorem steps_items (ts : List Text) (more : List TomlToken) :
    (ts.flatMap Literal.itemLine ++ more).foldlM step? (within d path [.array items] .item) =
      more.foldlM step?
        (within d path [.array ((ts.map TomlValue.string).reverse ++ items)] .item) := by
  induction ts generalizing items with
  | nil => rfl
  | cons t ts ih =>
    rw [List.flatMap_cons, List.append_assoc, steps_itemLine, ih, List.map_cons, List.reverse_cons,
      List.append_assoc, List.singleton_append]

theorem step?_closeBracket :
    [TomlToken.closeBracket].foldlM step? (within d path [.array items] .item) =
      (within d path [] .value).complete? [] (.array items.reverse) :=
  bind_pure _

theorem steps_literal (h : l.IsValid) :
    l.tokens.foldlM step? (within d path [] .value) =
      (within d path [] .value).complete? [] l.value := by
  cases l with
  | string t => exact bind_pure _
  | number n =>
    have hstep : step? (within d path [] .value) (.word (toString n).toList) =
        (TomlWord.value? (toString n).toList).bind ((within d path [] .value).complete? []) := rfl
    rw [Literal.tokens, List.foldlM_cons, hstep, TomlWord.value?_toString h]
    exact bind_pure _
  | strings ts =>
    match ts with
    | [] => exact bind_pure ((within d path [] .value).complete? [] (.array []))
    | [t] => exact bind_pure ((within d path [] .value).complete? [] (.array [.string t]))
    | t :: u :: ts =>
      have hopen : ∀ more, ([.openBracket, .newline] ++ more).foldlM step?
          (within d path [] .value) = more.foldlM step? (within d path [.array []] .item) :=
        fun _ => rfl
      rw [Literal.tokens, Literal.items_many, List.append_assoc, hopen, steps_items, List.append_nil,
        step?_closeBracket, List.reverse_reverse]
      rfl

theorem step?_name (h : IsName name) :
    step? (between d path) (.word name) =
      some (within d path [] (.key .line ⟨[name], true⟩)) := by
  simp [step?, sign?, key?, KeyPath.token?, word?_name h, between, within, expect]

theorem step?_headerName (h : IsName name) :
    step? (within d path [] .bracket) (.word name) =
      some (within d path [] (.key .header ⟨[name], true⟩)) := by
  simp [step?, sign?, key?, KeyPath.token?, word?_name h, within, expect]

theorem steps_header {name : String} (h : IsName name.toList) :
    (Statement.header name).tokens.foldlM step? (between d path) =
      (d.1.openTable? [name.toList]).map fun t => between (t, [name.toList]) path := by
  have hopen : step? (between d path) .openBracket = some (within d path [] .bracket) := rfl
  have hclose : step? (within d path [] (.key .header ⟨[name.toList], true⟩)) .closeBracket =
      (d.1.openTable? [name.toList]).map fun t =>
        within (t, [name.toList]) path [] .lineEnd := rfl
  simp only [Statement.tokens, List.cons_append, List.nil_append, List.foldlM_cons, hopen,
    step?_headerName h, hclose, Option.bind_eq_bind, Option.bind_some]
  cases d.1.openTable? [name.toList] <;> rfl

theorem steps_line {name : String} (h : IsName name.toList) (hl : l.IsValid) :
    (Statement.line name l).tokens.foldlM step? (between d path) =
      (d.1.change? .implied (fun t => t.assign? [name.toList] l.value) d.2).map fun t =>
        between (t, d.2) [name.toList] := by
  have hkey : List.foldlM step? (between d path)
      [.word name.toList, .blank [' '], .equals, .blank [' ']] =
      some (within d [name.toList] [] .value) := by
    rw [List.foldlM_cons, step?_name h]
    rfl
  have hvalue : (within d [name.toList] [] .value).complete? [] l.value =
      (d.1.change? .implied (fun t => t.assign? [name.toList] l.value) d.2).map fun t =>
        within (t, d.2) [name.toList] [] .lineEnd := rfl
  rw [Statement.tokens, List.foldlM_append, List.foldlM_append, hkey, Option.bind_eq_bind,
    Option.bind_some, steps_literal hl, hvalue]
  cases d.1.change? .implied (fun t => t.assign? [name.toList] l.value) d.2 <;> rfl

/-- A statement takes the reader to the next one. -/
theorem steps_statement (d : TomlTable × List Text) (path : List Text) (h : s.IsValid) :
    ∃ path', s.tokens.foldlM step? (between d path) = (s.perform? d).map (between · path') := by
  cases s with
  | empty => exact ⟨path, rfl⟩
  | header name =>
    refine ⟨path, ?_⟩
    rw [steps_header h.1, Statement.perform?, Option.map_map]
    rfl
  | line name l =>
    refine ⟨[name.toList], ?_⟩
    rw [steps_line h.1.1 h.2, Statement.perform?, Option.map_map]
    rfl

/-- Statements are read one after the other. -/
theorem steps_statements (d : TomlTable × List Text) (path : List Text)
    (h : ∀ s ∈ ss, s.IsValid) :
    ∃ path', (ss.flatMap Statement.tokens).foldlM step? (between d path) =
      (ss.foldlM Statement.perform? d).map (between · path') := by
  induction ss generalizing d path with
  | nil => exact ⟨path, rfl⟩
  | cons s ss ih =>
    rw [List.forall_mem_cons] at h
    obtain ⟨next, hnext⟩ := steps_statement d path h.1
    rw [List.flatMap_cons, List.foldlM_append, hnext, List.foldlM_cons]
    cases s.perform? d with
    | none => exact ⟨path, rfl⟩
    | some d => exact ih d next h.2

end Reader

/-! ## Documents -/

theorem ofTokens?_statements (h : ∀ s ∈ ss, s.IsValid) :
    ofTokens? (ss.flatMap Statement.tokens) =
      (ss.foldlM Statement.perform? (empty .headed, [])).map Prod.fst := by
  obtain ⟨path, hsteps⟩ := Reader.steps_statements (empty .headed, []) [] h
  have hstart : Reader.between (empty .headed, []) [] = {} := rfl
  rw [ofTokens?, ← hstart, hsteps]
  cases ss.foldlM Statement.perform? (empty .headed, []) <;> rfl

theorem exists_write_cons (h : s.IsValid) : ∃ c t, s.write = c :: t ∧ c ≠ '\ufeff' := by
  cases s with
  | empty => exact ⟨_, _, rfl, by decide⟩
  | header name => exact ⟨_, _, rfl, by decide⟩
  | line name l =>
    obtain ⟨c, t, heq⟩ := List.exists_cons_of_ne_nil h.1.1.1
    refine ⟨c, t ++ [' ', '=', ' '] ++ l.write ++ ['\n'], ?_, ?_⟩
    · rw [Statement.write, TomlWriter.line, heq]
      rfl
    · rintro rfl
      exact absurd (h.1.1.isNameChar (heq ▸ List.mem_cons_self)) (by decide)

/-- A document of statements is read as what they say, one after the other. -/
theorem ofText?_write (h : ∀ s ∈ ss, s.IsValid) :
    ofText? (ss.flatMap Statement.write) =
      (ss.foldlM Statement.perform? (empty .headed, [])).map Prod.fst := by
  have hwrite : ss.flatMap Statement.write =
      (ss.flatMap Statement.tokens).flatMap TomlToken.write := by
    rw [List.flatMap_assoc]
    exact congrArg (ss.flatMap ·) (funext fun s => s.flatMap_write.symm)
  have hscan : TomlToken.scan? (ss.flatMap Statement.write) =
      some (ss.flatMap Statement.tokens) := by
    rw [hwrite, (legible_statements h).scan?_write]
  have hdates : TomlToken.joinDates (ss.flatMap Statement.tokens) =
      ss.flatMap Statement.tokens := by
    refine TomlToken.joinDates_eq fun w hw => ?_
    obtain ⟨s, hs, hmem⟩ := List.mem_flatMap.mp hw
    exact date?_ne_of_mem (h s hs) hmem
  have hmark : ∀ rest, ss.flatMap Statement.write ≠ '\ufeff' :: rest := by
    intro rest heq
    cases ss with
    | nil => cases heq
    | cons s ss =>
      obtain ⟨c, t, hs, hc⟩ := exists_write_cons (h s List.mem_cons_self)
      rw [List.flatMap_cons, hs] at heq
      exact hc (List.cons.inj heq).1
  unfold ofText?
  split
  next rest heq => exact absurd heq (hmark rest)
  next =>
    dsimp only
    rw [hscan, Option.bind_some, hdates, ofTokens?_statements h]

end TomlTable

end BlockNotes
