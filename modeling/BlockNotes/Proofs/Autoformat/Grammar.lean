import Mathlib.Data.List.TakeWhile
import BlockNotes.Document.Markdown
import BlockNotes.Proofs.Autoformat.Fenced

/-!
# What a fence is made of

`Fence.ofText?` reads a text from both ends.  Here is the grammar that it reads,
without any order: an opening is three backticks and a word (`Fence.Opening`), and a
complete fence is made of the parts that `Fence.Parts` names.  A text is read exactly
if it has one of the two forms (`Fence.ofText?_iff`).

A text has the second form in as many ways as there are line feeds among the blanks
behind the opening.  The word is the same in all of them, since no blank is part of a
word, and so are the blanks at the end, since a backtick is no blank.  So two ways
with equally many blanks behind the word are the same (`Parts.eq_of_length_eq`), and
the one that is read has the most (`Parts.IsLongest`).  That is why the body does not
start with a blank line: of a text between an opening and a closing there remains
what is behind its first blank lines (`Fence.ofText?_fenced`).
-/

namespace BlockNotes

namespace Fence

variable {t rest gap word : Text} {c : Char}

/-! ## The grammar -/

/-- All of a text is blank. -/
def Blank (t : Text) : Prop :=
  ∀ c ∈ t, Unicode.isBlank c = true

/-- All of a text may be part of a word. -/
def Word (t : Text) : Prop :=
  ∀ c ∈ t, Unicode.isWord c = true

instance : Decidable (Blank t) :=
  decidable_of_iff (t.all Unicode.isBlank = true) List.all_eq_true

instance : Decidable (Word t) :=
  decidable_of_iff (t.all Unicode.isWord = true) List.all_eq_true

/-- A text is made of blanks, a line feed and the rest. -/
def BlankLines (t gap rest : Text) : Prop :=
  Blank gap ∧ t = gap ++ '\n' :: rest

/-- Three backticks. -/
def ticks : Text :=
  ['`', '`', '`']

/-- A text is three backticks and a word. -/
def Opening (t word : Text) : Prop :=
  Word word ∧ t = ticks ++ word

/-- The parts of a complete fence, in a given text. -/
@[ext]
structure Parts (t : Text) where
  /-- The word behind the first backticks. -/
  word : Text
  /-- The blanks up to the line feed before the body. -/
  gap : Text
  /-- What is between the two line feeds. -/
  body : Text
  /-- The blanks behind the last backticks. -/
  tail : Text
  isWord : Word word
  blank_gap : Blank gap
  blank_tail : Blank tail
  text_eq : t = ticks ++ (word ++ (gap ++ '\n' :: body ++ '\n' :: (ticks ++ tail)))

namespace Parts

/-- No other way to read the text has more blanks before the body. -/
def IsLongest (p : Parts t) : Prop :=
  ∀ q : Parts t, q.gap.length ≤ p.gap.length

/-- What the parts say. -/
def fence (p : Parts t) : Fence :=
  .complete (String.ofList p.word) p.body

end Parts

/-! ## Blanks at the start -/

theorem isBlank_newline : Unicode.isBlank '\n' = true := by decide

theorem Blank.cons (hc : Unicode.isBlank c = true) (h : Blank t) : Blank (c :: t) :=
  List.forall_mem_cons.mpr ⟨hc, h⟩

/-- Blank lines go on behind a blank character, or it is their line feed. -/
theorem blankLines_cons : BlankLines (c :: t) gap rest ↔
    (gap = [] ∧ c = '\n' ∧ t = rest) ∨
      ∃ more, gap = c :: more ∧ Unicode.isBlank c = true ∧ BlankLines t more rest := by
  cases gap with
  | nil => simp [BlankLines, Blank]
  | cons d gap =>
    simp only [BlankLines, Blank, List.forall_mem_cons, List.cons_append, List.cons.injEq]
    grind

theorem not_blankLines_of_none (h : afterBlankLines? t = none) : ¬ BlankLines t gap rest := by
  intro hlines
  fun_induction afterBlankLines? t generalizing gap with
  | case1 => simp [BlankLines] at hlines
  | case2 => cases h
  | case3 => cases h
  | case4 c t hc hnone hne ih =>
    rcases blankLines_cons.mp hlines with ⟨-, heq, -⟩ | ⟨more, -, -, hmore⟩
    · exact hne heq
    · exact ih hnone hmore
  | case5 c t hc =>
    rcases blankLines_cons.mp hlines with ⟨-, rfl, -⟩ | ⟨-, -, hblank, -⟩
    · exact hc isBlank_newline
    · exact hc hblank

/-- What is left of a text stands behind its first blank lines, all that there are. -/
theorem exists_of_afterBlankLines? (h : afterBlankLines? t = some rest) :
    ∃ gap, BlankLines t gap rest ∧
      ∀ gap' rest', BlankLines t gap' rest' → gap'.length ≤ gap.length := by
  fun_induction afterBlankLines? t with
  | case1 => cases h
  | case2 c t hc rest' hrest ih =>
    cases h
    obtain ⟨gap, hlines, hlongest⟩ := ih hrest
    refine ⟨c :: gap, blankLines_cons.mpr (.inr ⟨gap, rfl, hc, hlines⟩), ?_⟩
    rintro _ rest' hlines'
    rcases blankLines_cons.mp hlines' with ⟨rfl, -, -⟩ | ⟨more, rfl, -, hmore⟩
    · exact Nat.zero_le _
    · exact Nat.succ_le_succ (hlongest _ _ hmore)
  | case3 t hnone hc ih =>
    cases h
    refine ⟨[], blankLines_cons.mpr (.inl ⟨rfl, rfl, rfl⟩), ?_⟩
    rintro _ rest' hlines'
    rcases blankLines_cons.mp hlines' with ⟨rfl, -, -⟩ | ⟨more, -, -, hmore⟩
    · exact Nat.le_refl _
    · exact absurd hmore (not_blankLines_of_none hnone)
  | case4 => cases h
  | case5 => cases h

/-! ## The two ends -/

theorem afterTicks?_eq_some : afterTicks? t = some rest ↔ t = ticks ++ rest := by
  constructor
  · intro h
    unfold afterTicks? at h
    split at h
    · cases h
      rfl
    · cases h
  · rintro rfl
    rfl

theorem beforeClosing?_eq_some {front : Text} : beforeClosing? t = some front ↔
    ∃ tail, Blank tail ∧ t = front ++ '\n' :: (ticks ++ tail) := by
  rw [beforeClosing?, Text.dropEndWhile, List.reverse_reverse]
  constructor
  · intro h
    have hsplit := List.takeWhile_append_dropWhile (p := Unicode.isBlank) (l := t.reverse)
    have htail : Blank (t.reverse.takeWhile Unicode.isBlank).reverse := fun c hc =>
      List.all_eq_true.mp List.all_takeWhile c (List.mem_reverse.mp hc)
    split at h
    · next heq =>
      cases h
      refine ⟨_, htail, List.reverse_inj.mp ?_⟩
      rw [heq] at hsplit
      refine hsplit.symm.trans ?_
      simp [ticks]
    · cases h
  · rintro ⟨tail, htail, rfl⟩
    have hreverse : (front ++ '\n' :: (ticks ++ tail)).reverse =
        tail.reverse ++ '`' :: '`' :: '`' :: '\n' :: front.reverse := by simp [ticks]
    have htick : ¬ Unicode.isBlank '`' = true := by decide
    rw [hreverse, List.dropWhile_append_of_pos fun c hc => htail c (List.mem_reverse.mp hc),
      List.dropWhile_cons_of_neg htick]
    simp

/-- A word ends where a blank character comes. -/
theorem takeWhile_isWord (hword : Word word) (hc : Unicode.isBlank c = true) :
    (word ++ c :: rest).takeWhile Unicode.isWord = word := by
  have hc : ¬ Unicode.isWord c = true := by
    rw [Unicode.isWord_of_isBlank hc]
    exact Bool.false_ne_true
  rw [List.takeWhile_append_of_pos hword, List.takeWhile_cons_of_neg hc, List.append_nil]

theorem exists_blank_cons (hgap : Blank gap) (rest : Text) :
    ∃ c more, gap ++ '\n' :: rest = c :: more ∧ Unicode.isBlank c = true := by
  cases gap with
  | nil => exact ⟨_, _, rfl, isBlank_newline⟩
  | cons c gap => exact ⟨_, _, rfl, hgap c List.mem_cons_self⟩

/-! ## One way with the most blanks -/

namespace Parts

variable (p q : Parts t)

/-- The text between the word and the closing. -/
def inner : Text :=
  p.gap ++ '\n' :: p.body

theorem text_eq_inner : t = ticks ++ (p.word ++ (p.inner ++ '\n' :: (ticks ++ p.tail))) :=
  p.text_eq

theorem blankLines_inner : BlankLines p.inner p.gap p.body :=
  ⟨p.blank_gap, rfl⟩

/-- A blank character stands behind the word. -/
theorem exists_cons :
    ∃ c more, p.inner ++ '\n' :: (ticks ++ p.tail) = c :: more ∧ Unicode.isBlank c = true := by
  obtain ⟨c, more, hmore, hc⟩ := exists_blank_cons p.blank_gap p.body
  exact ⟨c, more ++ '\n' :: (ticks ++ p.tail), by rw [inner, hmore, List.cons_append], hc⟩

/-- The word is the same, however the text is read. -/
theorem word_eq : p.word = q.word := by
  obtain ⟨c, more, hp, hc⟩ := p.exists_cons
  obtain ⟨d, rest, hq, hd⟩ := q.exists_cons
  have hsame := List.append_cancel_left (p.text_eq_inner.symm.trans q.text_eq_inner)
  rw [hp, hq] at hsame
  rw [← takeWhile_isWord p.isWord hc, hsame, takeWhile_isWord q.isWord hd]

/-- So are the text between word and closing and the blanks at the end. -/
theorem inner_eq_and_tail_eq : p.inner = q.inner ∧ p.tail = q.tail := by
  have hsame := List.append_cancel_left (p.text_eq_inner.symm.trans q.text_eq_inner)
  rw [p.word_eq q] at hsame
  have hsame := List.append_cancel_left hsame
  have hinner : p.inner = q.inner := Option.some.inj <|
    (beforeClosing?_eq_some.mpr ⟨p.tail, p.blank_tail, rfl⟩).symm.trans
      (beforeClosing?_eq_some.mpr ⟨q.tail, q.blank_tail, hsame⟩)
  rw [hinner] at hsame
  exact ⟨hinner, List.append_cancel_left (List.cons.inj (List.append_cancel_left hsame)).2⟩

/-- The blanks before the body decide how the text is read. -/
theorem eq_of_length_eq {p q : Parts t} (h : p.gap.length = q.gap.length) : p = q := by
  obtain ⟨hinner, htail⟩ := p.inner_eq_and_tail_eq q
  obtain ⟨hgap, hbody⟩ := List.append_inj hinner h
  exact Parts.ext (p.word_eq q) hgap (List.cons.inj hbody).2 htail

theorem IsLongest.eq {p q : Parts t} (hp : p.IsLongest) (hq : q.IsLongest) : p = q :=
  eq_of_length_eq (Nat.le_antisymm (hq p) (hp q))

/-- What is read of the text between word and closing gives the parts with the most blanks. -/
theorem exists_isLongest_of_afterBlankLines? {body : Text}
    (h : afterBlankLines? p.inner = some body) :
    ∃ q : Parts t, q.IsLongest ∧ q.fence = .complete (String.ofList p.word) body := by
  obtain ⟨gap, ⟨hgap, hinner⟩, hlongest⟩ := exists_of_afterBlankLines? h
  refine ⟨⟨p.word, gap, body, p.tail, p.isWord, hgap, p.blank_tail, ?_⟩, ?_, rfl⟩
  · rw [← hinner]
    exact p.text_eq_inner
  · intro q
    exact hlongest q.gap q.body ((p.inner_eq_and_tail_eq q).1 ▸ q.blankLines_inner)

end Parts

/-! ## What is read -/

theorem ofText?_opening (h : Opening t word) : ofText? t = some (.opened (String.ofList word)) := by
  obtain ⟨hword, rfl⟩ := h
  have htake : word.takeWhile Unicode.isWord = word := List.takeWhile_eq_self_iff.mpr hword
  rw [ofText?, afterTicks?_eq_some.mpr rfl]
  simp [htake]

theorem ofText?_blank (hword : Word word) (hc : Unicode.isBlank c = true) :
    ofText? (ticks ++ (word ++ c :: rest)) =
      (body? (c :: rest)).map (complete (String.ofList word)) := by
  rw [ofText?, afterTicks?_eq_some.mpr rfl]
  simp [takeWhile_isWord hword hc]

/-- A text with the parts of a complete fence is read, and in the way with the most blanks. -/
theorem Parts.exists_ofText? (p : Parts t) :
    ∃ q : Parts t, q.IsLongest ∧ ofText? t = some q.fence := by
  obtain ⟨c, more, hcons, hc⟩ := p.exists_cons
  have hread : ofText? t = (afterBlankLines? p.inner).map (complete (String.ofList p.word)) := by
    have hbefore := beforeClosing?_eq_some.mpr ⟨p.tail, p.blank_tail, hcons.symm⟩
    refine (congrArg ofText? p.text_eq_inner).trans ?_
    rw [hcons, ofText?_blank p.isWord hc, body?, hbefore, Option.bind_some]
  cases hbody : afterBlankLines? p.inner with
  | none => exact absurd p.blankLines_inner (not_blankLines_of_none hbody)
  | some body =>
    obtain ⟨q, hq, hfence⟩ := p.exists_isLongest_of_afterBlankLines? hbody
    refine ⟨q, hq, hread.trans ?_⟩
    rw [hbody, hfence, Option.map_some]

/-- What is read has three backticks and the longest word behind them, and either nothing or a body
comes next. -/
theorem ofText?_inv {fence : Fence} (h : ofText? t = some fence) :
    ∃ word more, Word word ∧ t = ticks ++ (word ++ more) ∧
      ((more = [] ∧ fence = .opened (String.ofList word)) ∨
        ∃ body, body? more = some body ∧ fence = .complete (String.ofList word) body) := by
  obtain ⟨rest, hrest, h⟩ := Option.bind_eq_some_iff.mp h
  have hsplit := List.prefix_iff_eq_append.mp (List.takeWhile_prefix Unicode.isWord (l := rest))
  refine ⟨_, _, List.all_eq_true.mp List.all_takeWhile,
    (afterTicks?_eq_some.mp hrest).trans (congrArg _ hsplit.symm), ?_⟩
  dsimp only at h
  split at h
  · next hnil => exact .inl ⟨hnil, (Option.some.inj h).symm⟩
  · obtain ⟨body, hbody, rfl⟩ := Option.map_eq_some_iff.mp h
    exact .inr ⟨body, hbody, rfl⟩

theorem ofText?_eq_opened {w : String} : ofText? t = some (.opened w) ↔ Opening t w.toList := by
  constructor
  · intro h
    obtain ⟨word, more, hword, rfl, ⟨rfl, hfence⟩ | ⟨body, -, hfence⟩⟩ := ofText?_inv h
    · cases hfence
      rw [String.toList_ofList]
      exact ⟨hword, by rw [List.append_nil]⟩
    · cases hfence
  · intro h
    rw [ofText?_opening h, String.ofList_toList]

theorem isOpener_iff : isOpener t = true ↔ ∃ word, Opening t word := by
  rw [isOpener, Option.any_eq_true]
  constructor
  · rintro ⟨rest, hrest, hword⟩
    exact ⟨rest, List.all_eq_true.mp hword, afterTicks?_eq_some.mp hrest⟩
  · rintro ⟨word, hword, ht⟩
    exact ⟨word, afterTicks?_eq_some.mpr ht, List.all_eq_true.mpr hword⟩

/-- What is read as a complete fence has its parts. -/
theorem nonempty_parts {w : String} {body : Text} (h : ofText? t = some (.complete w body)) :
    Nonempty (Parts t) := by
  obtain ⟨word, more, hword, rfl, ⟨-, hfence⟩ | ⟨body, hbody, -⟩⟩ := ofText?_inv h
  · cases hfence
  · obtain ⟨front, hfront, hlines⟩ := Option.bind_eq_some_iff.mp hbody
    obtain ⟨tail, htail, rfl⟩ := beforeClosing?_eq_some.mp hfront
    obtain ⟨gap, ⟨hgap, rfl⟩, -⟩ := exists_of_afterBlankLines? hlines
    exact ⟨⟨word, gap, body, tail, hword, hgap, htail, rfl⟩⟩

/-- A text is read as an opening exactly if it is one, and as a complete fence exactly if it has the
parts of one.  Then one way to read it has more blanks before the body than any other, and this is
the way it is read. -/
theorem ofText?_iff (t : Text) :
    (∀ w : String, ofText? t = some (.opened w) ↔ Opening t w.toList) ∧
    (isOpener t = true ↔ ∃ w, ofText? t = some (.opened w)) ∧
    (∀ w body, ofText? t = some (.complete w body) ↔
      ∃ p : Parts t, p.IsLongest ∧ p.fence = .complete w body) ∧
    ((∃ w body, ofText? t = some (.complete w body)) ↔ Nonempty (Parts t)) ∧
    (∀ p q : Parts t, p.IsLongest → q.IsLongest → p = q) ∧
    (ofText? t = none ↔ (∀ word, ¬ Opening t word) ∧ IsEmpty (Parts t)) := by
  have hcomplete : (∃ w body, ofText? t = some (.complete w body)) ↔ Nonempty (Parts t) := by
    refine ⟨fun ⟨w, body, h⟩ => nonempty_parts h, fun ⟨p⟩ => ?_⟩
    obtain ⟨q, -, hq⟩ := p.exists_ofText?
    exact ⟨_, _, hq⟩
  have hopened : (∃ w, ofText? t = some (.opened w)) ↔ ∃ word, Opening t word := by
    refine ⟨fun ⟨w, h⟩ => ⟨_, ofText?_eq_opened.mp h⟩, fun ⟨word, h⟩ => ⟨_, ofText?_opening h⟩⟩
  refine ⟨fun w => ofText?_eq_opened, isOpener_iff.trans hopened.symm, fun w body => ⟨?_, ?_⟩,
    hcomplete, fun p q => Parts.IsLongest.eq, ?_⟩
  · intro h
    obtain ⟨q, hlongest, hq⟩ := (nonempty_parts h).some.exists_ofText?
    exact ⟨q, hlongest, Option.some.inj (hq.symm.trans h)⟩
  · rintro ⟨p, hp, hfence⟩
    obtain ⟨q, hlongest, hq⟩ := p.exists_ofText?
    rw [hq, hlongest.eq hp, hfence]
  · rw [← not_exists, ← hopened, ← not_nonempty_iff, ← hcomplete]
    cases ofText? t with
    | none => simp
    | some fence => cases fence <;> simp

/-! ## A text between an opening and a closing -/

/-- What is left of a text without the blank lines at its start, all that there are. -/
structure Stripped (t rest : Text) : Prop where
  lines : rest = t ∨ ∃ gap, BlankLines t gap rest
  left : ∀ gap more, ¬ BlankLines rest gap more

theorem Stripped.eq_iff (h : Stripped t rest) :
    rest = t ↔ ∀ gap more, ¬ BlankLines t gap more := by
  constructor
  · rintro rfl
    exact h.left
  · intro hnone
    rcases h.lines with heq | ⟨gap, hlines⟩
    · exact heq
    · exact absurd hlines (hnone gap rest)

/-- Blank lines behind blank lines are blank lines. -/
theorem BlankLines.trans {gap' rest' : Text} (h : BlankLines t gap rest)
    (h' : BlankLines rest gap' rest') : BlankLines t (gap ++ '\n' :: gap') rest' := by
  obtain ⟨hgap, rfl⟩ := h
  obtain ⟨hgap', rfl⟩ := h'
  refine ⟨List.forall_mem_append.mpr ⟨hgap, hgap'.cons isBlank_newline⟩, ?_⟩
  rw [List.append_assoc, List.cons_append]

theorem exists_stripped (t : Text) :
    ∃ rest, Stripped t rest ∧ afterBlankLines? ('\n' :: t) = some rest := by
  cases h : afterBlankLines? t with
  | none =>
    refine ⟨t, ⟨.inl rfl, fun gap more => not_blankLines_of_none h⟩, ?_⟩
    rw [afterBlankLines?, if_pos isBlank_newline, h]
    exact if_pos rfl
  | some rest =>
    obtain ⟨gap, hlines, hlongest⟩ := exists_of_afterBlankLines? h
    refine ⟨rest, ⟨.inr ⟨gap, hlines⟩, fun gap' more hmore => ?_⟩, ?_⟩
    · have hle := hlongest _ _ (hlines.trans hmore)
      rw [List.length_append, List.length_cons] at hle
      omega
    · rw [afterBlankLines?, if_pos isBlank_newline, h]

/-- A text between an opening and a closing is read without the blank lines at its start. -/
theorem ofText?_between {lang : String} (hlang : Word lang.toList) {tail : Text}
    (htail : Blank tail) (hrest : afterBlankLines? ('\n' :: t) = some rest) :
    ofText? (ticks ++ (lang.toList ++ ('\n' :: t ++ '\n' :: (ticks ++ tail)))) =
      some (.complete lang rest) := by
  have hbefore : beforeClosing? ('\n' :: t ++ '\n' :: (ticks ++ tail)) = some ('\n' :: t) :=
    beforeClosing?_eq_some.mpr ⟨tail, htail, rfl⟩
  rw [List.cons_append] at hbefore ⊢
  rw [ofText?_blank hlang isBlank_newline, body?, hbefore, Option.bind_some, hrest,
    Option.map_some, String.ofList_toList]

/-- A block as markdown, by itself or in a document with nothing else. -/
def Exported (b : Block) (t : Text) : Prop :=
  t = Markdown.ofBlock b ∨ ∃ d : Document, d.children = [.block b] ∧ t = d.toMarkdown

/-- A code block as markdown is its text between an opening with its language and a closing. -/
theorem Exported.exists_tail {b : Block} {lang : String} (h : Exported b t)
    (hkind : b.kind = .code lang) (htext : lang ≠ Kind.textLanguage) :
    ∃ tail, Blank tail ∧
      t = ticks ++ (lang.toList ++ ('\n' :: b.text ++ '\n' :: (ticks ++ tail))) := by
  obtain ⟨id, kind, children⟩ := b
  cases hkind
  have hblock : Markdown.ofBlock ⟨id, .code lang, children⟩ = ticks ++ (lang.toList ++
      ('\n' :: Node.textOf children ++ '\n' :: (ticks ++ ['\n', '\n']))) := by
    simp [Markdown.ofBlock, if_neg htext, ticks]
  rcases h with rfl | ⟨d, hd, rfl⟩
  · exact ⟨_, by decide, hblock⟩
  · refine ⟨['\n'], by decide, ?_⟩
    rw [Document.toMarkdown, hd, Markdown.ofChildren, Markdown.ofChildren, hblock]
    simp [Markdown.trimEnd, Text.dropEndWhile, ticks, Block.text]

/-- A block with this text that has the cursor, if it can be edited and is no code block, becomes one
of this kind with another text. -/
def Becomes (t : Text) (kind : Kind) (text : Text) : Prop :=
  ∀ (s : Draft) (path : Path) (b : Block), s.document.Ready →
    s.document.currentBlock? = some (path, b) → b.kind.isCode = false → b.kind.isVoid = false →
    b.text = t → ∃ s' c, DraftM.checkFence s = .ok true s' ∧
      s'.document.blockAt? path = some c ∧ c.id = b.id ∧ c.kind = kind ∧ c.text = text

theorem becomes_of_ofText? {lang : String} {text : Text}
    (h : ofText? t = some (.complete lang text)) : Becomes t (.codeOf lang) text := by
  rintro s path b hs hblock hcode hvoid rfl
  obtain ⟨d, hrun, ⟨c, hc, hid, hkind, htext⟩, -, -⟩ :=
    DraftM.exists_checkFence hs hblock (Bool.or_eq_false_iff.mpr ⟨hcode, hvoid⟩) h
  exact ⟨_, c, hrun, hc, hid, hkind.trans (codeOf_language h).symm, htext⟩

/-- A text between an opening and a closing is read without the blank lines at its start, and so is
the text of a code block that was written as markdown.  Its language is read as it is. -/
theorem ofText?_fenced {lang : String} (hlang : Word lang.toList) (text : Text) :
    ∃ rest, Stripped text rest ∧ (rest = text ↔ ∀ gap more, ¬ BlankLines text gap more) ∧
      ofText? (ticks ++ (lang.toList ++ ('\n' :: text ++ '\n' :: ticks))) =
        some (.complete lang rest) ∧
      ∀ (b : Block) (t : Text), b.kind = .code lang → lang ≠ Kind.textLanguage → b.text = text →
        Exported b t → ofText? t = some (.complete lang rest) ∧ Becomes t b.kind.canonical rest := by
  obtain ⟨rest, hstripped, hrest⟩ := exists_stripped text
  refine ⟨rest, hstripped, hstripped.eq_iff, ?_, ?_⟩
  · exact ofText?_between hlang (List.forall_mem_nil _) hrest
  · rintro b t hkind htext rfl hexported
    obtain ⟨tail, htail, rfl⟩ := hexported.exists_tail hkind htext
    have hread := ofText?_between hlang htail hrest
    rw [hkind]
    exact ⟨hread, becomes_of_ofText? hread⟩

/-- Of two line feeds between the opening and the code the second is lost, which is the first of the
text. -/
theorem ofText?_fenced_not_whole :
    Word "py".toList ∧
      ofText? (ticks ++ ("py".toList ++ ('\n' :: "\nx = 1".toList ++ '\n' :: ticks))) ≠
        some (.complete "py" "\nx = 1".toList) := by
  decide

/-- A code block with a blank line and an indented one, and a quotation that holds it as markdown. -/
theorem ofText?_fenced_py :
    let b := Block.ofText (.code "py") "\n  x".toList
    let d := Document.ofBlocks [.ofText .quote (Markdown.ofBlock b)]
    let s : Draft := { document := d.run [.select (.collapsed ⟨[0, 0], 4⟩)], tasks := [.checkFence] }
    Word "py".toList ∧ "py" ≠ Kind.textLanguage ∧
      ∃ s' c, DraftM.checkFence s = .ok true s' ∧ s'.document.blockAt? [0] = some c ∧ c.id = 1 ∧
        c.kind = .code "py" ∧ c.text = "  x".toList := by
  intro b d s
  have hword : Word "py".toList := by decide
  have htext : "py" ≠ Kind.textLanguage := by decide
  have hs : s.document.Ready := by
    refine ⟨Document.regular_run (List.forall_mem_singleton.mpr (Block.everywhere_sound_ofText _ _))
      (List.forall_mem_singleton.mpr trivial), by decide, ?_⟩
    rintro _ ⟨⟩
    exact ⟨Document.addresses_iff.mpr ⟨⟨1, 4⟩, by rfl⟩, Document.addresses_iff.mpr ⟨⟨1, 4⟩, by rfl⟩⟩
  obtain ⟨rest, -, -, -, hread⟩ := ofText?_fenced hword "\n  x".toList
  obtain ⟨hcomplete, hbecomes⟩ := hread b (Markdown.ofBlock b) rfl htext rfl (.inl rfl)
  have hrest : ofText? (Markdown.ofBlock b) = some (.complete "py" "  x".toList) := by decide
  cases hcomplete.symm.trans hrest
  obtain ⟨s', c, hrun, hblock, hid, hkind, hbody⟩ := hbecomes s [0] _ hs (by rfl) rfl rfl (by rfl)
  exact ⟨hword, htext, s', c, hrun, hblock, hid, hkind, hbody⟩

end Fence

end BlockNotes
