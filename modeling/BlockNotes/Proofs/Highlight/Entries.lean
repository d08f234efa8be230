import BlockNotes.Highlight.Table
import BlockNotes.Proofs.Document.Identity
import BlockNotes.Proofs.Grammar.TokenText
import BlockNotes.Proofs.Text.Boundary

/-!
# The entries of a table of spans

A tokenizer may answer with anything: tokens that are too long or too short, of
another text, or an error.  A table of spans is sound all the same, and what it
says about a block comes from that block alone.

Flattening keeps each span in the text of its token: the text has three parts,
and the span is the middle one (`Span.LiesIn`).  This form passes through
concatenation, so it holds of a stream by induction on its tokens.  If the tokens
are as long as the text of the block, the spans end in it, and if the text of the
tokens is that text, they also start and stop between its characters.

A table is filled block by block, and each block writes under its own identity
only.  Where identities are distinct, nothing is written over, so an entry is what
its block alone gives (`Highlights.lookup_ofDocument`).
-/

namespace BlockNotes

/-! ## Tokens and spans -/

mutual

/-- A token and all tokens inside of it. -/
def Token.within : Token → List Token
  | .plain t => [.plain t]
  | .typed kind extra content => .typed kind extra content :: content.within

/-- All tokens inside of a content. -/
def Content.within : Content → List Token
  | .leaf _ => []
  | .token t => t.within
  | .stream ts => Token.allWithin ts

/-- All tokens in and inside of a stream. -/
def Token.allWithin : List Token → List Token
  | [] => []
  | t :: rest => t.within ++ Token.allWithin rest

end

/-- Whether a token has a kind and text. -/
def Token.IsPiece (t : Token) : Prop := t.isPlain = false ∧ t.text ≠ []

/-- A span of a block is a part of a text that starts at an offset, and it is not empty. -/
def Span.LiesIn (block : BlockId) (offset : Nat) (t : Text) (s : Span) : Prop :=
  s.block = block ∧ s.start < s.stop ∧
    ∃ a b c, t = a ++ b ++ c ∧ s.start = offset + Text.bytes a ∧
      s.stop = offset + Text.bytes (a ++ b)

namespace Span.LiesIn

variable {block : BlockId} {offset : Nat} {t u : Text} {s : Span}

theorem append_right (h : LiesIn block offset t s) (u : Text) :
    LiesIn block offset (t ++ u) s := by
  obtain ⟨hblock, hlt, a, b, c, rfl, hstart, hstop⟩ := h
  exact ⟨hblock, hlt, a, b, c ++ u, by simp, hstart, hstop⟩

theorem append_left (h : LiesIn block (offset + Text.bytes u) t s) :
    LiesIn block offset (u ++ t) s := by
  obtain ⟨hblock, hlt, a, b, c, rfl, hstart, hstop⟩ := h
  refine ⟨hblock, hlt, u ++ a, b, c, by simp, ?_, ?_⟩
  · rw [hstart, Text.bytes_append, Nat.add_assoc]
  · rw [hstop, List.append_assoc, Text.bytes_append u, Nat.add_assoc]

theorem stop_le (h : LiesIn block offset t s) : s.stop ≤ offset + Text.bytes t := by
  obtain ⟨-, -, a, b, c, rfl, -, hstop⟩ := h
  rw [hstop, Text.bytes_append (a ++ b) c]
  omega

theorem le_start (h : LiesIn block offset t s) : offset ≤ s.start := by
  obtain ⟨-, -, a, b, c, -, hstart, -⟩ := h
  exact hstart ▸ Nat.le_add_right offset _

theorem isBoundary (h : LiesIn block 0 t s) :
    t.isBoundary s.start = true ∧ t.isBoundary s.stop = true := by
  obtain ⟨-, -, a, b, c, rfl, hstart, hstop⟩ := h
  refine ⟨Text.isBoundary_iff.mpr ⟨a, b ++ c, by simp, ?_⟩,
    Text.isBoundary_iff.mpr ⟨a ++ b, c, rfl, ?_⟩⟩
  · rw [hstart, Nat.zero_add]
  · rw [hstop, Nat.zero_add]

end Span.LiesIn

/-! ## Flattening -/

theorem Token.snd_flatten (block : BlockId) (offset : Nat) (t : Token) :
    (t.flatten block offset).2 = offset + t.size := by
  cases t with
  | plain t => rfl
  | typed kind extra content =>
    rw [flatten, size]
    split
    next hsize => rw [hsize, Nat.add_zero]
    next => rfl

/-- Flattening comes out as far behind the start as the stream is long. -/
theorem Token.snd_flattenAll (block : BlockId) (offset : Nat) (ts : List Token) :
    (flattenAll block offset ts).2 = offset + sizeOf ts := by
  induction ts generalizing offset with
  | nil => rfl
  | cons t ts ih =>
    simp only [flattenAll, sizeOf]
    rw [ih, snd_flatten, Nat.add_assoc]

mutual

/-- The spans of a token lie in its text. -/
theorem Token.liesIn_of_mem_flatten (block : BlockId) (offset : Nat) : (t : Token) →
    ∀ s ∈ (t.flatten block offset).1, s.LiesIn block offset t.text
  | .plain _ => by simp [Token.flatten]
  | .typed kind extra content => by
    intro s hs
    rw [Token.flatten] at hs
    split at hs
    next => cases hs
    next hsize =>
      rcases List.mem_cons.mp hs with rfl | hs
      · refine ⟨rfl, Nat.lt_add_of_pos_right (Nat.pos_of_ne_zero hsize), [], content.text, [],
          by simp [Token.text], rfl, ?_⟩
        rw [List.nil_append, content.size_eq_bytes]
      · exact Content.liesIn_of_mem_flatten block offset content s hs

theorem Content.liesIn_of_mem_flatten (block : BlockId) (offset : Nat) : (c : Content) →
    ∀ s ∈ c.flatten block offset, s.LiesIn block offset c.text
  | .leaf _ => by simp [Content.flatten]
  | .token t => Token.liesIn_of_mem_flatten block offset t
  | .stream ts => Token.liesIn_of_mem_flattenAll block offset ts

theorem Token.liesIn_of_mem_flattenAll (block : BlockId) (offset : Nat) : (ts : List Token) →
    ∀ s ∈ (Token.flattenAll block offset ts).1, s.LiesIn block offset (Token.textOf ts)
  | [] => by simp [Token.flattenAll]
  | t :: rest => by
    intro s hs
    rcases List.mem_append.mp hs with hs | hs
    · exact (Token.liesIn_of_mem_flatten block offset t s hs).append_right _
    · rw [Token.snd_flatten, t.size_eq_bytes] at hs
      exact (Token.liesIn_of_mem_flattenAll block _ rest s hs).append_left

end

mutual

theorem Token.text_ne_nil_of_mem_within {p : Token} (hp : p.text ≠ []) :
    (t : Token) → p ∈ t.within → t.text ≠ []
  | .plain _, hmem => by
    rw [Token.within, List.mem_singleton] at hmem
    exact hmem ▸ hp
  | .typed _ _ content, hmem => by
    rcases List.mem_cons.mp hmem with rfl | hmem
    · exact hp
    · exact Content.text_ne_nil_of_mem_within hp content hmem

/-- If a token inside has text, then what it is inside of has text. -/
theorem Content.text_ne_nil_of_mem_within {p : Token} (hp : p.text ≠ []) :
    (c : Content) → p ∈ c.within → c.text ≠ []
  | .leaf _, hmem => by cases hmem
  | .token t, hmem => Token.text_ne_nil_of_mem_within hp t hmem
  | .stream ts, hmem => Token.textOf_ne_nil_of_mem_allWithin hp ts hmem

theorem Token.textOf_ne_nil_of_mem_allWithin {p : Token} (hp : p.text ≠ []) :
    (ts : List Token) → p ∈ Token.allWithin ts → Token.textOf ts ≠ []
  | [], hmem => by cases hmem
  | t :: rest, hmem => by
    rw [Token.textOf, Ne, List.append_eq_nil_iff, not_and_or]
    rcases List.mem_append.mp hmem with hmem | hmem
    · exact .inl (Token.text_ne_nil_of_mem_within hp t hmem)
    · exact .inr (Token.textOf_ne_nil_of_mem_allWithin hp rest hmem)

end

/-- A token gives spans exactly if it or a token inside of it has a kind and text. -/
theorem Token.flatten_ne_nil_iff (block : BlockId) (offset : Nat) (t : Token) :
    (t.flatten block offset).1 ≠ [] ↔ ∃ p ∈ t.within, p.IsPiece := by
  cases t with
  | plain t => simp [flatten, within, IsPiece, isPlain]
  | typed kind extra content =>
    have hsize : content.size = 0 ↔ content.text = [] := by
      rw [content.size_eq_bytes, Text.bytes_eq_zero]
    rw [flatten]
    split
    next hempty =>
      refine ⟨fun h => absurd rfl h, ?_⟩
      rintro ⟨p, hmem, -, hp⟩
      exact absurd (hsize.mp hempty) (text_ne_nil_of_mem_within hp (.typed kind extra content) hmem)
    next htext =>
      have hpiece : (typed kind extra content).IsPiece := ⟨rfl, fun h => htext (hsize.mpr h)⟩
      exact ⟨fun _ => ⟨_, List.mem_cons_self, hpiece⟩, fun _ => List.cons_ne_nil _ _⟩

/-- A stream gives spans exactly if a token in it has a kind and text. -/
theorem Token.flattenAll_ne_nil_iff (block : BlockId) (offset : Nat) (ts : List Token) :
    (flattenAll block offset ts).1 ≠ [] ↔ ∃ p ∈ allWithin ts, p.IsPiece := by
  induction ts generalizing offset with
  | nil => simp [flattenAll, allWithin]
  | cons t ts ih =>
    simp only [flattenAll, allWithin, ne_eq, List.append_eq_nil_iff, not_and_or, List.mem_append,
      or_and_right, exists_or]
    exact or_congr (flatten_ne_nil_iff block offset t) (ih _)

/-! ## Tables -/

namespace SpanTable

theorem lookup_cons (k i : BlockId) (spans : List Span) (es : List (BlockId × List Span)) :
    List.lookup k ((i, spans) :: es) = if k = i then some spans else es.lookup k := by
  by_cases h : k = i
  · rw [if_pos h, h, List.lookup_cons_self]
  · rw [if_neg h, List.lookup_cons, beq_false_of_ne h]

/-- Placing an entry changes what is found under its identity and nothing else. -/
theorem lookup_place (id k : BlockId) (spans : List Span) (es : List (BlockId × List Span)) :
    (place id spans es).lookup k = if k = id then some spans else es.lookup k := by
  induction es with
  | nil => exact lookup_cons k id spans []
  | cons e es ih =>
    obtain ⟨i, v⟩ := e
    rw [place]
    split
    next => exact lookup_cons k id spans ((i, v) :: es)
    next =>
      split
      next heq =>
        rw [lookup_cons, lookup_cons, ← heq]
        split <;> rfl
      next hne =>
        rw [lookup_cons, lookup_cons, ih]
        by_cases hk : k = i
        · rw [if_pos hk, if_pos hk, if_neg fun h => hne (h.symm.trans hk)]
        · rw [if_neg hk, if_neg hk]

end SpanTable

namespace Highlights

variable {τ : Type} [Tokenizer τ]

/-! ## One block -/

/-- The tokens of a text: those of its language, or of the fallback if the tokenizer does not know
the language.  What cannot be tokenized is one plain token. -/
def tokensOf (tokenizer : τ) (fallback language : String) (text : Text) : List Token :=
  match Tokenizer.tokenize tokenizer text
    (if Tokenizer.hasGrammar tokenizer language then language else fallback) with
  | .ok tokens => tokens
  | .error _ => [.plain text]

/-- The warnings that come up before the tokens of a text are measured. -/
def troubles (tokenizer : τ) (fallback : String) (id : BlockId) (language : String)
    (text : Text) : List HighlightWarning :=
  (if Tokenizer.hasGrammar tokenizer language then []
    else [.grammarNotFound id language fallback]) ++
  match Tokenizer.tokenize tokenizer text
    (if Tokenizer.hasGrammar tokenizer language then language else fallback) with
  | .ok _ => []
  | .error e => [.tokenizeFailed id e]

/-- What a code block is entered with, if it is. -/
def codeSpans? (tokenizer : τ) (fallback : String) (id : BlockId) (language : String) (text : Text) :
    Option (List Span) :=
  let tokens := tokensOf tokenizer fallback language text
  let spans := (Token.flattenAll id 0 tokens).1
  if text ≠ [] ∧ Token.sizeOf tokens = text.bytes ∧ spans ≠ [] then some spans else none

variable {tokenizer : τ} {fallback language : String} {id : BlockId} {text : Text}

theorem codeSpans?_isSome_iff : (codeSpans? tokenizer fallback id language text).isSome = true ↔
    text ≠ [] ∧ Token.sizeOf (tokensOf tokenizer fallback language text) = text.bytes ∧
      ∃ p ∈ Token.allWithin (tokensOf tokenizer fallback language text), p.IsPiece := by
  rw [← Token.flattenAll_ne_nil_iff id 0]
  dsimp only [codeSpans?]
  split
  next h => exact iff_of_true rfl h
  next h => exact iff_of_false Bool.false_ne_true h

/-- The spans of an entry lie in the text that the tokens make up, which is as long as the text. -/
theorem liesIn_of_codeSpans? {spans : List Span}
    (h : codeSpans? tokenizer fallback id language text = some spans) {s : Span} (hs : s ∈ spans) :
    s.LiesIn id 0 (Token.textOf (tokensOf tokenizer fallback language text)) ∧
      Text.bytes (Token.textOf (tokensOf tokenizer fallback language text)) = text.bytes := by
  dsimp only [codeSpans?] at h
  split at h
  next hentry =>
    cases h
    exact ⟨Token.liesIn_of_mem_flattenAll id 0 _ s hs,
      (Token.sizeOf_eq_bytes _).symm.trans hentry.2.1⟩
  next => cases h

theorem ofCode_eq (tokenizer : τ) (fallback : String) (id : BlockId) (language : String)
    (text : Text) : ofCode tokenizer fallback id language text =
      if Token.sizeOf (tokensOf tokenizer fallback language text) = text.bytes then
        (some (Token.flattenAll id 0 (tokensOf tokenizer fallback language text)).1,
          troubles tokenizer fallback id language text)
      else (none, troubles tokenizer fallback id language text ++ [.lengthMismatch id text.bytes
        (Token.sizeOf (tokensOf tokenizer fallback language text))]) := by
  unfold ofCode tokensOf troubles
  cases h : Tokenizer.tokenize tokenizer text
      (if Tokenizer.hasGrammar tokenizer language then language else fallback) <;>
    simp only [h, Token.snd_flattenAll, Nat.zero_add]

theorem lengthMismatch_not_mem_troubles (i : BlockId) (m n : Nat) :
    HighlightWarning.lengthMismatch i m n ∉ troubles tokenizer fallback id language text := by
  unfold troubles
  split <;> split <;> simp

/-! ## The whole document -/

/-- What a block is entered with; only code blocks are. -/
def entryOf? (tokenizer : τ) (fallback : String) (b : Block) : Option (List Span) :=
  b.kind.language?.bind fun language => codeSpans? tokenizer fallback b.id language b.text

/-- A block writes its entry under its own identity, if it has one, and nothing else. -/
theorem lookup_addBlock (tokenizer : τ) (fallback : String) (h : Highlights) (b : Block)
    (k : BlockId) : (addBlock tokenizer fallback h b).table.entries.lookup k =
      if k = b.id then (entryOf? tokenizer fallback b).or (h.table.entries.lookup k)
      else h.table.entries.lookup k := by
  unfold addBlock entryOf?
  cases b.kind.language? with
  | none => simp
  | some language =>
    by_cases htext : b.text = []
    · simp [codeSpans?, htext]
    · simp only [List.isEmpty_iff, htext, if_false, ofCode_eq, Option.bind_some, codeSpans?]
      by_cases hsize : Token.sizeOf (tokensOf tokenizer fallback language b.text) = b.text.bytes
      · simp only [hsize, if_true]
        cases (Token.flattenAll b.id 0 (tokensOf tokenizer fallback language b.text)).1 with
        | nil => simp
        | cons s more => simp [htext, SpanTable.insert, SpanTable.lookup_place]
      · simp [hsize]

theorem addBlock_of_language?_eq_none (tokenizer : τ) (fallback : String) (h : Highlights)
    {b : Block} (hb : b.kind.language? = none) : addBlock tokenizer fallback h b = h := by
  rw [addBlock, hb]

/-- A table can be filled on the way through all blocks. -/
theorem ofDocument_eq_foldl_walk (tokenizer : τ) (fallback : String) (d : Document) :
    ofDocument tokenizer fallback d =
      d.walk.foldl (fun h x => addBlock tokenizer fallback h x.2) {} := by
  rw [ofDocument, Document.matching, List.foldl_filter]
  congr 1
  funext h x
  dsimp only
  split
  next => rfl
  next hcode =>
    refine (addBlock_of_language?_eq_none tokenizer fallback h ?_).symm
    cases hkind : x.2.kind <;> simp [hkind, Kind.isCode, Kind.language?] at hcode ⊢

theorem lookup_foldl_of_not_mem (tokenizer : τ) (fallback : String) {k : BlockId}
    {xs : List (Path × Block)} (hk : k ∉ xs.map fun x => x.2.id) (h : Highlights) :
    (xs.foldl (fun h x => addBlock tokenizer fallback h x.2) h).table.entries.lookup k =
      h.table.entries.lookup k := by
  induction xs generalizing h with
  | nil => rfl
  | cons x xs ih =>
    rw [List.map_cons, List.mem_cons, not_or] at hk
    rw [List.foldl_cons, ih hk.2, lookup_addBlock, if_neg hk.1]

theorem lookup_foldl_of_mem (tokenizer : τ) (fallback : String) {xs : List (Path × Block)}
    (hxs : (xs.map fun x => x.2.id).Nodup) {x : Path × Block} (hx : x ∈ xs) (h : Highlights) :
    (xs.foldl (fun h x => addBlock tokenizer fallback h x.2) h).table.entries.lookup x.2.id =
      (entryOf? tokenizer fallback x.2).or (h.table.entries.lookup x.2.id) := by
  induction xs generalizing h with
  | nil => cases hx
  | cons y xs ih =>
    rw [List.map_cons, List.nodup_cons] at hxs
    rw [List.foldl_cons]
    rcases List.mem_cons.mp hx with rfl | hx
    · rw [lookup_foldl_of_not_mem tokenizer fallback hxs.1, lookup_addBlock, if_pos rfl]
    · have hne : x.2.id ≠ y.2.id := fun e => hxs.1 (e ▸ List.mem_map_of_mem hx)
      rw [ih hxs.2 hx, lookup_addBlock, if_neg hne]

/-- Where identities are distinct, the entry of a block is what the block alone gives. -/
theorem lookup_ofDocument (tokenizer : τ) (fallback : String) {d : Document} (hd : d.ids.Nodup)
    {p : Path} {b : Block} (hb : d.blockAt? p = some b) :
    (ofDocument tokenizer fallback d).table.entries.lookup b.id = entryOf? tokenizer fallback b := by
  rw [← Document.map_id_walk] at hd
  rw [ofDocument_eq_foldl_walk,
    lookup_foldl_of_mem tokenizer fallback hd (Document.mem_walk.mpr hb) {}]
  exact Option.or_none

theorem exists_of_lookup_ofDocument {tokenizer : τ} {fallback : String} {d : Document}
    {id : BlockId} {spans : List Span}
    (h : (ofDocument tokenizer fallback d).table.entries.lookup id = some spans) :
    ∃ p b, d.blockAt? p = some b ∧ b.id = id := by
  by_contra hnot
  have hid : id ∉ d.walk.map fun x => x.2.id := by
    rintro hmem
    obtain ⟨⟨p, b⟩, hwalk, rfl⟩ := List.mem_map.mp hmem
    exact hnot ⟨p, b, Document.mem_walk.mp hwalk, rfl⟩
  rw [ofDocument_eq_foldl_walk, lookup_foldl_of_not_mem tokenizer fallback hid] at h
  cases h

/-- A warning comes from a code block with text. -/
theorem exists_of_mem_warnings {w : HighlightWarning} {xs : List (Path × Block)} {h : Highlights}
    (hw : w ∈ (xs.foldl (fun h x => addBlock tokenizer fallback h x.2) h).warnings) :
    w ∈ h.warnings ∨
      ∃ (b : Block) (language : String), w ∈ (ofCode tokenizer fallback b.id language b.text).2 := by
  induction xs generalizing h with
  | nil => exact .inl hw
  | cons x xs ih =>
    rcases ih hw with hw | hw
    · dsimp only [addBlock] at hw
      split at hw
      next => exact .inl hw
      next language hkind =>
        split at hw
        next => exact .inl hw
        next =>
          rcases List.mem_append.mp hw with hw | hw
          · exact .inl hw
          · exact .inr ⟨x.2, language, hw⟩
    · exact .inr hw

/-! ## Registries -/

/-- The tokens that a registry gives make up the text, also those of an error. -/
theorem textOf_tokensOf (r : Registry) (fallback language : String) (text : Text) :
    Token.textOf (tokensOf r fallback language text) = text := by
  unfold tokensOf
  split
  next tokens htokens =>
    change r.tokenize _ _ = _ at htokens
    unfold Registry.tokenize at htokens
    split at htokens
    next => cases htokens
    next grammar hget =>
      exact (Grammar.tokenizeWithin_succ_eq_ok
        (Grammar.faithful_tokenizeWithin r.get? maxNesting) htokens).1
  next => simp [Token.textOf, Token.text]

theorem sizeOf_tokensOf (r : Registry) (fallback language : String) (text : Text) :
    Token.sizeOf (tokensOf r fallback language text) = text.bytes := by
  rw [Token.sizeOf_eq_bytes, textOf_tokensOf]

/-- A registry covers each text. -/
theorem lengthMismatch_not_mem_warnings (r : Registry) (fallback : String) (d : Document)
    (id : BlockId) (expected covered : Nat) :
    HighlightWarning.lengthMismatch id expected covered ∉ (ofDocument r fallback d).warnings := by
  intro hmem
  rw [ofDocument_eq_foldl_walk] at hmem
  rcases exists_of_mem_warnings hmem with hmem | ⟨b, language, hmem⟩
  · cases hmem
  · rw [ofCode_eq, if_pos (sizeOf_tokensOf r fallback language b.text)] at hmem
    exact lengthMismatch_not_mem_troubles id expected covered hmem

/-! ## Soundness -/

theorem exists_of_mem_get {d : Document} (hd : d.ids.Nodup) {p : Path} {b : Block}
    (hb : d.blockAt? p = some b) {s : Span}
    (hs : s ∈ (ofDocument tokenizer fallback d).table.get b.id) :
    ∃ language, s.LiesIn b.id 0 (Token.textOf (tokensOf tokenizer fallback language b.text)) ∧
      Text.bytes (Token.textOf (tokensOf tokenizer fallback language b.text)) = b.text.bytes := by
  rw [SpanTable.get, lookup_ofDocument tokenizer fallback hd hb, entryOf?] at hs
  cases hkind : b.kind.language? with
  | none =>
    rw [hkind] at hs
    cases hs
  | some language =>
    rw [hkind, Option.bind_some] at hs
    cases hentry : codeSpans? tokenizer fallback b.id language b.text with
    | none =>
      rw [hentry] at hs
      cases hs
    | some spans =>
      rw [hentry] at hs
      exact ⟨language, liesIn_of_codeSpans? hentry hs⟩

theorem contains_ofDocument_iff (tokenizer : τ) (fallback : String) {d : Document}
    (hd : d.ids.Nodup) (id : BlockId) :
    (ofDocument tokenizer fallback d).table.contains id = true ↔
      ∃ p b language, d.blockAt? p = some b ∧ b.id = id ∧ b.kind = .code language ∧ b.text ≠ [] ∧
        Token.sizeOf (tokensOf tokenizer fallback language b.text) = b.text.bytes ∧
        ∃ t ∈ Token.allWithin (tokensOf tokenizer fallback language b.text), t.IsPiece := by
  constructor
  · intro h
    obtain ⟨spans, hlookup⟩ := Option.isSome_iff_exists.mp h
    obtain ⟨p, b, hb, rfl⟩ := exists_of_lookup_ofDocument hlookup
    rw [lookup_ofDocument tokenizer fallback hd hb, entryOf?, Option.bind_eq_some_iff] at hlookup
    obtain ⟨language, hkind, hentry⟩ := hlookup
    have hcode : b.kind = .code language := by
      cases hk : b.kind <;> simp_all [Kind.language?]
    exact ⟨p, b, language, hb, rfl, hcode,
      codeSpans?_isSome_iff.mp (Option.isSome_iff_exists.mpr ⟨spans, hentry⟩)⟩
  · rintro ⟨p, b, language, hb, rfl, hkind, hentry⟩
    rw [SpanTable.contains, lookup_ofDocument tokenizer fallback hd hb, entryOf?, hkind,
      Kind.language?, Option.bind_some]
    exact codeSpans?_isSome_iff.mpr hentry

/--
Whatever the tokenizer answers, the table of a document with distinct identities is sound.
* A block has an entry exactly if it is a code block with text whose tokens are together as long as
  the text, and one of them, at any depth, has a kind and text.
* The spans of a block speak of that block, are not empty and end in its text.
* An entry comes from identity, language and text of its block: it is the same in any other
  document where these are the same.
* With a registry as the tokenizer spans start and stop between characters, and no block is left
  out for the length of its tokens.
-/
theorem ofDocument_sound (tokenizer : τ) (fallback : String) {d : Document} (hd : d.ids.Nodup) :
    (∀ id, (ofDocument tokenizer fallback d).table.contains id = true ↔
      ∃ p b language, d.blockAt? p = some b ∧ b.id = id ∧ b.kind = .code language ∧ b.text ≠ [] ∧
        Token.sizeOf (tokensOf tokenizer fallback language b.text) = b.text.bytes ∧
        ∃ t ∈ Token.allWithin (tokensOf tokenizer fallback language b.text), t.IsPiece) ∧
    (∀ p b, d.blockAt? p = some b → ∀ s ∈ (ofDocument tokenizer fallback d).table.get b.id,
      s.block = b.id ∧ s.start < s.stop ∧ s.stop ≤ b.text.bytes) ∧
    (∀ d' : Document, d'.ids.Nodup → ∀ p b p' b', d.blockAt? p = some b →
      d'.blockAt? p' = some b' → b'.id = b.id → b'.kind.language? = b.kind.language? →
      b'.text = b.text → (ofDocument tokenizer fallback d').table.entries.lookup b.id =
        (ofDocument tokenizer fallback d).table.entries.lookup b.id) ∧
    ∀ r : Registry,
      (∀ p b, d.blockAt? p = some b → ∀ s ∈ (ofDocument r fallback d).table.get b.id,
        b.text.isBoundary s.start = true ∧ b.text.isBoundary s.stop = true) ∧
      ∀ id expected covered,
        .lengthMismatch id expected covered ∉ (ofDocument r fallback d).warnings := by
  refine ⟨contains_ofDocument_iff tokenizer fallback hd, ?_, ?_, fun r => ⟨?_, ?_⟩⟩
  · intro p b hb s hs
    obtain ⟨language, hlies, hsize⟩ := exists_of_mem_get hd hb hs
    refine ⟨hlies.1, hlies.2.1, ?_⟩
    have hstop := hlies.stop_le
    rwa [Nat.zero_add, hsize] at hstop
  · intro d' hd' p b p' b' hb hb' hid hlanguage htext
    have hentry := lookup_ofDocument tokenizer fallback hd' hb'
    rw [hid] at hentry
    rw [lookup_ofDocument tokenizer fallback hd hb, hentry, entryOf?, entryOf?, hid, hlanguage, htext]
  · intro p b hb s hs
    obtain ⟨language, hlies, -⟩ := exists_of_mem_get hd hb hs
    rw [textOf_tokensOf] at hlies
    exact hlies.isBoundary
  · exact lengthMismatch_not_mem_warnings r fallback d

/-- A document with one code block, in the language of parentheses. -/
def nested : Document :=
  { children := [.block ⟨1, .code "parentheses", [.leaf (.ofText ['a', '(', 'b', ')'])]⟩]
    selection := none, version := 0, nextId := 2 }

/-- The language is looked up for what stands between the parentheses. -/
theorem tokenizeWithin_nested {lookup : String → Option Grammar}
    (h : lookup "parentheses" = some Grammar.parentheses) :
    Grammar.parentheses.tokenizeWithin lookup (maxNesting + 1) "parentheses" ['a', '(', 'b', ')'] =
      .ok [.plain ['a', '('], .typed "inner" none (.stream [.plain ['b']]), .plain [')']] := by
  cbv
  rw [h]
  cbv

theorem ofDocument_sound_nested :
    nested.ids.Nodup ∧
      (ofDocument Registry.parentheses "text" nested).table.contains 1 = true := by
  have hd : nested.ids.Nodup := by decide
  have hknown : Tokenizer.hasGrammar Registry.parentheses "parentheses" = true := rfl
  have htokenize : Tokenizer.tokenize Registry.parentheses ['a', '(', 'b', ')'] "parentheses" = _ :=
    (Registry.tokenize_of_get? Registry.get?_parentheses).trans
      (tokenizeWithin_nested Registry.get?_parentheses)
  have htokens : tokensOf Registry.parentheses "text" "parentheses" ['a', '(', 'b', ')'] =
      [.plain ['a', '('], .typed "inner" none (.stream [.plain ['b']]), .plain [')']] := by
    rw [tokensOf, if_pos hknown, htokenize]
  refine ⟨hd, ((ofDocument_sound Registry.parentheses "text" hd).1 1).mpr ?_⟩
  refine ⟨[0], _, "parentheses", rfl, rfl, rfl, List.cons_ne_nil _ _, ?_⟩
  change Token.sizeOf (tokensOf Registry.parentheses "text" "parentheses" ['a', '(', 'b', ')']) = _ ∧
    ∃ t ∈ Token.allWithin (tokensOf Registry.parentheses "text" "parentheses" ['a', '(', 'b', ')']),
      t.IsPiece
  rw [htokens]
  refine ⟨by decide, .typed "inner" none (.stream [.plain ['b']]), ?_, rfl, List.cons_ne_nil _ _⟩
  simp [Token.allWithin, Token.within]

end Highlights

end BlockNotes
