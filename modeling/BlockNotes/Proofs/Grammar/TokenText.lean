import BlockNotes.Grammar.Registry
import Mathlib.Data.List.Chain

/-!
# Tokens keep their text

Tokenizing loses nothing, adds nothing and moves nothing: the leaves of the
tree of tokens, read in order, are the text.  The tree is also *tidy*.  No token
is empty, plain tokens are never neighbours, and streams nest only so deep.

Both follow the two steps of the tokenizer.

*Cutting.*  A cut keeps three positions in order: the end of the last claimed
piece, the position of the search, and the start of the next hit.  The gap and
the piece together reach from the first to the end of the hit's token, and the
rest of the text is cut by the same rule.  So the pieces make up the text
(`Piece.textOf_splitFrom`, `Piece.textOf_greedyFrom`).  Between two plain pieces
there is always a claimed one, since a gap is emitted only in front of a claimed
piece or at the end.

*Wrapping.*  A plain piece becomes a plain token and a claimed piece a typed one,
each with the text of its piece.  The streams inside of a typed token come from
one level below, which gives the bound on nesting by induction on the levels.
-/

namespace BlockNotes

/-! ## Tidy trees -/

/-- Whether a token is plain text. -/
def Token.isPlain : Token → Bool
  | .plain _ => true
  | .typed _ _ _ => false

/-- Not both of two tokens are plain. -/
def Token.Apart (a b : Token) : Prop := a.isPlain = false ∨ b.isPlain = false

mutual

/-- No token at or below this one is empty, and the streams below it are tidy and
nest at most `levels` deep. -/
def Token.IsTidy (levels : Nat) : Token → Prop
  | .plain t => t ≠ []
  | .typed _ _ content => content.text ≠ [] ∧ content.IsTidy levels

/-- What is inside of a token is tidy and nests at most `levels` deep. -/
def Content.IsTidy : (levels : Nat) → Content → Prop
  | _, .leaf _ => True
  | levels, .token t => t.IsTidy levels
  | 0, .stream _ => False
  | levels + 1, .stream ts => ts.IsChain Token.Apart ∧ Token.AllTidy levels ts

/-- Each token of a stream is tidy. -/
def Token.AllTidy (levels : Nat) : List Token → Prop
  | [] => True
  | t :: rest => t.IsTidy levels ∧ Token.AllTidy levels rest

end

/-- A stream without empty tokens and without neighbouring plain ones, at any
level, in which streams nest at most `levels` deep. -/
def Token.TidyStream (levels : Nat) (ts : List Token) : Prop :=
  ts.IsChain Token.Apart ∧ Token.AllTidy levels ts

theorem Token.textOf_append (ts us : List Token) :
    Token.textOf (ts ++ us) = Token.textOf ts ++ Token.textOf us := by
  induction ts with
  | nil => rfl
  | cons t ts ih => simp [Token.textOf, ih]

theorem Token.allTidy_append {levels : Nat} {ts us : List Token}
    (hts : Token.AllTidy levels ts) (hus : Token.AllTidy levels us) :
    Token.AllTidy levels (ts ++ us) := by
  induction ts with
  | nil => exact hus
  | cons t ts ih => exact ⟨hts.1, ih hts.2⟩

/-! ## Pieces -/

namespace Piece

/-- The text of a piece. -/
def text : Piece → Text
  | .plain t => t
  | .claimed _ t => t

/-- The text of pieces in order. -/
def textOf (ps : List Piece) : Text := ps.flatMap text

/-- Whether no rule claimed the piece. -/
def isPlain : Piece → Bool
  | .plain _ => true
  | .claimed _ _ => false

/-- Not both of two pieces are plain. -/
def Apart (a b : Piece) : Prop := a.isPlain = false ∨ b.isPlain = false

@[simp] theorem textOf_append (ps qs : List Piece) : textOf (ps ++ qs) = textOf ps ++ textOf qs :=
  List.flatMap_append

@[simp] theorem textOf_cons (p : Piece) (ps : List Piece) :
    textOf (p :: ps) = p.text ++ textOf ps := rfl

/-! ### Cuts of a text -/

theorem cut_append_cut (text : Array Char) {a b c : Nat} (hab : a ≤ b) (hbc : b ≤ c) :
    cut text a b ++ cut text b c = cut text a c := by
  simp only [cut, Array.toList_extract, List.extract_eq_take_drop]
  rw [show c - a = (b - a) + (c - b) by omega, List.take_add, List.drop_drop,
    show a + (b - a) = b by omega]

theorem cut_zero_size (t : Text) : cut t.toArray 0 t.toArray.size = t := by
  simp [cut]

/-- A cut within the text that does not stop where it starts is not empty. -/
theorem cut_ne_nil {text : Array Char} {a b : Nat} (hab : a < b) (hb : b ≤ text.size) :
    cut text a b ≠ [] := by
  intro h
  have hlen := congrArg List.length h
  simp only [cut, Array.length_toList, Array.size_extract, List.length_nil] at hlen
  omega

theorem textOf_gap (text : Array Char) (a b : Nat) : textOf (gap text a b) = cut text a b := by
  unfold gap
  split
  · simp [textOf, Piece.text]
  · have hab : b - a = 0 := by omega
    simp [textOf, cut, List.extract_eq_take_drop, hab]

/-- A gap, a claimed piece and the pieces behind it. -/
theorem textOf_gap_claimed (text : Array Char) (rule : Rule) {a b c d : Nat} {rest : List Piece}
    (hab : a ≤ b) (hbc : b ≤ c) (hcd : c ≤ d) (hrest : textOf rest = cut text c d) :
    textOf (gap text a b ++ .claimed rule (cut text b c) :: rest) = cut text a d := by
  rw [textOf_append, textOf_gap, textOf_cons, hrest, Piece.text, cut_append_cut text hbc hcd,
    cut_append_cut text hab (Nat.le_trans hbc hcd)]

/-! ### Tidy pieces -/

/-- Pieces that are not empty and of which no two neighbours are plain. -/
structure AreTidy (ps : List Piece) : Prop where
  apart : ps.IsChain Apart
  nonempty : ∀ p ∈ ps, p.text ≠ []

theorem areTidy_gap {text : Array Char} {a b : Nat} (hb : b ≤ text.size) :
    AreTidy (gap text a b) := by
  unfold gap
  split
  next hab =>
    refine ⟨.singleton _, ?_⟩
    intro p hp
    rw [List.mem_singleton.mp hp]
    exact cut_ne_nil hab hb
  next => exact ⟨.nil, by simp⟩

/-- A claimed piece keeps what stands before and behind it apart. -/
theorem areTidy_gap_claimed {text : Array Char} {rule : Rule} {a b c : Nat} {rest : List Piece}
    (hbc : b < c) (hc : c ≤ text.size) (hrest : AreTidy rest) :
    AreTidy (gap text a b ++ .claimed rule (cut text b c) :: rest) := by
  have hgap : AreTidy (gap text a b) := areTidy_gap (by omega)
  constructor
  · rw [List.isChain_append, List.isChain_cons]
    refine ⟨hgap.apart, ⟨fun _ _ => .inl rfl, hrest.apart⟩, ?_⟩
    intro p _ q hq
    cases hq
    exact .inr rfl
  · intro p hp
    rcases List.mem_append.mp hp with hp | hp
    · exact hgap.nonempty p hp
    · rcases List.mem_cons.mp hp with rfl | hp
      · exact cut_ne_nil hbc hc
      · exact hrest.nonempty p hp

/-! ### Cutting at the hits of one rule -/

/-- The pieces of a cut make up the text from the end of the last claimed piece on. -/
theorem textOf_splitFrom (rule : Rule) (text : Array Char) (plainStart from_ : Nat)
    (h : plainStart ≤ from_) :
    textOf (splitFrom rule text plainStart from_) = cut text plainStart text.size := by
  fun_induction splitFrom rule text plainStart from_ with
  | case1 plainStart from_ _ => exact textOf_gap text plainStart text.size
  | case2 plainStart from_ hit hfrom _ h₁ h₂ h₃ h₄ ih =>
    exact textOf_gap_claimed text rule (by omega) (by omega) (by omega) (ih h₃)

theorem areTidy_splitFrom (rule : Rule) (text : Array Char) (plainStart from_ : Nat) :
    AreTidy (splitFrom rule text plainStart from_) := by
  fun_induction splitFrom rule text plainStart from_ with
  | case1 plainStart from_ _ => exact areTidy_gap (Nat.le_refl _)
  | case2 plainStart from_ hit hfrom _ h₁ h₂ h₃ h₄ ih =>
    exact areTidy_gap_claimed h₂ (Nat.le_trans h₃ h₄) ih

/-! ### The greedy scan -/

/-- What is known after a refresh does not start before the position. -/
theorem le_start_of_refresh {rule : Rule} {text : Array Char} {from_ : Nat}
    {look : Lookahead text.size} {h : Hit text.size}
    (e : (look.refresh rule text from_).hit? = some h) : from_ ≤ h.whole.start := by
  have searched : ∀ {h : Hit text.size},
      (Lookahead.ofHit? ((rule.hit? text from_).map Subtype.val)).hit? = some h →
        from_ ≤ h.whole.start := by
    intro h e
    cases hs : rule.hit? text from_ with
    | none => rw [hs] at e; cases e
    | some found =>
      rw [hs] at e
      cases e
      exact found.2
  cases look with
  | unsearched => exact searched e
  | exhausted => cases e
  | next g =>
    simp only [Lookahead.refresh] at e
    split at e
    · exact searched e
    next hg =>
      cases e
      omega

theorem mem_of_earliest {size : Nat} {hits : List (Nat × Option (Hit size))} {i : Nat}
    {h : Hit size} (e : earliest hits = some (i, h)) : (i, some h) ∈ hits := by
  fun_induction earliest hits with
  | case1 => cases e
  | case2 i' rest ih => exact List.mem_cons_of_mem _ (ih e)
  | case3 i' h' rest j g hg hlt ih =>
    cases e
    exact List.mem_cons_of_mem _ (ih hg)
  | case4 i' h' rest j g hg hlt ih =>
    cases e
    exact List.mem_cons_self
  | case5 i' h' rest hnone ih =>
    cases e
    exact List.mem_cons_self

/-- The hit that the scan takes does not start before the position. -/
theorem le_start_of_earliest {rules : List Rule} {text : Array Char} {from_ : Nat}
    {looks : List (Lookahead text.size)} {i : Nat} {h : Hit text.size}
    (e : earliest ((List.range
        ((rules.zip looks).map fun (r, l) => l.refresh r text from_).length).zip
        (((rules.zip looks).map fun (r, l) => l.refresh r text from_).map Lookahead.hit?)) =
      some (i, h)) : from_ ≤ h.whole.start := by
  have hmem := (List.of_mem_zip (mem_of_earliest e)).2
  obtain ⟨look, hlook, hhit⟩ := List.mem_map.mp hmem
  obtain ⟨⟨rule, look'⟩, -, rfl⟩ := List.mem_map.mp hlook
  exact le_start_of_refresh hhit

/-- The pieces of the greedy scan make up the text from the end of the last claimed piece on. -/
theorem textOf_greedyFrom (rules : List Rule) (text : Array Char) (plainStart from_ : Nat)
    (looks : List (Lookahead text.size)) (h : plainStart ≤ from_) :
    textOf (greedyFrom rules text plainStart from_ looks) = cut text plainStart text.size := by
  fun_induction greedyFrom rules text plainStart from_ looks with
  | case1 plainStart from_ looks hfrom looks' hnone => exact textOf_gap text _ _
  | case2 plainStart from_ looks hfrom looks' i hit hhit hrule => exact textOf_gap text _ _
  | case3 plainStart from_ looks hfrom looks' i hit hhit rule hrule hstop hsize ih =>
    have hstart : from_ ≤ hit.whole.start := le_start_of_earliest hhit
    have h₁ := hit.whole_le_token
    have h₂ := hit.token_nonempty
    have h₃ := hit.token_le_whole
    exact textOf_gap_claimed text rule (by omega) (by omega) (by omega) (ih h₃)
  | case4 plainStart from_ looks hfrom looks' i hit hhit rule hrule hstop => exact textOf_gap text _ _
  | case5 plainStart from_ looks hfrom => exact textOf_gap text _ _

theorem areTidy_greedyFrom (rules : List Rule) (text : Array Char) (plainStart from_ : Nat)
    (looks : List (Lookahead text.size)) :
    AreTidy (greedyFrom rules text plainStart from_ looks) := by
  fun_induction greedyFrom rules text plainStart from_ looks with
  | case1 => exact areTidy_gap (Nat.le_refl _)
  | case2 => exact areTidy_gap (Nat.le_refl _)
  | case3 plainStart from_ looks hfrom looks' i hit hhit rule hrule hstop hsize ih =>
    exact areTidy_gap_claimed hit.token_nonempty (Nat.le_trans hit.token_le_whole hsize) ih
  | case4 => exact areTidy_gap (Nat.le_refl _)
  | case5 => exact areTidy_gap (Nat.le_refl _)

theorem textOf_split (rule : Rule) (t : Text) : textOf (split rule t) = t := by
  rw [split, textOf_splitFrom rule t.toArray 0 0 (Nat.le_refl 0), cut_zero_size]

theorem textOf_greedy (rules : List Rule) (t : Text) : textOf (greedy rules t) = t := by
  rw [greedy, textOf_greedyFrom rules t.toArray 0 0 _ (Nat.le_refl 0), cut_zero_size]

end Piece

/-! ## Wrapping -/

/-- A computation that goes on succeeds only if both of its parts do. -/
theorem exists_of_bind_eq_ok {ε α β : Type} {x : Except ε α} {f : α → Except ε β} {b : β}
    (h : x >>= f = .ok b) : ∃ a, x = .ok a ∧ f a = .ok b := by
  cases x with
  | error e => cases h
  | ok a => exact ⟨a, rfl, h⟩

namespace Grammar

variable {lookup : String → Option Grammar}
  {inner : Grammar → String → Text → Except TokenizeError (List Token)} {name : String}
  {levels : Nat}

/-- A tokenizer for what is inside of a token: it keeps the text, and its stream may stand
where streams nest at most `levels` deep. -/
def Faithful (levels : Nat) (inner : Grammar → String → Text → Except TokenizeError (List Token)) :
    Prop :=
  ∀ grammar name text ts, inner grammar name text = .ok ts →
    Token.textOf ts = text ∧ (Content.stream ts).IsTidy levels

/-- The stream that a faithful tokenizer gives, as content. -/
theorem Faithful.stream (hinner : Faithful levels inner) {grammar : Grammar} {name : String}
    {text : Text} {content : Content}
    (h : Content.stream <$> inner grammar name text = .ok content) :
    content.text = text ∧ content.IsTidy levels := by
  cases hts : inner grammar name text with
  | error e => rw [hts] at h; cases h
  | ok ts =>
    rw [hts] at h
    cases h
    exact hinner grammar name text ts hts

/-- A claimed piece becomes a typed token, whatever is inside of its rule. -/
theorem wrap_claimed_eq_ok (hinner : Faithful levels inner) {rule : Rule} {text : Text} {t : Token}
    (h : wrap lookup inner name (.claimed rule text) = .ok t) :
    ∃ content, t = .typed rule.kind rule.extra content ∧ content.text = text ∧
      content.IsTidy levels := by
  cases hinside : rule.inside with
  | none =>
    simp only [wrap, hinside] at h
    cases h
    exact ⟨.leaf text, rfl, rfl, trivial⟩
  | some inside =>
    cases inside with
    | grammar rules =>
      simp only [wrap, hinside] at h
      obtain ⟨content, hcontent, h⟩ := exists_of_bind_eq_ok h
      cases h
      exact ⟨content, rfl, hinner.stream hcontent⟩
    | language language =>
      cases hl : lookup language with
      | none =>
        simp only [wrap, hinside, hl] at h
        cases h
      | some grammar =>
        simp only [wrap, hinside, hl] at h
        obtain ⟨content, hcontent, h⟩ := exists_of_bind_eq_ok h
        cases h
        exact ⟨content, rfl, hinner.stream hcontent⟩

/-- Wrapping keeps the text of a piece and whether it is plain. -/
theorem wrap_eq_ok (hinner : Faithful levels inner) {p : Piece} (hp : p.text ≠ []) {t : Token}
    (h : wrap lookup inner name p = .ok t) :
    t.text = p.text ∧ t.isPlain = p.isPlain ∧ t.IsTidy levels := by
  cases p with
  | plain text =>
    cases h
    exact ⟨rfl, rfl, hp⟩
  | claimed rule text =>
    obtain ⟨content, rfl, rfl, htidy⟩ := wrap_claimed_eq_ok hinner h
    exact ⟨rfl, rfl, hp, htidy⟩

theorem mapM_wrap_eq_ok (hinner : Faithful levels inner) {ps : List Piece}
    (hps : ∀ p ∈ ps, p.text ≠ []) {ts : List Token}
    (h : ps.mapM (wrap lookup inner name) = .ok ts) :
    Token.textOf ts = Piece.textOf ps ∧ ts.map Token.isPlain = ps.map Piece.isPlain ∧
      Token.AllTidy levels ts := by
  induction ps generalizing ts with
  | nil =>
    cases h
    exact ⟨rfl, rfl, trivial⟩
  | cons p ps ih =>
    rw [List.mapM_cons] at h
    obtain ⟨t, ht, h⟩ := exists_of_bind_eq_ok h
    obtain ⟨us, hus, h⟩ := exists_of_bind_eq_ok h
    cases h
    obtain ⟨htext, hplain, htidy⟩ := wrap_eq_ok hinner (hps p List.mem_cons_self) ht
    obtain ⟨ihtext, ihplain, ihtidy⟩ := ih (fun q hq => hps q (List.mem_cons_of_mem p hq)) hus
    refine ⟨?_, ?_, htidy, ihtidy⟩
    · rw [Token.textOf, htext, ihtext, Piece.textOf_cons]
    · rw [List.map_cons, List.map_cons, hplain, ihplain]

/-- Being apart depends only on which tokens and pieces are plain. -/
theorem isChain_apart_of_map_isPlain {ts : List Token} {ps : List Piece}
    (h : ts.map Token.isPlain = ps.map Piece.isPlain) (hps : ps.IsChain Piece.Apart) :
    ts.IsChain Token.Apart := by
  have hbool : (ps.map Piece.isPlain).IsChain (fun a b => a = false ∨ b = false) :=
    (List.isChain_map Piece.isPlain).mpr hps
  rw [← h] at hbool
  exact (List.isChain_map Token.isPlain).mp hbool

/-- Wrapping tidy pieces gives a tidy stream with their text. -/
theorem tidyStream_of_mapM_wrap (hinner : Faithful levels inner) {ps : List Piece}
    (hps : Piece.AreTidy ps) {ts : List Token} (h : ps.mapM (wrap lookup inner name) = .ok ts) :
    Token.textOf ts = Piece.textOf ps ∧ Token.TidyStream levels ts := by
  obtain ⟨htext, hplain, htidy⟩ := mapM_wrap_eq_ok hinner hps.nonempty h
  exact ⟨htext, isChain_apart_of_map_isPlain hplain hps.apart, htidy⟩

/-! ## Refining -/

/-- Refining a stream keeps its text.  A stream begins with a plain token afterwards only if it
did before, so what is put in for a plain token stays apart from what follows. -/
theorem refine_eq_ok (hinner : Faithful levels inner) {rule : Rule} {ts us : List Token}
    (hts : Token.TidyStream levels ts) (h : refine (wrap lookup inner name) rule ts = .ok us) :
    Token.textOf us = Token.textOf ts ∧ Token.TidyStream levels us ∧
      ((∀ t ∈ ts.head?, t.isPlain = false) → ∀ u ∈ us.head?, u.isPlain = false) := by
  induction ts generalizing us with
  | nil =>
    cases h
    exact ⟨rfl, ⟨.nil, trivial⟩, by simp⟩
  | cons t ts ih =>
    obtain ⟨hchain, htidy, htidys⟩ := hts
    rw [List.isChain_cons] at hchain
    cases t with
    | plain text =>
      obtain ⟨first, hfirst, h⟩ := exists_of_bind_eq_ok h
      obtain ⟨rest, hrest, h⟩ := exists_of_bind_eq_ok h
      cases h
      obtain ⟨htext, hfirstChain, hfirstTidy⟩ :=
        tidyStream_of_mapM_wrap hinner (Piece.areTidy_splitFrom rule text.toArray 0 0) hfirst
      obtain ⟨ihtext, ⟨ihchain, ihtidy⟩, ihhead⟩ := ih ⟨hchain.2, htidys⟩ hrest
      refine ⟨?_, ⟨?_, Token.allTidy_append hfirstTidy ihtidy⟩, ?_⟩
      · rw [Token.textOf_append, htext, ihtext, ← Piece.split, Piece.textOf_split]
        rfl
      · rw [List.isChain_append]
        refine ⟨hfirstChain, ihchain, ?_⟩
        intro a _ b hb
        refine .inr (ihhead ?_ b hb)
        intro y hy
        exact (hchain.1 y hy).resolve_left (by simp [Token.isPlain])
      · intro hplain
        cases hplain _ rfl
    | typed kind extra content =>
      obtain ⟨rest, hrest, h⟩ := exists_of_bind_eq_ok h
      cases h
      obtain ⟨ihtext, ⟨ihchain, ihtidy⟩, ihhead⟩ := ih ⟨hchain.2, htidys⟩ hrest
      refine ⟨?_, ⟨?_, htidy, ihtidy⟩, ?_⟩
      · rw [Token.textOf, ihtext, Token.textOf]
      · rw [List.isChain_cons]
        exact ⟨fun _ _ => .inl rfl, ihchain⟩
      · intro _ u hu
        cases hu
        rfl

/-- Refining with rules in turn keeps the text and leaves the stream tidy. -/
theorem refineAll_eq_ok (hinner : Faithful levels inner) {rules : List Rule} {ts us : List Token}
    (hts : Token.TidyStream levels ts) (h : refineAll (wrap lookup inner name) rules ts = .ok us) :
    Token.textOf us = Token.textOf ts ∧ Token.TidyStream levels us := by
  induction rules generalizing ts with
  | nil =>
    cases h
    exact ⟨rfl, hts⟩
  | cons rule rules ih =>
    obtain ⟨vs, hvs, h⟩ := exists_of_bind_eq_ok h
    obtain ⟨htext, htidy, -⟩ := refine_eq_ok hinner hts hvs
    obtain ⟨ihtext, ihtidy⟩ := ih htidy h
    exact ⟨ihtext.trans htext, ihtidy⟩

/-! ## All levels -/

/-- One level on top of a faithful tokenizer keeps the text and gives a tidy stream. -/
theorem tokenizeWithin_succ_eq_ok (hinner : Faithful levels (tokenizeWithin lookup levels))
    {grammar : Grammar} {name : String} {text : Text} {ts : List Token}
    (h : tokenizeWithin lookup (levels + 1) grammar name text = .ok ts) :
    Token.textOf ts = text ∧ Token.TidyStream levels ts := by
  rw [tokenizeWithin] at h
  split at h
  next hempty =>
    cases h
    rw [List.isEmpty_iff.mp hempty]
    exact ⟨rfl, .nil, trivial⟩
  next hempty =>
    have htext : text ≠ [] := fun e => hempty (List.isEmpty_iff.mpr e)
    dsimp only at h
    split at h
    next hgreedy =>
      have hplain : Token.TidyStream levels [Token.plain text] := ⟨.singleton _, htext, trivial⟩
      obtain ⟨hkept, htidy⟩ := refineAll_eq_ok hinner hplain h
      refine ⟨hkept.trans ?_, htidy⟩
      simp [Token.textOf, Token.text]
    next hgreedy =>
      obtain ⟨first, hfirst, h⟩ := exists_of_bind_eq_ok h
      have hpieces := Piece.areTidy_greedyFrom (grammar.filter Rule.greedy) text.toArray 0 0
        ((grammar.filter Rule.greedy).map fun _ => .unsearched)
      obtain ⟨hcut, hfirstTidy⟩ := tidyStream_of_mapM_wrap hinner hpieces hfirst
      obtain ⟨hkept, htidy⟩ := refineAll_eq_ok hinner hfirstTidy h
      refine ⟨hkept.trans (hcut.trans ?_), htidy⟩
      exact Piece.textOf_greedy (grammar.filter Rule.greedy) text

/-- A tokenizer of any number of levels is faithful.  Without a level left it gives no stream. -/
theorem faithful_tokenizeWithin (lookup : String → Option Grammar) (levels : Nat) :
    Faithful levels (tokenizeWithin lookup levels) := by
  induction levels with
  | zero =>
    intro grammar name text ts h
    cases h
  | succ levels ih =>
    intro grammar name text ts h
    exact tokenizeWithin_succ_eq_ok ih h

end Grammar

/-- The leaves of the tokens of a text are the text, and the tokens are tidy: none is empty, no
two plain ones are neighbours, and streams nest at most `maxNesting` deep below the first. -/
theorem Registry.tokenize_keeps_text {r : Registry} {text : Text} {name : String}
    {ts : List Token} (h : r.tokenize text name = .ok ts) :
    Token.textOf ts = text ∧ Token.TidyStream maxNesting ts := by
  unfold Registry.tokenize at h
  split at h
  next => cases h
  next grammar hget =>
    exact Grammar.tokenizeWithin_succ_eq_ok
      (Grammar.faithful_tokenizeWithin r.get? maxNesting) h

open Pattern in
/-- A grammar of parentheses: what stands between the outer ones is of the same language. -/
def Grammar.parentheses : Grammar :=
  [{  kind := "inner", extra := none, narrowed := true, greedy := true
      inside := some (.language "parentheses")
      program := .ofExpr (.seq (.set ⟨#[(40, 40)]⟩)
        (.seq (.token (.rounds 1 none true (.set ⟨#[(0, 127)]⟩))) (.set ⟨#[(41, 41)]⟩))) }]

/-- A language of parentheses. -/
def Registry.parentheses : Registry :=
  { grammars := [("parentheses", Grammar.parentheses)] }

theorem Registry.tokenize_of_get? {r : Registry} {text : Text} {name : String} {grammar : Grammar}
    (h : r.get? name = some grammar) :
    r.tokenize text name = grammar.tokenizeWithin r.get? (maxNesting + 1) name text := by
  unfold tokenize
  rw [h]

theorem Registry.get?_parentheses :
    parentheses.get? "parentheses" = some Grammar.parentheses := rfl

/-- The language is looked up for each pair of parentheses. -/
theorem Grammar.tokenizeWithin_parentheses {lookup : String → Option Grammar}
    (h : lookup "parentheses" = some Grammar.parentheses) :
    Grammar.parentheses.tokenizeWithin lookup (maxNesting + 1) "parentheses"
        ['a', '(', 'b', '(', 'c', ')', ')'] = .ok
      [.plain ['a', '('],
        .typed "inner" none (.stream [.plain ['b', '('],
          .typed "inner" none (.stream [.plain ['c']]), .plain [')']]),
        .plain [')']] := by
  cbv
  rw [h]
  cbv
  rw [h]
  cbv

theorem Registry.tokenize_keeps_text_parentheses :
    ∃ ts, parentheses.tokenize ['a', '(', 'b', '(', 'c', ')', ')'] "parentheses" = .ok ts ∧
      Token.textOf ts = ['a', '(', 'b', '(', 'c', ')', ')'] ∧
      Token.TidyStream maxNesting ts := by
  have h := (tokenize_of_get? get?_parentheses).trans
    (Grammar.tokenizeWithin_parentheses get?_parentheses)
  exact ⟨_, h, Registry.tokenize_keeps_text h⟩

end BlockNotes
