import BlockNotes.Highlight.Coordinator

/-!
# Fallback grammars

A fallback is an empty grammar for a name that has none.  It is written under the
name itself, while a name is looked up as what it stands for.  The two agree unless
the name is an alias for another one.

So an alias for a name without a grammar stays without one, and the fallback may go in
the place of a grammar that other aliases reach.  This is the only exception, and
`Registry.get?_registerFallback` has it in one equation: what a registry answers
changes for the names that stand for the one that was written, and for no others.

A grammar without rules inside of rules looks up no other grammar, so a text always
has tokens under it (`Grammar.exists_tokenizeWithin`).
-/

namespace BlockNotes

/-! ## Looking up -/

namespace Registry

theorem lookup_put {α : Type} (entries : List (String × α)) (key key' : String) (value : α) :
    (put entries key value).lookup key' =
      if key' = key then some value else entries.lookup key' := by
  have hfilter : key' ≠ key →
      (entries.filter fun e => e.1 ≠ key).lookup key' = entries.lookup key' := by
    intro hne
    induction entries with
    | nil => rfl
    | cons e entries ih =>
      obtain ⟨k, v⟩ := e
      by_cases hk : k = key
      · subst hk
        rw [List.filter_cons_of_neg (by simp), ih, List.lookup_cons, beq_false_of_ne hne]
      · rw [List.filter_cons_of_pos (by simpa using hk), List.lookup_cons, List.lookup_cons, ih]
  rw [put, List.lookup_cons]
  by_cases h : key' = key
  · rw [if_pos h, beq_iff_eq.mpr h]
  · rw [if_neg h, beq_false_of_ne h]
    exact hfilter h

variable (r : Registry) (name other : String) (grammar : Grammar)

theorem get?_register : (r.register name grammar).get? other =
    if r.resolve other = Unicode.lowercase name then some grammar else r.get? other :=
  lookup_put r.grammars _ _ grammar

theorem hasGrammar_eq_false_iff : r.hasGrammar name = false ↔ r.get? name = none :=
  Option.isSome_eq_false_iff.trans Option.isNone_iff_eq_none

/-- Fallbacks do not change what names stand for. -/
@[simp] theorem resolve_registerFallback :
    (r.registerFallback name).resolve other = r.resolve other := by
  unfold registerFallback
  split
  next => rfl
  next => rfl

/-- What a registry answers after a fallback. -/
theorem get?_registerFallback : (r.registerFallback name).get? other =
    if r.hasGrammar name = false ∧ r.resolve other = Unicode.lowercase name then some []
    else r.get? other := by
  unfold registerFallback
  cases hname : r.hasGrammar name with
  | true => rfl
  | false => simp only [true_and, Bool.false_eq_true, if_false, get?_register]

variable {r name other}

/-- A name that had a grammar has one after a fallback. -/
theorem hasGrammar_registerFallback (h : r.hasGrammar other = true) :
    (r.registerFallback name).hasGrammar other = true := by
  unfold hasGrammar at h ⊢
  rw [get?_registerFallback]
  split
  next => rfl
  next => exact h

variable (r name)

/-- The name of a fallback has a grammar afterwards if it had one or stands for itself. -/
theorem hasGrammar_registerFallback_self_iff : (r.registerFallback name).hasGrammar name = true ↔
    r.hasGrammar name = true ∨ r.resolve name = Unicode.lowercase name := by
  unfold hasGrammar
  rw [get?_registerFallback]
  cases hname : r.hasGrammar name with
  | true =>
    rw [if_neg fun h => Bool.noConfusion h.1]
    exact ⟨.inl, fun _ => hname⟩
  | false =>
    rw [(r.hasGrammar_eq_false_iff name).mp hname]
    by_cases hself : r.resolve name = Unicode.lowercase name
    · simp [hself]
    · simp [hself]

end Registry

/-! ## Flat grammars -/

/-- No rule of the grammar has rules inside. -/
def Grammar.IsFlat (g : Grammar) : Prop := ∀ rule ∈ g, rule.inside = none

namespace Piece

/-- A piece is plain or claimed by one of the rules. -/
def ClaimedBy (rules : List Rule) : Piece → Prop
  | .plain _ => True
  | .claimed rule _ => rule ∈ rules

theorem claimedBy_gap {rules : List Rule} (text : Array Char) (a b : Nat) :
    ∀ p ∈ gap text a b, p.ClaimedBy rules := by
  intro p hp
  unfold gap at hp
  split at hp
  next =>
    cases List.mem_singleton.mp hp
    trivial
  next => cases hp

/-- A gap, a claimed piece and the rest. -/
theorem claimedBy_gap_claimed {rules : List Rule} {rule : Rule} {text : Array Char} {a b : Nat}
    {t : Text} {ps : List Piece} (hrule : rule ∈ rules) (hps : ∀ p ∈ ps, p.ClaimedBy rules) :
    ∀ p ∈ gap text a b ++ .claimed rule t :: ps, p.ClaimedBy rules := by
  rw [List.forall_mem_append, List.forall_mem_cons]
  exact ⟨claimedBy_gap text a b, hrule, hps⟩

theorem claimedBy_splitFrom (rule : Rule) (text : Array Char) (plainStart from_ : Nat) :
    ∀ p ∈ splitFrom rule text plainStart from_, p.ClaimedBy [rule] := by
  fun_induction splitFrom rule text plainStart from_ with
  | case1 => exact claimedBy_gap _ _ _
  | case2 plainStart from_ h _ _ _ _ _ _ ih =>
    exact claimedBy_gap_claimed List.mem_cons_self ih

theorem claimedBy_greedyFrom (rules : List Rule) (text : Array Char) (plainStart from_ : Nat)
    (looks : List (Lookahead text.size)) :
    ∀ p ∈ greedyFrom rules text plainStart from_ looks, p.ClaimedBy rules := by
  fun_induction greedyFrom rules text plainStart from_ looks with
  | case3 plainStart from_ looks _ looks' i h _ rule hrule _ _ ih =>
    exact claimedBy_gap_claimed (List.mem_of_getElem? hrule) ih
  | _ => exact claimedBy_gap _ _ _

end Piece

namespace Grammar

variable (lookup : String → Option Grammar)
  (inner : Grammar → String → Text → Except TokenizeError (List Token)) (name : String)

/-- Pieces of flat rules are wrapped without asking for another grammar. -/
theorem exists_mapM_wrap {g : Grammar} (hg : g.IsFlat) {ps : List Piece}
    (hps : ∀ p ∈ ps, p.ClaimedBy g) : ∃ ts, ps.mapM (wrap lookup inner name) = .ok ts := by
  induction ps with
  | nil => exact ⟨[], rfl⟩
  | cons p ps ih =>
    obtain ⟨ts, hts⟩ := ih fun q hq => hps q (List.mem_cons_of_mem p hq)
    have hp : ∃ t, wrap lookup inner name p = .ok t := by
      cases p with
      | plain t => exact ⟨_, rfl⟩
      | claimed rule t =>
        have hinside : rule.inside = none := hg rule (hps _ List.mem_cons_self)
        exact ⟨.typed rule.kind rule.extra (.leaf t), by simp only [wrap, hinside]; rfl⟩
    obtain ⟨t, ht⟩ := hp
    exact ⟨t :: ts, by rw [List.mapM_cons, ht, hts]; rfl⟩

theorem exists_refine {rule : Rule} (hrule : rule.inside = none) (ts : List Token) :
    ∃ us, refine (wrap lookup inner name) rule ts = .ok us := by
  induction ts with
  | nil => exact ⟨[], rfl⟩
  | cons t ts ih =>
    obtain ⟨us, hus⟩ := ih
    cases t with
    | plain t =>
      have hflat : Grammar.IsFlat [rule] := List.forall_mem_singleton.mpr hrule
      obtain ⟨first, hfirst⟩ := exists_mapM_wrap lookup inner name hflat
        (Piece.claimedBy_splitFrom rule t.toArray 0 0)
      exact ⟨first ++ us, by rw [refine, Piece.split, hfirst, hus]; rfl⟩
    | typed kind extra content =>
      refine ⟨.typed kind extra content :: us, ?_⟩
      show (refine (wrap lookup inner name) rule ts >>= fun us => _) = _
      rw [hus]
      rfl

theorem exists_refineAll {g : Grammar} (hg : g.IsFlat) (ts : List Token) :
    ∃ us, refineAll (wrap lookup inner name) g ts = .ok us := by
  induction g generalizing ts with
  | nil => exact ⟨ts, rfl⟩
  | cons rule g ih =>
    obtain ⟨hrule, hg⟩ := List.forall_mem_cons.mp hg
    obtain ⟨us, hus⟩ := exists_refine lookup inner name hrule ts
    obtain ⟨vs, hvs⟩ := ih hg us
    exact ⟨vs, by rw [refineAll, hus]; exact hvs⟩

/-- Every text has tokens under a flat grammar. -/
theorem exists_tokenizeWithin {g : Grammar} (hg : g.IsFlat) (lookup : String → Option Grammar)
    (levels : Nat) (name : String) (text : Text) :
    ∃ ts, tokenizeWithin lookup (levels + 1) g name text = .ok ts := by
  have hfilter : ∀ test : Rule → Bool, IsFlat (g.filter test) := fun _ rule hrule =>
    hg rule (List.mem_filter.mp hrule).1
  rw [tokenizeWithin]
  split
  next => exact ⟨[], rfl⟩
  next =>
    dsimp only
    split
    next => exact exists_refineAll _ _ _ (hfilter _) _
    next =>
      obtain ⟨first, hfirst⟩ := exists_mapM_wrap lookup (tokenizeWithin lookup levels) name
        (hfilter _) (Piece.claimedBy_greedyFrom (g.filter Rule.greedy) text.toArray 0 0 _)
      rw [Piece.greedy, hfirst]
      exact exists_refineAll _ _ _ (hfilter _) first

end Grammar

/-! ## The names of a coordinator -/

namespace Coordinator

/-- Names are taken in one after another. -/
theorem registerAll_cons (r : Registry) (name : String) (names : List String) :
    registerAll r (name :: names) = registerAll (r.registerFallback name) names := by
  have hstep : (if Tokenizer.hasGrammar r name then r else Tokenizer.registerFallback r name) =
      r.registerFallback name := by
    show (if r.hasGrammar name then r else r.registerFallback name) = _
    unfold Registry.registerFallback
    split
    next => rfl
    next => rfl
  rw [registerAll, List.foldl_cons, hstep]
  rfl

/-- What becomes of the names of a coordinator over a registry. -/
theorem hasGrammar_registerAll (names : List String) (r : Registry) (name : String) :
    (r.hasGrammar name = true → (registerAll r names).hasGrammar name = true) ∧
    (name ∈ names → r.resolve name = Unicode.lowercase name →
      (registerAll r names).hasGrammar name = true) ∧
    (r.hasGrammar name = false → (∀ n ∈ names, Unicode.lowercase n ≠ r.resolve name) →
      (registerAll r names).hasGrammar name = false) := by
  induction names generalizing r with
  | nil => exact ⟨id, fun h => absurd h List.not_mem_nil, fun h _ => h⟩
  | cons n names ih =>
    rw [registerAll_cons]
    obtain ⟨ihkept, ihself, ihnone⟩ := ih (r.registerFallback n)
    rw [Registry.resolve_registerFallback] at ihself ihnone
    refine ⟨fun h => ihkept (Registry.hasGrammar_registerFallback h), ?_, ?_⟩
    · intro hmem hself
      rcases List.mem_cons.mp hmem with rfl | hmem
      · exact ihkept ((r.hasGrammar_registerFallback_self_iff name).mpr (.inr hself))
      · exact ihself hmem hself
    · intro hnone hnames
      obtain ⟨hn, hnames⟩ := List.forall_mem_cons.mp hnames
      refine ihnone ?_ hnames
      rw [Registry.hasGrammar_eq_false_iff] at hnone ⊢
      rw [Registry.get?_registerFallback, if_neg fun h => hn h.2.symm, hnone]

/-- The names that a coordinator over a registry has to answer for. -/
def names {τ : Type} (c : Coordinator τ) : List String :=
  Kind.textLanguage :: c.fallback :: c.languages

/-- Over a registry a coordinator has a grammar for each of its names that had one or stands for
itself.  One without a grammar that stands for another name has none, unless that is on the list. -/
def Covers (c : Coordinator Registry) (r : Registry) : Prop :=
  ∀ name ∈ c.names,
    (r.hasGrammar name = true ∨ r.resolve name = Unicode.lowercase name →
      c.tokenizer.hasGrammar name = true) ∧
    (r.hasGrammar name = false → (∀ n ∈ c.names, Unicode.lowercase n ≠ r.resolve name) →
      c.tokenizer.hasGrammar name = false)

theorem covers_ensureGrammars (c : Coordinator Registry) : c.ensureGrammars.Covers c.tokenizer := by
  intro name hname
  obtain ⟨hkept, hself, hnone⟩ := hasGrammar_registerAll c.names c.tokenizer name
  exact ⟨fun h => h.elim hkept (hself hname), hnone⟩

end Coordinator

/-! ## Fallbacks -/

namespace Registry

/-- In any registry a name has a grammar after a fallback for it, and under a flat one every text
has tokens; names that had a grammar keep it; and a coordinator has grammars for all its names.
The exception is an alias for another name without a grammar.  A fallback for such an alias
does not reach it, and goes in the place of what other names find under it. -/
theorem registerFallback_resolves (r : Registry) (name : String) :
    ((r.registerFallback name).hasGrammar name = true ↔
      r.hasGrammar name = true ∨ r.resolve name = Unicode.lowercase name) ∧
    (∀ g, (r.registerFallback name).get? name = some g → g.IsFlat →
      ∀ text, ∃ ts, (r.registerFallback name).tokenize text name = .ok ts) ∧
    (∀ other g, r.get? other = some g → (r.registerFallback name).get? other = some g ∨
      r.hasGrammar name = false ∧ r.resolve name ≠ Unicode.lowercase name ∧
        r.resolve other = Unicode.lowercase name ∧
        (r.registerFallback name).get? other = some []) ∧
    (∀ fallback languages, (Coordinator.ofTokenizer r fallback languages).Covers r) ∧
    ∀ (c : Coordinator Registry) (languages : List String), c.tokenizer = r →
      (c.setLanguages languages).Covers r := by
  refine ⟨r.hasGrammar_registerFallback_self_iff name, ?_, ?_, ?_, ?_⟩
  · intro g hget hflat text
    obtain ⟨ts, hts⟩ :=
      g.exists_tokenizeWithin hflat (r.registerFallback name).get? maxNesting name text
    exact ⟨ts, by rw [tokenize, hget]; exact hts⟩
  · intro other g hother
    rw [get?_registerFallback]
    by_cases h : r.hasGrammar name = false ∧ r.resolve other = Unicode.lowercase name
    · refine .inr ⟨h.1, ?_, h.2, if_pos h⟩
      -- A name that stands for itself would find what the other one finds.
      intro hself
      have hsame : r.get? name = r.get? other := by rw [get?, get?, hself, h.2]
      rw [hother, (r.hasGrammar_eq_false_iff name).mp h.1] at hsame
      cases hsame
    · rw [if_neg h]
      exact .inl hother
  · intro fallback languages
    exact Coordinator.covers_ensureGrammars _
  · rintro c languages rfl
    exact Coordinator.covers_ensureGrammars { c with languages }

/-- The rule of a grammar that knows nothing but the letter `x`. -/
def letterRule : Rule :=
  { kind := "letter", extra := none, narrowed := false, greedy := false, inside := none
    program := .ofExpr (.set ⟨#[(120, 120)]⟩) }

/-- A registry with a grammar that is found by an alias too, and an alias for nothing. -/
def aliased : Registry :=
  ((empty.register "Go" [letterRule]).addAlias "golang" "GO").addAlias "py" "Python"

/-- A fallback for a new name, beside an alias for nothing. -/
theorem registerFallback_resolves_aliased :
    (aliased.registerFallback "Zig").hasGrammar "Zig" = true ∧
    (∃ ts, (aliased.registerFallback "Zig").tokenize ['x'] "Zig" = .ok ts) ∧
    (aliased.registerFallback "Zig").get? "GoLang" = some [letterRule] ∧
    (Coordinator.ofTokenizer aliased "ZIG" ["golang", "py"]).tokenizer.hasGrammar "golang" = true ∧
    (Coordinator.ofTokenizer aliased "ZIG" ["golang", "py"]).tokenizer.hasGrammar "py" = false := by
  obtain ⟨hself, hflat, hkept, hcovers, -⟩ := registerFallback_resolves aliased "Zig"
  refine ⟨hself.mpr (.inr rfl), hflat [] rfl (List.forall_mem_nil _) ['x'], ?_, ?_, ?_⟩
  · refine (hkept "GoLang" [letterRule] rfl).resolve_right ?_
    rintro ⟨-, hne, -⟩
    exact hne rfl
  · exact (hcovers "ZIG" ["golang", "py"] "golang" (by decide)).1 (.inl rfl)
  · exact (hcovers "ZIG" ["golang", "py"] "py" (by decide)).2 rfl (by decide)

/-- An alias for a name without a grammar has none after a fallback for it, and none in a
coordinator that has it on its list.  If it has a grammar of its own, which another alias finds,
then that one finds an empty grammar afterwards. -/
theorem exists_registerFallback_not_resolves :
    ((empty.addAlias "py" "python").registerFallback "py").hasGrammar "py" = false ∧
    (Coordinator.ofTokenizer (empty.addAlias "py" "python") "text" ["py"]).tokenizer.hasGrammar
      "py" = false ∧
    (((empty.register "py" [letterRule]).addAlias "snake" "py").addAlias "py" "python").get?
      "snake" = some [letterRule] ∧
    ((((empty.register "py" [letterRule]).addAlias "snake" "py").addAlias "py"
      "python").registerFallback "py").get? "snake" = some [] :=
  ⟨rfl, rfl, rfl, rfl⟩

end Registry

end BlockNotes
