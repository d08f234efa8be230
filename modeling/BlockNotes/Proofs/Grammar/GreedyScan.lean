import BlockNotes.Grammar.Tokenize
import BlockNotes.Proofs.Pattern.Leftmost
import Mathlib.Data.List.Forall2

/-!
# The greedy scan keeps its hits

The greedy scan searches again only for a rule whose hit starts before the position that it has come
to.  What it keeps was found from further back, and the question is whether a search afresh would
find the same.

For a match it would, as long as the match starts at the position or behind it
(`Pattern.Program.find?_later`).  For a hit there is more to it, since a search goes on behind a
match without a token.  From within such a match another one may be found, with a token, which the
search from further back has never seen.  If no passed over match hides a hit in this way
(`Rule.HidesNothing`), the hits that are kept are right (`Rule.firstHit?_of_le`), and the scan is
the one that searches for every rule afresh (`Piece.greedyFrom_eq_freshFrom`).  Of these there is
exactly one (`Piece.Scans`).
-/

namespace BlockNotes

/-! ## Hits from further on -/

namespace Rule

variable {r : Rule} {text : Array Char}

/-- The first hit at or behind a position. -/
def firstHit? (r : Rule) (text : Array Char) (from_ : Nat) : Option (Hit text.size) :=
  (r.hit? text from_).map Subtype.val

theorem firstHit?_of_none {from_ : Nat} (h : r.program.find? text from_ = none) :
    r.firstHit? text from_ = none := by
  rw [firstHit?, hit?, h]
  rfl

theorem firstHit?_of_hit {from_ : Nat} {m : Pattern.Match text.size from_} {h : Hit text.size}
    (hm : r.program.find? text from_ = some m) (hh : r.hitOf? m = some h) :
    r.firstHit? text from_ = some h := by
  rw [firstHit?, hit?, hm]
  dsimp only
  split
  next h' e =>
    cases hh.symm.trans e
    rfl
  next e => cases hh.symm.trans e

/-- A match without a token is passed over. -/
theorem firstHit?_of_passed {from_ : Nat} {m : Pattern.Match text.size from_}
    (hm : r.program.find? text from_ = some m) (hh : r.hitOf? m = none) :
    r.firstHit? text from_ =
      if from_ < text.size then r.firstHit? text (max m.whole.stop (from_ + 1)) else none := by
  rw [firstHit?, hit?, hm]
  dsimp only
  split
  next e => cases hh.symm.trans e
  next e =>
    split
    next =>
      rw [firstHit?, Option.map_map]
      rfl
    next => rfl

/-- Where a match is passed over, no hit is found from within it that begins within it. -/
def HidesNothing (r : Rule) (text : Array Char) : Prop :=
  ∀ from_, ∀ m ∈ r.program.find? text from_, r.hitOf? m = none →
    ∀ q < m.whole.stop, m.whole.start < q →
      ∀ h ∈ r.firstHit? text q, m.whole.stop ≤ h.whole.start

/-- There are no matches behind the text. -/
theorem hidesNothing_iff : r.HidesNothing text ↔
    ∀ from_ < text.size + 1, ∀ m ∈ r.program.find? text from_, r.hitOf? m = none →
      ∀ q < m.whole.stop, m.whole.start < q →
        ∀ h ∈ r.firstHit? text q, m.whole.stop ≤ h.whole.start := by
  refine ⟨fun h from_ _ => h from_, ?_⟩
  intro h from_ m hm
  by_cases hlt : from_ < text.size + 1
  · exact h from_ hlt m hm
  · have hnone : r.program.find? text from_ = none := by
      rw [Pattern.Program.find?, if_neg (by omega)]
    cases hnone.symm.trans hm

instance : Decidable (r.HidesNothing text) :=
  decidable_of_iff _ hidesNothing_iff.symm

/-- A rule that takes whole matches passes over empty ones only. -/
theorem hidesNothing_of_not_narrowed (h : r.narrowed = false) : r.HidesNothing text := by
  intro from_ m _ hnone q hstop hstart
  rw [hitOf?, h, if_neg Bool.false_ne_true] at hnone
  split at hnone
  next => cases hnone
  next hempty => omega

/-- From further on a match has the same token. -/
theorem hitOf?_later {size from_ q : Nat} (m : Pattern.Match size from_)
    (hq : q ≤ m.whole.start) :
    r.hitOf? (m.later hq) = r.hitOf? m := by
  obtain ⟨whole, hle, token⟩ := m
  cases token <;> rfl

/-- As long as it starts there or later, the first hit is the same from further on. -/
theorem firstHit?_of_le (hhides : r.HidesNothing text) {from_ q : Nat} (hle : from_ ≤ q)
    (h : ∀ g, r.firstHit? text from_ = some g → q ≤ g.whole.start) :
    r.firstHit? text q = r.firstHit? text from_ := by
  induction hn : text.size - from_ using Nat.strongRecOn generalizing from_ q with
  | _ n ih =>
    rcases Nat.eq_or_lt_of_le hle with rfl | hlt
    · rfl
    cases hm : r.program.find? text from_ with
    | none => rw [firstHit?_of_none hm, firstHit?_of_none (Pattern.Program.find?_none hle hm)]
    | some m =>
      have hbounds := m.whole.start_le_stop
      have hsize := m.whole.stop_le_size
      cases hhit : r.hitOf? m with
      | some g =>
        rw [firstHit?_of_hit hm hhit] at h ⊢
        have hq : q ≤ m.whole.start := whole_of_hitOf? hhit ▸ h g rfl
        exact firstHit?_of_hit (Pattern.Program.find?_later hm hle hq)
          ((hitOf?_later m hq).trans hhit)
      | none =>
        have hpassed := firstHit?_of_passed hm hhit
        by_cases hend : from_ < text.size
        · rw [if_pos hend] at hpassed
          rw [hpassed] at h ⊢
          by_cases hbehind : max m.whole.stop (from_ + 1) ≤ q
          · exact ih _ (by omega) hbehind h rfl
          · have hmax : max m.whole.stop (from_ + 1) = m.whole.stop := by omega
            rw [hmax] at h ⊢
            by_cases hstart : q ≤ m.whole.start
            · -- The same match is passed over from further on.
              rw [firstHit?_of_passed (Pattern.Program.find?_later hm hle hstart)
                ((hitOf?_later m hstart).trans hhit), if_pos (by omega)]
              show r.firstHit? text (max m.whole.stop (q + 1)) = _
              rw [show max m.whole.stop (q + 1) = m.whole.stop by omega]
            · -- The search begins inside of the match, and what it finds there begins behind it.
              have hinside := hhides from_ m hm hhit q (by omega) (by omega)
              exact (ih _ (by omega) (by omega) hinside rfl).symm
        · rw [if_neg hend] at hpassed
          have hnone : r.program.find? text q = none := by
            rw [Pattern.Program.find?, if_neg (by omega)]
          rw [hpassed, firstHit?_of_none hnone]

/-- A hit lies behind the position of the search, and it is not empty. -/
theorem bounds_of_firstHit? {from_ : Nat} {h : Hit text.size}
    (hh : r.firstHit? text from_ = some h) :
    from_ ≤ h.whole.start ∧ h.whole.start < h.whole.stop := by
  obtain ⟨⟨h, hfrom⟩, -, rfl⟩ := Option.map_eq_some_iff.mp hh
  have htoken : h.token.start < h.whole.stop := Nat.lt_of_lt_of_le h.token_nonempty h.token_le_whole
  exact ⟨hfrom, Nat.lt_of_le_of_lt h.whole_le_token htoken⟩

end Rule

/-! ## Hits that are kept -/

namespace Lookahead

variable {r : Rule} {text : Array Char} {from_ : Nat}

/-- What is known of a rule was found by a search from a position that lies no further on. -/
def Valid (r : Rule) (text : Array Char) (from_ : Nat) (l : Lookahead text.size) : Prop :=
  l = unsearched ∨ ∃ p ≤ from_, l = ofHit? (r.firstHit? text p)

/-- After a refresh what is kept is what a search finds afresh. -/
theorem refresh_eq {l : Lookahead text.size} (hhides : r.HidesNothing text)
    (h : l.Valid r text from_) : l.refresh r text from_ = ofHit? (r.firstHit? text from_) := by
  rcases h with rfl | ⟨p, hp, rfl⟩
  · rfl
  · cases hkept : r.firstHit? text p with
    | none =>
      -- There was none from further back, so `firstHit?_of_le` holds for want of a hit.
      rw [Rule.firstHit?_of_le hhides hp (by rw [hkept]; exact nofun), hkept]
      rfl
    | some g =>
      show (if g.whole.start < from_ then ofHit? (r.firstHit? text from_) else next g) = _
      split
      next => rfl
      next hstart =>
        rw [Rule.firstHit?_of_le hhides hp, hkept]
        · rfl
        · rw [hkept]
          rintro _ ⟨⟩
          omega

theorem hit?_ofHit? {size : Nat} (o : Option (Hit size)) : (ofHit? o).hit? = o := by
  cases o <;> rfl

theorem map_refresh {rules : List Rule} {looks : List (Lookahead text.size)}
    (hhides : ∀ r ∈ rules, r.HidesNothing text)
    (h : List.Forall₂ (fun r l => Valid r text from_ l) rules looks) :
    (rules.zip looks).map (fun (r, l) => l.refresh r text from_) =
      rules.map fun r => ofHit? (r.firstHit? text from_) := by
  induction h with
  | nil => rfl
  | cons hvalid _ ih =>
    obtain ⟨hr, hrest⟩ := List.forall_mem_cons.mp hhides
    rw [List.zip_cons_cons, List.map_cons, List.map_cons, ih hrest]
    dsimp only
    rw [refresh_eq hr hvalid]

/-- What is kept stays known when the scan moves on and forgets the hit that was taken. -/
theorem valid_taken {rules : List Rule} {q : Nat} (hle : from_ ≤ q) (i : Nat) :
    List.Forall₂ (fun r l => Valid r text q l) rules
      ((rules.map fun r => ofHit? (r.firstHit? text from_)).set i unsearched) := by
  induction rules generalizing i with
  | nil => exact .nil
  | cons r rest ih =>
    have hkept : Valid r text q (ofHit? (r.firstHit? text from_)) := .inr ⟨from_, hle, rfl⟩
    cases i with
    | zero =>
      refine .cons (.inl rfl) ?_
      rw [List.forall₂_map_right_iff, List.forall₂_same]
      exact fun r _ => .inr ⟨from_, hle, rfl⟩
    | succ i => exact .cons hkept (ih i)

end Lookahead

/-! ## The scan that searches afresh -/

namespace Piece

variable {rules : List Rule} {text : Array Char} {plainStart from_ : Nat}

/-- The pieces of a scan with several rules.  At each position every rule is searched for afresh.
The hit that starts first is taken, and of those that start together that of the first rule. -/
inductive Scans (rules : List Rule) (text : Array Char) :
    (plainStart from_ : Nat) → List Piece → Prop where
  /-- No rule has a hit. -/
  | rest {plainStart from_ : Nat} : (∀ r ∈ rules, r.firstHit? text from_ = none) →
    Scans rules text plainStart from_ (gap text plainStart text.size)
  /-- A rule claims the token of its hit, and the scan goes on behind both. -/
  | claim {plainStart from_ : Nat} {front back : List Rule} {r : Rule} {h : Hit text.size}
    {ps : List Piece} : rules = front ++ r :: back → r.firstHit? text from_ = some h →
    (∀ r' ∈ front, ∀ g, r'.firstHit? text from_ = some g → h.whole.start < g.whole.start) →
    (∀ r' ∈ back, ∀ g, r'.firstHit? text from_ = some g → h.whole.start ≤ g.whole.start) →
    Scans rules text h.token.stop (max h.whole.stop h.token.stop) ps →
    Scans rules text plainStart from_
      (gap text plainStart h.token.start ++ .claimed r (cut text h.token.start h.token.stop) :: ps)

/-- The hit that is taken from those of a list of rules, which are numbered. -/
theorem earliest_spec {size : Nat} (f : Rule → Option (Hit size)) (rules : List Rule) (k : Nat) :
    (earliest ((List.range' k rules.length).zip (rules.map f)) = none ∧ ∀ r ∈ rules, f r = none) ∨
    ∃ front r back h, earliest ((List.range' k rules.length).zip (rules.map f)) =
        some (k + front.length, h) ∧ rules = front ++ r :: back ∧ f r = some h ∧
      (∀ r' ∈ front, ∀ g, f r' = some g → h.whole.start < g.whole.start) ∧
      ∀ r' ∈ back, ∀ g, f r' = some g → h.whole.start ≤ g.whole.start := by
  induction rules generalizing k with
  | nil => exact .inl ⟨rfl, nofun⟩
  | cons r rest ih =>
    rw [List.length_cons, List.range'_succ, List.map_cons, List.zip_cons_cons]
    rcases ih (k + 1) with
      ⟨hnone, hrest⟩ | ⟨front, r', back, h, hsome, rfl, hh, hfront, hback⟩
    · cases hr : f r with
      | none => exact .inl ⟨hnone, List.forall_mem_cons.mpr ⟨hr, hrest⟩⟩
      | some g =>
        refine .inr ⟨[], r, rest, g, ?_, rfl, hr, nofun, ?_⟩
        · rw [earliest, hnone]
          rfl
        · intro r' hr' g' hg'
          cases (hrest r' hr').symm.trans hg'
    · right
      cases hr : f r with
      | none =>
        refine ⟨r :: front, r', back, h, ?_, rfl, hh, ?_, hback⟩
        · rw [earliest, hsome, List.length_cons]
          congr 2
          omega
        · refine List.forall_mem_cons.mpr ⟨?_, hfront⟩
          intro g hg
          cases hr.symm.trans hg
      | some g =>
        by_cases hlt : h.whole.start < g.whole.start
        · refine ⟨r :: front, r', back, h, ?_, rfl, hh, ?_, hback⟩
          · rw [earliest, hsome]
            dsimp only
            rw [if_pos hlt, List.length_cons]
            congr 2
            omega
          · refine List.forall_mem_cons.mpr ⟨?_, hfront⟩
            intro g' hg'
            cases hr.symm.trans hg'
            exact hlt
        · refine ⟨[], r, front ++ r' :: back, g, ?_, rfl, hr, nofun, ?_⟩
          · rw [earliest, hsome]
            dsimp only
            rw [if_neg hlt]
            rfl
          · intro r'' hr'' g' hg'
            rcases List.mem_append.mp hr'' with hmem | hmem
            · exact Nat.le_trans (Nat.not_lt.mp hlt) (Nat.le_of_lt (hfront r'' hmem g' hg'))
            · rcases List.mem_cons.mp hmem with rfl | hmem
              · cases hh.symm.trans hg'
                exact Nat.not_lt.mp hlt
              · exact Nat.le_trans (Nat.not_lt.mp hlt) (hback r'' hmem g' hg')

/-- The scan that searches for every rule afresh is one. -/
theorem scans_freshFrom (rules : List Rule) (text : Array Char) (plainStart from_ : Nat) :
    Scans rules text plainStart from_ (freshFrom rules text plainStart from_) := by
  induction hn : text.size - from_ using Nat.strongRecOn generalizing plainStart from_ with
  | _ n ih =>
    rw [freshFrom]
    split
    next hfrom =>
      dsimp only
      rw [List.length_map, List.range_eq_range']
      rcases earliest_spec (fun r => (r.hit? text from_).map Subtype.val) rules 0 with
        ⟨hnone, hrest⟩ | ⟨front, r, back, h, hsome, hsplit, hh, hfront, hback⟩
      · rw [hnone]
        exact .rest hrest
      · have hrule : rules[0 + front.length]? = some r := by
          rw [hsplit, Nat.zero_add, List.getElem?_append_right (Nat.le_refl _), Nat.sub_self]
          rfl
        obtain ⟨hstart, hstop⟩ := Rule.bounds_of_firstHit? hh
        have hsize := h.whole.stop_le_size
        have hmax : max h.whole.stop h.token.stop = h.whole.stop := Nat.max_eq_left h.token_le_whole
        rw [hsome]
        dsimp only
        rw [hrule]
        dsimp only
        rw [if_pos (by omega)]
        refine .claim hsplit hh hfront hback ?_
        rw [hmax]
        exact ih _ (by omega) _ _ rfl
    next hfrom =>
      refine .rest ?_
      intro r _
      cases hh : r.firstHit? text from_ with
      | none => rfl
      | some h =>
        obtain ⟨hstart, hstop⟩ := Rule.bounds_of_firstHit? hh
        have hsize := h.whole.stop_le_size
        omega

/-- There is one scan only. -/
theorem Scans.unique {ps qs : List Piece} (hp : Scans rules text plainStart from_ ps)
    (hq : Scans rules text plainStart from_ qs) : ps = qs := by
  induction hp generalizing qs with
  | rest hnone =>
    cases hq with
    | rest _ => rfl
    | claim hsplit hh _ _ _ =>
      subst hsplit
      cases (hnone _ (List.mem_append_right _ List.mem_cons_self)).symm.trans hh
  | @claim plainStart from_ front back r h ps hsplit hh hfront hback _ ih =>
    subst hsplit
    cases hq with
    | rest hnone => cases (hnone _ (List.mem_append_right _ List.mem_cons_self)).symm.trans hh
    | @claim _ _ front' back' r' h' ps' hsplit' hh' hfront' hback' hps' =>
      -- If the rules differ, each hit would have to start before the other one, or with it.
      rcases List.append_eq_append_iff.mp hsplit' with ⟨more, rfl, hmore⟩ | ⟨more, rfl, hmore⟩
      · cases more with
        | nil =>
          cases hmore
          cases hh.symm.trans hh'
          rw [ih hps']
        | cons r'' more =>
          cases hmore
          have hlt := hfront' r (List.mem_append_right _ List.mem_cons_self) h hh
          have hle := hback r' (List.mem_append_right _ List.mem_cons_self) h' hh'
          omega
      · cases more with
        | nil =>
          cases hmore
          cases hh.symm.trans hh'
          rw [ih hps']
        | cons r'' more =>
          cases hmore
          have hlt := hfront r' (List.mem_append_right _ List.mem_cons_self) h' hh'
          have hle := hback' r (List.mem_append_right _ List.mem_cons_self) h hh
          omega

/-- The hits that are kept are those that are found afresh. -/
theorem earliest_kept (hhides : ∀ r ∈ rules, r.HidesNothing text)
    {looks : List (Lookahead text.size)}
    (hlooks : List.Forall₂ (fun r l => Lookahead.Valid r text from_ l) rules looks) :
    earliest ((List.range ((rules.zip looks).map fun (r, l) => l.refresh r text from_).length).zip
      (((rules.zip looks).map fun (r, l) => l.refresh r text from_).map Lookahead.hit?)) =
    earliest ((List.range (rules.map fun r => (r.hit? text from_).map Subtype.val).length).zip
      (rules.map fun r => (r.hit? text from_).map Subtype.val)) := by
  rw [Lookahead.map_refresh hhides hlooks, List.map_map, List.length_map, List.length_map]
  congr 2
  exact List.map_congr_left fun r _ => Lookahead.hit?_ofHit? _

/-- With hits that are kept the scan is the same. -/
theorem greedyFrom_eq_freshFrom (hhides : ∀ r ∈ rules, r.HidesNothing text)
    {looks : List (Lookahead text.size)}
    (hlooks : List.Forall₂ (fun r l => Lookahead.Valid r text from_ l) rules looks) :
    greedyFrom rules text plainStart from_ looks = freshFrom rules text plainStart from_ := by
  induction hn : text.size - from_ using Nat.strongRecOn generalizing plainStart from_ looks with
  | _ n ih =>
    rw [greedyFrom, freshFrom]
    by_cases hfrom : from_ < text.size
    · rw [if_pos hfrom, if_pos hfrom]
      dsimp only
      rw [earliest_kept hhides hlooks]
      split
      next => rfl
      next i h _ =>
        split
        next => rfl
        next rule _ =>
          by_cases hstop : from_ < h.whole.stop
          · rw [if_pos hstop, if_pos hstop, Lookahead.map_refresh hhides hlooks]
            have hle : from_ ≤ h.whole.stop := Nat.le_of_lt hstop
            rw [ih _ (by omega) (Lookahead.valid_taken hle i) rfl]
          · rw [if_neg hstop, if_neg hstop]
    · rw [if_neg hfrom, if_neg hfrom]

end Piece

/-! ## Tokens -/

namespace Grammar

/-- Whatever the rules and the text are: if no narrowed rule hides a hit in a match that it passes
over, the tokens of the greedy scan, or its error, are those of the one scan that searches for every
rule afresh at each position. -/
theorem greedy_scans (rules : List Rule) (text : Text)
    (hhides : ∀ r ∈ rules, r.narrowed = true → r.HidesNothing text.toArray)
    (lookup : String → Option Grammar)
    (inner : Grammar → String → Text → Except TokenizeError (List Token)) (name : String) :
    ∃ ps, (∀ qs, Piece.Scans rules text.toArray 0 0 qs ↔ qs = ps) ∧
      (Piece.greedy rules text).mapM (wrap lookup inner name) =
        ps.mapM (wrap lookup inner name) := by
  have hall : ∀ r ∈ rules, r.HidesNothing text.toArray := by
    intro r hr
    cases hnarrowed : r.narrowed with
    | true => exact hhides r hr hnarrowed
    | false => exact r.hidesNothing_of_not_narrowed hnarrowed
  have hlooks : List.Forall₂ (fun r l => Lookahead.Valid r text.toArray 0 l) rules
      (rules.map fun _ => .unsearched) := by
    rw [List.forall₂_map_right_iff, List.forall₂_same]
    exact fun _ _ => .inl rfl
  have hscans := Piece.scans_freshFrom rules text.toArray 0 0
  refine ⟨Piece.freshFrom rules text.toArray 0 0, ?_, ?_⟩
  · intro qs
    constructor
    · exact fun hqs => hqs.unique hscans
    · rintro rfl
      exact hscans
  · rw [Piece.greedy, Piece.greedyFrom_eq_freshFrom hall hlooks]

open Pattern in
/-- A rule whose token may be empty passes over the first two characters, which hide nothing, and
its next hit is kept while another rule claims what stands in front of it. -/
theorem greedy_scans_passed :
    let a : Rule :=
      { kind := "a", extra := none, narrowed := false, greedy := true, inside := none
        program := .ofExpr (.set (.single 'a')) }
    let b : Rule :=
      { kind := "b", extra := none, narrowed := true, greedy := true, inside := none
        program := .ofExpr (.seq (.set (.single 'b'))
          (.seq (.token (.rounds 0 none true (.set (.single 'c')))) (.set (.single 'd')))) }
    let text := ['b', 'd', 'a', 'b', 'c', 'd']
    (∀ r ∈ [a, b], r.narrowed = true → r.HidesNothing text.toArray) ∧
      b.program.find? text.toArray 0 ≠ none ∧
      ∃ ps, (∀ qs, Piece.Scans [a, b] text.toArray 0 0 qs ↔ qs = ps) ∧
        (Piece.greedy [a, b] text).mapM (wrap (fun _ => none) (fun _ _ _ => .ok []) "g") =
          ps.mapM (wrap (fun _ => none) (fun _ _ _ => .ok []) "g") := by
  intro a b text
  have hhides : ∀ r ∈ [a, b], r.narrowed = true → r.HidesNothing text.toArray := by decide +kernel
  exact ⟨hhides, by decide +kernel, greedy_scans [a, b] text hhides _ _ _⟩

open Pattern in
/-- A rule whose second way has a token and whose first way has none, on a text where the first way
hides the second.  Once another rule has claimed the first character, a search afresh finds the
token, but the scan has kept that there is none. -/
theorem exists_greedy_not_scans :
    let a : Rule :=
      { kind := "first", extra := none, narrowed := false, greedy := true, inside := none
        program := .ofExpr (.set (.single 'a')) }
    let b : Rule :=
      { kind := "second", extra := none, narrowed := true, greedy := true, inside := none
        program := .ofExpr (.alt (.seq (.set (.single 'a')) (.set (.single 'b')))
          (.seq (.set (.single 'b')) (.token (.set (.single 'c'))))) }
    let wrap := wrap (fun _ => none) (fun _ _ _ => .ok []) "g"
    (Piece.greedy [a, b] ['a', 'b', 'c']).mapM wrap =
        .ok [.typed "first" none (.leaf ['a']), .plain ['b', 'c']] ∧
      ∀ ps, Piece.Scans [a, b] #['a', 'b', 'c'] 0 0 ps → ps.mapM wrap =
        .ok [.typed "first" none (.leaf ['a']), .plain ['b'],
          .typed "second" none (.leaf ['c'])] := by
  intro a b wrap
  refine ⟨by cbv, ?_⟩
  intro ps hps
  rw [hps.unique (Piece.scans_freshFrom _ _ 0 0)]
  cbv

end Grammar

end BlockNotes
