import BlockNotes.Proofs.Pattern.Following

/-!
# Searching from further on

The first match at or after a position does not depend on the position, as long as it lies behind
it.  A search that starts one character later finds the same match, unless the first one finds a
match that starts with this character (`Program.find?_succ`).  So a match that was found remains the
first one until a search starts behind its start, and if there is none there is none further on
either (`Program.find?_later`, `Program.find?_none`).

Both searches run next to each other.  The earlier one has *old* ways, which start with the
character in between, in front of its new ones, and where these have been its new ways stop.  The
later search has ways there that the earlier one lacks.  But they go where the old ways go, and they
would be accepted only where an old way is (`Program.Shadows`).  An old way that is accepted makes
the match start with the character in between.
-/

namespace BlockNotes.Pattern

variable {been : Nat → Prop}

/-! ## Ways that are lacking -/

/-- The first list lacks some ways of the second one, at labels of a set. -/
inductive Thinned (been : Nat → Prop) : List Way → List Way → Prop where
  | nil : Thinned been [] []
  | keep (w : Way) {ws vs : List Way} : Thinned been ws vs → Thinned been (w :: ws) (w :: vs)
  | drop {w : Way} {ws vs : List Way} :
    been w.label → Thinned been ws vs → Thinned been ws (w :: vs)

namespace Thinned

variable {ws vs ws' vs' : List Way}

theorem refl (ws : List Way) : Thinned been ws ws := by
  induction ws with
  | nil => exact .nil
  | cons w ws ih => exact .keep w ih

theorem append (h : Thinned been ws vs) (h' : Thinned been ws' vs') :
    Thinned been (ws ++ ws') (vs ++ vs') := by
  induction h with
  | nil => exact h'
  | keep w _ ih => exact .keep w ih
  | drop hw _ ih => exact .drop hw ih

theorem of_forall (h : ∀ w ∈ vs, been w.label) : Thinned been [] vs := by
  induction vs with
  | nil => exact .nil
  | cons w vs ih =>
    obtain ⟨hw, hvs⟩ := List.forall_mem_cons.mp h
    exact .drop hw (ih hvs)

theorem forall_of_nil (h : Thinned been [] vs) : ∀ w ∈ vs, been w.label := by
  induction vs with
  | nil => exact nofun
  | cons w vs ih =>
    cases h with
    | drop hw h => exact List.forall_mem_cons.mpr ⟨hw, ih h⟩

end Thinned

namespace Program

variable {p : Program} {before after here : Option Char} {round : Nat}

/-! ## Two fronts next to each other -/

/-- The front of a search and that of a later one in the same round.  Old ways of the first one come
in front of its new ways, and where they have been the new ways are lacking. -/
structure Shadows (p : Program) (before after : Option Char) (round : Nat) (old : List Way)
    (been : Nat → Prop) (early late : Front) : Prop where
  /-- Old ways come first. -/
  ways : ∃ new, early.ways.toList = old ++ new ∧ Thinned been new late.ways.toList
  /-- The ways of the later search wait. -/
  waiting : ∀ w ∈ late.ways.toList, p.waits w.label = true
  /-- From where the old ways have been one does not get away. -/
  exits : ∀ l, been l → ∀ l' ∈ p.exits before after l, been l'
  /-- Where ways wait there is an old one. -/
  waits : ∀ l, been l → p.waits l = true → ∃ w ∈ old, w.label = l
  /-- The first search does not visit these labels again. -/
  seen : ∀ l, been l → p.code.size ≤ l ∨ early.Seen round l
  /-- Elsewhere the searches have visited the same. -/
  same : ∀ l, ¬ been l → (early.Seen round l ↔ late.Seen round l)
  early : p.Fits round early
  late : p.Fits round late

/-- A way that the program has no label for does nothing. -/
theorem follows_of_size_le {w : Way} {more : List Way} {fr fr' : Front}
    (hsize : fr.visited.size = p.code.size) (hw : p.code.size ≤ w.label)
    (h : p.Follows before after round more fr fr') :
    p.Follows before after round (w :: more) fr fr' := by
  have hnone : p.code[w.label]? = none := Array.getElem?_eq_none hw
  refine .visit ?_ ?_
  · rw [Front.Seen, Array.getElem?_eq_none (by omega)]
    exact (Option.some_ne_none round).symm
  · have hvisit : p.visit round w fr = fr := by
      rw [visit, waits, hnone, Array.setIfInBounds_eq_of_size_le (by omega)]
      rfl
    rw [hvisit, branches, exits_of_size_le hw]
    exact h

namespace Shadows

variable {old : List Way} {early late : Front}

/-- What waits after a visit has waited before or waits now. -/
theorem waiting_visit (h : p.Shadows before after round old been early late) (w : Way) :
    ∀ v ∈ (p.visit round w late).ways.toList, p.waits v.label = true := by
  rw [ways_visit]
  refine List.forall_mem_append.mpr ⟨h.waiting, ?_⟩
  intro v hv
  obtain ⟨rfl, hwaits⟩ := of_mem_stopped hv
  exact hwaits

/-- A visit that the earlier search does not make. -/
theorem visit_late (h : p.Shadows before after round old been early late) {w : Way}
    (hw : been w.label) : p.Shadows before after round old been early (p.visit round w late) := by
  obtain ⟨new, hnew, hthin⟩ := h.ways
  refine ⟨⟨new, hnew, ?_⟩, h.waiting_visit w, h.exits, h.waits, h.seen, ?_, h.early,
    h.late.visit w⟩
  · have hlacking : Thinned been [] (if p.waits w.label then [w] else []) :=
      .of_forall fun v hv => (of_mem_stopped hv).1 ▸ hw
    have hboth := hthin.append hlacking
    rwa [List.append_nil, ← ways_visit] at hboth
  · intro l hl
    rw [h.same l hl, seen_visit]
    refine ⟨.inl, ?_⟩
    rintro (hseen | ⟨rfl, -⟩)
    · exact hseen
    · exact absurd hw hl

/-- A visit that both make. -/
theorem visit_both (h : p.Shadows before after round old been early late) (w : Way) :
    p.Shadows before after round old been (p.visit round w early) (p.visit round w late) := by
  obtain ⟨new, hnew, hthin⟩ := h.ways
  refine ⟨⟨new ++ if p.waits w.label then [w] else [], ?_, ?_⟩, h.waiting_visit w, h.exits,
    h.waits, ?_, ?_, h.early.visit w, h.late.visit w⟩
  · rw [ways_visit, hnew, List.append_assoc]
  · rw [ways_visit]
    exact hthin.append (.refl _)
  · exact fun l hl => (h.seen l hl).imp_right fun hseen => seen_visit.mpr (.inl hseen)
  · intro l hl
    rw [seen_visit, seen_visit, h.same l hl, h.early.size, h.late.size]

/-- The earlier search gets nowhere from where its old ways have been. -/
theorem follows_been (h : p.Shadows before after round old been early late) {w : Way}
    (hw : been w.label) {more : List Way} {early' : Front}
    (hmore : p.Follows before after round more early early') :
    p.Follows before after round (w :: more) early early' := by
  rcases h.seen _ hw with hout | hseen
  · exact follows_of_size_le h.early.size hout hmore
  · exact .skip hseen hmore

/-- What the later search follows the earlier one follows too, except where its old ways have
been. -/
theorem follows {front back : List Way} {late' : Front}
    (hlate : p.Follows before after round back late late')
    (h : p.Shadows before after round old been early late) (hthin : Thinned been front back) :
    ∃ early', p.Follows before after round front early early' ∧
      p.Shadows before after round old been early' late' := by
  induction hlate generalizing front early with
  | done late =>
    cases hthin
    exact ⟨early, .done early, h⟩
  | @skip w more late late' hseen _ ih =>
    cases hthin with
    | drop _ hthin => exact ih h hthin
    | @keep _ ws _ hthin =>
      obtain ⟨early', hfollows, h'⟩ := ih h hthin
      refine ⟨early', ?_, h'⟩
      by_cases hw : been w.label
      · exact h.follows_been hw hfollows
      · exact .skip ((h.same _ hw).mpr hseen) hfollows
  | @visit w more late late' hnot _ ih =>
    by_cases hw : been w.label
    · -- The way branches where the old ways have been, so all its branches are lacking.
      have hbranches : Thinned been [] (p.branches before after round w) :=
        .of_forall fun v hv => h.exits _ hw _ (label_of_mem_branches hv)
      cases hthin with
      | drop _ hthin => exact ih (h.visit_late hw) (hbranches.append hthin)
      | keep _ hthin =>
        obtain ⟨early', hfollows, h'⟩ := ih (h.visit_late hw) (hbranches.append hthin)
        exact ⟨early', h.follows_been hw hfollows, h'⟩
    · cases hthin with
      | drop hw' _ => exact absurd hw' hw
      | keep _ hthin =>
        obtain ⟨early', hfollows, h'⟩ := ih (h.visit_both w) ((Thinned.refl _).append hthin)
        exact ⟨early', .visit (fun hseen => hnot ((h.same _ hw).mp hseen)) hfollows, h'⟩

theorem follow (h : p.Shadows before after round old been early late) (w : Way) :
    p.Shadows before after round old been (p.follow before after round p.roundFuel [w] early)
      (p.follow before after round p.roundFuel [w] late) := by
  obtain ⟨early', hfollows, h'⟩ := h.follows (follows_roundFuel _ _ _ h.late.size w) (.refl [w])
  rwa [hfollows.unique (follows_roundFuel _ _ _ h.early.size w)] at h'

/-- A way that the earlier search lacks stays where the old ways have been. -/
theorem follow_late (h : p.Shadows before after round old been early late) {w : Way}
    (hw : been w.label) :
    p.Shadows before after round old been early
      (p.follow before after round p.roundFuel [w] late) := by
  obtain ⟨early', hfollows, h'⟩ :=
    h.follows (follows_roundFuel _ _ _ h.late.size w) (.drop hw .nil)
  cases hfollows
  exact h'

/-! ## Moving over a character -/

/-- The new round begins where the old ways have moved on. -/
theorem of_moved {ws : List Way} (hmoved : p.Moved before after here round ws early)
    (hearly : p.Fits round early) (hlate : p.Fits round late) (holder : late.Older round)
    (hnone : late.ways.toList = []) :
    p.Shadows before after round early.ways.toList
      (fun l => p.code.size ≤ l ∨ early.Seen round l) early late := by
  refine ⟨⟨[], (List.append_nil _).symm, by rw [hnone]; exact .nil⟩, ?_, ?_, ?_, fun _ hl => hl,
    ?_, hearly, hlate⟩
  · rw [hnone]
    exact nofun
  · rintro l (hout | hseen) l' hl'
    · rw [exits_of_size_le hout] at hl'
      cases hl'
    · rcases hmoved.closing.exits l hseen l' hl' with hout | hseen' | ⟨w, hw, -⟩
      · exact .inl hout
      · exact .inr hseen'
      · cases hw
  · rintro l (hout | hseen) hwaits
    · rw [Program.waits, Array.getElem?_eq_none hout] at hwaits
      cases hwaits
    · exact hmoved.closing.waits l hseen hwaits
  · intro l hl
    exact iff_of_false (fun hseen => hl (.inr hseen)) (holder.not_seen l)

/-- Ways that the earlier search lacks do not get accepted, and they move to where old ways do. -/
theorem lacking (h : p.Shadows before after round old been early late)
    {before' after' : Option Char} {round' : Nat} {fr : Front}
    (hmoved : p.Moved before' after' here round' old fr) {w : Way} (hw : been w.label) :
    p.accepts w.label = false ∧
      ∀ v, p.move? here w = some v → p.code.size ≤ v.label ∨ fr.Seen round' v.label := by
  constructor
  · cases haccepts : p.accepts w.label with
    | false => rfl
    | true =>
      obtain ⟨u, hu, hlabel⟩ := h.waits _ hw (waits_of_accepts haccepts)
      rw [← hlabel, hmoved.accepts u hu] at haccepts
      cases haccepts
  · intro v hv
    obtain ⟨u, hu, hlabel⟩ := h.waits _ hw (waits_of_move? hv)
    obtain ⟨v', hv', hlabel'⟩ := label_move? hlabel hv
    rw [← hlabel']
    exact hmoved.seen u hu v' hv'

/-- The new ways move on side by side, and the same one is accepted. -/
theorem advance (h : p.Shadows before after round old been early late) {lack : Nat → Prop}
    (hlack : ∀ w : Way, lack w.label → p.accepts w.label = false ∧
      ∀ v, p.move? here w = some v → been v.label)
    {ws vs : List Way} (hthin : Thinned lack ws vs) :
    (p.advance before after here round ws early).1 =
        (p.advance before after here round vs late).1 ∧
      p.Shadows before after round old been (p.advance before after here round ws early).2
        (p.advance before after here round vs late).2 := by
  induction hthin generalizing early late with
  | nil => exact ⟨rfl, h⟩
  | keep w _ ih =>
    rw [advance_cons, advance_cons]
    cases p.accepts w.label with
    | true => exact ⟨rfl, h⟩
    | false =>
      cases p.move? here w with
      | none => exact ih h
      | some v => exact ih (h.follow v)
  | @drop w _ _ hw _ ih =>
    obtain ⟨haccepts, hmove⟩ := hlack w hw
    rw [advance_cons w, haccepts, if_neg Bool.false_ne_true]
    cases hv : p.move? here w with
    | none => exact ih h
    | some v => exact ih (h.follow_late (hmove v hv))

/-- Moving over a character: an old way is accepted, or the searches stay next to each other. -/
theorem move (h : p.Shadows before after round old been early late) {start : Nat}
    (hold : ∀ w ∈ old, w.start = start) (next : Option Char) :
    let x := p.advance here next here (round + 1) early.ways.toList ⟨#[], early.visited⟩
    let y := p.advance here next here (round + 1) late.ways.toList ⟨#[], late.visited⟩
    (∃ w, x.1 = some w ∧ w.start = start ∧ ∀ v ∈ x.2.ways.toList, v.start = start) ∨
      x.1 = y.1 ∧ ∃ old' been', (∀ w ∈ old', w.start = start) ∧
        p.Shadows here next (round + 1) old' been' x.2 y.2 := by
  dsimp only
  obtain ⟨new, hnew, hthin⟩ := h.ways
  obtain ⟨hearly, holder⟩ := h.early.next #[]
  obtain ⟨hlate, holder'⟩ := h.late.next #[]
  have hstart := start_advance here next here (P := (· = start)) hearly nofun hold
  -- The old ways have their turn first, and what they leave is where the new ones go on.
  rw [hnew, advance_append]
  cases hrun : p.advance here next here (round + 1) old ⟨#[], early.visited⟩ with
  | mk accepted fr =>
    rw [hrun] at hstart
    obtain ⟨haccepted, hways⟩ := hstart
    cases accepted with
    | some w => exact .inl ⟨w, rfl, haccepted w rfl, hways⟩
    | none =>
      right
      have hfits : p.Fits (round + 1) fr := by
        have hfits := hearly.advance here next here old
        rwa [hrun] at hfits
      obtain ⟨hmoved, -⟩ := moved_of_advance hearly.size (.of_older holder) hrun
      have hshadows := of_moved hmoved hfits hlate holder' rfl
      obtain ⟨hsame, h'⟩ := hshadows.advance (fun w hw => h.lacking hmoved hw) hthin
      exact ⟨hsame, _, _, hways, h'⟩

end Shadows

/-! ## Runs -/

variable {text : Array Char}

/-- The character in front of a position. -/
def charBefore (text : Array Char) (position : Nat) : Option Char :=
  if position = 0 then none else text[position - 1]?

/-- The front at a position, where a new way starts unless a match was found already. -/
def entered (p : Program) (text : Array Char) (position : Nat) (fr : Front)
    (best : Option (Way × Nat)) : Front :=
  if best.isSome then fr
  else p.follow (charBefore text position) text[position]? (position + 1) p.roundFuel
    [{ label := p.entry, start := position }] fr

/-- What comes of the ways of a front at a position. -/
def moved (p : Program) (text : Array Char) (position : Nat) (fr : Front) : Option Way × Front :=
  p.advance text[position]? text[position + 1]? text[position]? (position + 2) fr.ways.toList
    ⟨#[], fr.visited⟩

/-- One position of a run. -/
theorem run_eq (left position : Nat) (fr : Front) (best : Option (Way × Nat)) :
    p.run text left position fr best =
      if (p.entered text position fr best).ways.isEmpty && best.isSome then best
      else
        let x := p.moved text position (p.entered text position fr best)
        match left with
        | 0 => (x.1.map (·, position)).or best
        | left + 1 => p.run text left (position + 1) x.2 ((x.1.map (·, position)).or best) := by
  rw [run.eq_def]
  rfl

theorem Fits.entered {position : Nat} {fr : Front} (h : p.Fits (position + 1) fr)
    (text : Array Char) (best : Option (Way × Nat)) :
    p.Fits (position + 1) (p.entered text position fr best) := by
  unfold Program.entered
  split
  next => exact h
  next => exact h.follow _

theorem Fits.moved {position : Nat} {fr : Front} (h : p.Fits (position + 1) fr) :
    p.Fits (position + 2) (p.moved text position fr).2 :=
  (h.next #[]).1.advance _ _ _ _

/-- Where the ways of a position start: where those before it do, or there. -/
theorem start_moved (text : Array Char) (best : Option (Way × Nat)) {P : Nat → Prop}
    {position : Nat} {fr : Front} (hfits : p.Fits (position + 1) fr)
    (hways : ∀ w ∈ fr.ways.toList, P w.start) (hentry : best = none → P position) :
    (∀ w, (p.moved text position (p.entered text position fr best)).1 = some w → P w.start) ∧
      ∀ w ∈ (p.moved text position (p.entered text position fr best)).2.ways.toList,
        P w.start := by
  refine start_advance _ _ _ ((hfits.entered text best).next #[]).1 nofun ?_
  unfold entered
  split
  next => exact hways
  next hnone =>
    have hnone : best = none := by simpa using hnone
    exact start_follow hfits.size hways (hentry hnone)

/-- Once there is a match the run comes to one. -/
theorem isSome_run (p : Program) (text : Array Char) (left position : Nat) (fr : Front)
    {best : Option (Way × Nat)} (h : best.isSome = true) :
    (p.run text left position fr best).isSome = true := by
  induction left generalizing position fr best with
  | zero =>
    rw [run_eq]
    split
    next => exact h
    next => rw [Option.isSome_or, h, Bool.or_true]
  | succ left ih =>
    rw [run_eq]
    split
    next => exact h
    next => exact ih _ _ (by rw [Option.isSome_or, h, Bool.or_true])

/-- What a run comes to was found before, or it is one of its ways.  So it has what those ways have
that wait when the run begins, and those that start in it if nothing was found before. -/
theorem found_of_run {P : Nat → Nat → Prop} (hstep : ∀ n start, P n start → P (n + 1) start)
    {left position : Nat} {fr : Front} {best : Option (Way × Nat)}
    (hfits : p.Fits (position + 1) fr)
    (hways : ∀ w ∈ fr.ways.toList, P position w.start) {w : Way} {stop : Nat}
    (h : p.run text left position fr best = some (w, stop))
    (hentry : best = none → ∀ n, position ≤ n → P n n) :
    best = some (w, stop) ∨ P stop w.start ∧ stop ≤ position + left := by
  induction left generalizing position fr best with
  | zero =>
    rw [run_eq] at h
    split at h
    next => exact .inl h
    next =>
      have haccepted := (start_moved text best hfits hways
        fun hnone => hentry hnone position (Nat.le_refl _)).1
      rcases Option.or_eq_some_iff.mp h with hmap | ⟨-, hbest⟩
      · obtain ⟨v, hv, heq⟩ := Option.map_eq_some_iff.mp hmap
        cases heq
        exact .inr ⟨haccepted w hv, Nat.le_refl _⟩
      · exact .inl hbest
  | succ left ih =>
    rw [run_eq] at h
    split at h
    next => exact .inl h
    next =>
      obtain ⟨haccepted, hnext⟩ := start_moved text best hfits hways
        fun hnone => hentry hnone position (Nat.le_refl _)
      rcases ih (hfits.entered text best).moved (fun v hv => hstep _ _ (hnext v hv)) h
        (fun hnone n hn => hentry (Option.or_eq_none_iff.mp hnone).2 n (by omega)) with hor | hfound
      · rcases Option.or_eq_some_iff.mp hor with hmap | ⟨-, hbest⟩
        · obtain ⟨v, hv, heq⟩ := Option.map_eq_some_iff.mp hmap
          cases heq
          exact .inr ⟨haccepted w hv, by omega⟩
        · exact .inl hbest
      · exact .inr ⟨hfound.1, by omega⟩

/-- A run with a match, all of whose ways start at one position, keeps the match or comes to one
that starts there. -/
theorem run_of_start (text : Array Char) (left : Nat) (b : Way × Nat) {position start : Nat}
    {fr : Front} (hfits : p.Fits (position + 1) fr)
    (hways : ∀ w ∈ fr.ways.toList, w.start = start) :
    p.run text left position fr (some b) = some b ∨
      ∃ w stop, p.run text left position fr (some b) = some (w, stop) ∧ w.start = start := by
  obtain ⟨⟨w, stop⟩, hrun⟩ := Option.isSome_iff_exists.mp
    (isSome_run p text left position fr (Option.isSome_some (a := b)))
  rcases found_of_run (P := fun _ s => s = start) (fun _ _ h => h) hfits hways hrun nofun with
    hb | hstart
  · exact .inl (hrun.trans hb.symm)
  · exact .inr ⟨w, stop, hrun, hstart.1⟩

/-- If a way is accepted that starts where all ways do that go on, the run comes to one that starts
there. -/
theorem exists_run_of_accepted (left : Nat) {position start : Nat} {fr : Front}
    {best : Option (Way × Nat)} (hfits : p.Fits (position + 1) fr)
    (hgoes : ¬ ((p.entered text position fr best).ways.isEmpty && best.isSome) = true) {w : Way}
    (hw : (p.moved text position (p.entered text position fr best)).1 = some w)
    (hstart : w.start = start)
    (hways : ∀ v ∈ (p.moved text position (p.entered text position fr best)).2.ways.toList,
      v.start = start) :
    ∃ w' stop, p.run text left position fr best = some (w', stop) ∧ w'.start = start := by
  rw [run_eq, if_neg hgoes]
  dsimp only
  rw [hw]
  cases left with
  | zero => exact ⟨w, position, rfl, hstart⟩
  | succ left =>
    rcases run_of_start text left (w, position) (hfits.entered text best).moved hways with
      hrun | hlater
    · exact ⟨w, position, hrun, hstart⟩
    · exact hlater

namespace Shadows

variable {position : Nat} {old : List Way} {early late : Front}

theorem entered (h : p.Shadows (charBefore text position) text[position]? (position + 1) old been
    early late) (best : Option (Way × Nat)) :
    p.Shadows (charBefore text position) text[position]? (position + 1) old been
      (p.entered text position early best) (p.entered text position late best) := by
  unfold Program.entered
  split
  next => exact h
  next => exact h.follow _

/-- If the earlier search has no ways the later one has none. -/
theorem ways_late_eq_nil (h : p.Shadows before after round old been early late)
    (hnil : early.ways.toList = []) : late.ways.toList = [] := by
  obtain ⟨new, hnew, hthin⟩ := h.ways
  obtain ⟨rfl, rfl⟩ := List.append_eq_nil_iff.mp (hnew.symm.trans hnil)
  cases hways : late.ways.toList with
  | nil => rfl
  | cons w ws =>
    have hw : w ∈ late.ways.toList := hways ▸ List.mem_cons_self
    obtain ⟨u, hu, -⟩ := h.waits _ (hthin.forall_of_nil w hw) (h.waiting w hw)
    cases hu

/-- If the later search has no ways the earlier one has old ones only. -/
theorem ways_early_eq_old (h : p.Shadows before after round old been early late)
    (hnil : late.ways.toList = []) : early.ways.toList = old := by
  obtain ⟨new, hnew, hthin⟩ := h.ways
  rw [hnil] at hthin
  cases hthin
  rw [hnew, List.append_nil]

/-- If the later search goes on, the earlier one does. -/
theorem goes_on (h : p.Shadows before after round old been early late) {found : Bool}
    (hgoes : ¬ (late.ways.isEmpty && found) = true) :
    ¬ (early.ways.isEmpty && found) = true := by
  intro hstops
  obtain ⟨hempty, hfound⟩ := Bool.and_eq_true_iff.mp hstops
  have hnil := h.ways_late_eq_nil (congrArg Array.toList (Array.isEmpty_iff.mp hempty))
  refine hgoes (Bool.and_eq_true_iff.mpr ⟨?_, hfound⟩)
  exact Array.isEmpty_iff.mpr (Array.toList_eq_nil_iff.mp hnil)

/-- If the later search stops, only old ways go on in the earlier one. -/
theorem run_of_late_stops {left start : Nat} {b : Way × Nat}
    (h : p.Shadows before after (position + 1) old been early late)
    (hold : ∀ w ∈ old, w.start = start) (hnil : late.ways.toList = [])
    (hne : ∀ w stop, p.run text left position early (some b) = some (w, stop) →
      w.start ≠ start) :
    p.run text left position early (some b) = some b := by
  have hways : ∀ w ∈ early.ways.toList, w.start = start := by
    rw [h.ways_early_eq_old hnil]
    exact hold
  rcases run_of_start text left b h.early hways with hrun | ⟨w, stop, hrun, hw⟩
  · exact hrun
  · exact absurd hw (hne w stop hrun)

/-- Next to each other, the searches come to the same unless the earlier one comes to an old way. -/
theorem run_eq_run {left start : Nat} {best : Option (Way × Nat)}
    (h : p.Shadows (charBefore text position) text[position]? (position + 1) old been early late)
    (hold : ∀ w ∈ old, w.start = start)
    (hne : ∀ w stop, p.run text left position early best = some (w, stop) → w.start ≠ start) :
    p.run text left position late best = p.run text left position early best := by
  induction left using Nat.strongRecOn generalizing position old been early late best with
  | _ left ih =>
    by_cases hstops : ((p.entered text position late best).ways.isEmpty && best.isSome) = true
    · obtain ⟨hnil, hsome⟩ := Bool.and_eq_true_iff.mp hstops
      obtain ⟨b, rfl⟩ := Option.isSome_iff_exists.mp hsome
      have hnil : late.ways.toList = [] := by
        rw [Array.isEmpty_iff] at hnil
        exact congrArg Array.toList hnil
      rw [run_eq left position late, if_pos hstops, h.run_of_late_stops hold hnil hne]
    · have h' := h.entered best
      have hgoes := h'.goes_on hstops
      rcases h'.move hold text[position + 1]? with
        ⟨w, hw, hstart, hways⟩ | ⟨hsame, old', been', hold', hnext⟩
      · -- An old way is accepted, against `hne`.
        obtain ⟨w', stop, hrun, hw'⟩ := exists_run_of_accepted left h.early hgoes hw hstart hways
        exact absurd hw' (hne w' stop hrun)
      · rw [run_eq left position late, if_neg hstops]
        rw [run_eq left position early, if_neg hgoes] at hne ⊢
        have hsame : (p.moved text position (p.entered text position early best)).1 =
          (p.moved text position (p.entered text position late best)).1 := hsame
        dsimp only at hne ⊢
        rw [← hsame]
        cases left with
        | zero => rfl
        | succ left => exact ih left (Nat.lt_succ_self left) hnext hold' hne

end Shadows

/-! ## Searches -/

/-- The front that a search begins with. -/
def blank (p : Program) : Front :=
  ⟨#[], Array.replicate p.code.size 0⟩

/-- A search from one position further on comes to the same, unless the first search comes to a
match that starts at its position. -/
theorem run_succ {from_ left : Nat}
    (hne : ∀ w stop, p.run text (left + 1) from_ p.blank none = some (w, stop) →
      w.start ≠ from_) :
    p.run text left (from_ + 1) p.blank none = p.run text (left + 1) from_ p.blank none := by
  have hfits : p.Fits (from_ + 1) p.blank := p.fits_start _
  obtain ⟨haccepted, hways⟩ := start_moved text none (P := (· = from_)) hfits nofun fun _ => rfl
  have hgoes : ¬ ((p.entered text from_ p.blank none).ways.isEmpty && Option.isSome
      (none : Option (Way × Nat))) = true := by
    rw [Option.isSome_none, Bool.and_false]
    exact Bool.false_ne_true
  cases hmoved : p.moved text from_ (p.entered text from_ p.blank none) with
  | mk accepted fr =>
    cases accepted with
    | some w =>
      have hw : (p.moved text from_ (p.entered text from_ p.blank none)).1 = some w := by
        rw [hmoved]
      obtain ⟨w', stop, hrun, hw'⟩ :=
        exists_run_of_accepted (left + 1) hfits hgoes hw (haccepted w hw) hways
      exact absurd hw' (hne w' stop hrun)
    | none =>
      obtain ⟨hcurrent, holder⟩ := (hfits.entered text none).next #[]
      obtain ⟨hgone, -⟩ := moved_of_advance hcurrent.size (.of_older holder) hmoved
      have hnext : p.Fits (from_ + 2) (p.moved text from_ (p.entered text from_ p.blank none)).2 :=
        (hfits.entered text none).moved
      rw [run_eq (left + 1), if_neg hgoes] at hne ⊢
      dsimp only at hne ⊢
      rw [hmoved] at hne hways hnext ⊢
      have hshadows :=
        Shadows.of_moved hgone hnext (p.fits_start _) (p.fits_start (from_ + 1)).older rfl
      exact hshadows.run_eq_run hways hne

/-- What a search comes to starts where it begins or behind that, and it lies in the text. -/
theorem bounds_of_run {from_ left : Nat} {w : Way} {stop : Nat}
    (h : p.run text left from_ p.blank none = some (w, stop)) :
    from_ ≤ w.start ∧ w.start ≤ stop ∧ stop ≤ from_ + left := by
  rcases found_of_run (P := fun n start => from_ ≤ start ∧ start ≤ n)
    (fun n start hn => ⟨hn.1, Nat.le_succ_of_le hn.2⟩) (p.fits_start _) nofun h
    (fun _ n hn => ⟨hn, Nat.le_refl n⟩) with hnone | ⟨⟨hfrom, hstart⟩, hstop⟩
  · cases hnone
  · exact ⟨hfrom, hstart, hstop⟩

end Program

/-- A match as one that is found from further on. -/
def Match.later {size from_ q : Nat} (m : Match size from_) (h : q ≤ m.whole.start) :
    Match size q :=
  { whole := m.whole, from_le_start := h, token := m.token }

namespace Program

variable {p : Program} {text : Array Char} {from_ q : Nat}

theorem find?_eq (left : Nat) (h : text.size = from_ + left) :
    p.find? text from_ = (p.run text left from_ p.blank none).bind fun (w, stop) =>
      matchOf? text.size from_ w stop := by
  have hleft : text.size - from_ = left := by omega
  rw [find?, if_pos (by omega), hleft]
  rfl

theorem exists_matchOf? (size : Nat) {stop : Nat} {w : Way}
    (h : from_ ≤ w.start ∧ w.start ≤ stop ∧ stop ≤ size) :
    ∃ m : Match size from_, matchOf? size from_ w stop = some m := by
  rw [matchOf?, dif_pos h]
  exact ⟨_, rfl⟩

theorem start_of_matchOf? {size stop : Nat} {w : Way} {m : Match size from_}
    (h : matchOf? size from_ w stop = some m) : m.whole.start = w.start := by
  unfold matchOf? at h
  split at h
  next => cases h; rfl
  next => cases h

theorem matchOf?_later {size stop : Nat} {w : Way} {m : Match size from_}
    (h : matchOf? size from_ w stop = some m) (hq : q ≤ m.whole.start) :
    matchOf? size q w stop = some (m.later hq) := by
  have hstart := start_of_matchOf? h
  unfold matchOf? at h
  split at h
  next hbounds =>
    cases h
    rw [matchOf?, dif_pos ⟨hq, hbounds.2⟩]
    rfl
  next => cases h

/-- A search that finds nothing comes to nothing. -/
theorem run_eq_none (left : Nat) (hsize : text.size = from_ + left)
    (h : p.find? text from_ = none) :
    p.run text left from_ p.blank none = none := by
  cases hrun : p.run text left from_ p.blank none with
  | none => rfl
  | some found =>
    obtain ⟨w, stop⟩ := found
    obtain ⟨hfrom, hstart, hstop⟩ := bounds_of_run hrun
    obtain ⟨m, hm⟩ := exists_matchOf? text.size ⟨hfrom, hstart, hsize ▸ hstop⟩
    rw [find?_eq left hsize, hrun, Option.bind_some] at h
    cases hm.symm.trans h

theorem find?_succ_none (h : p.find? text from_ = none) : p.find? text (from_ + 1) = none := by
  by_cases hle : from_ + 1 ≤ text.size
  · obtain ⟨left, hleft⟩ := Nat.exists_eq_add_of_le hle
    have hnone := run_eq_none (left + 1) (by omega) h
    rw [find?_eq left hleft, run_succ (by rw [hnone]; exact nofun), hnone]
    rfl
  · rw [find?, if_neg hle]

theorem find?_succ {m : Match text.size from_} (h : p.find? text from_ = some m)
    (hq : from_ + 1 ≤ m.whole.start) : p.find? text (from_ + 1) = some (m.later hq) := by
  have hle : from_ + 1 ≤ text.size :=
    Nat.le_trans hq (Nat.le_trans m.whole.start_le_stop m.whole.stop_le_size)
  obtain ⟨left, hleft⟩ := Nat.exists_eq_add_of_le hle
  rw [find?_eq (left + 1) (by omega)] at h
  obtain ⟨⟨w, stop⟩, hrun, hm⟩ := Option.bind_eq_some_iff.mp h
  have hne : ∀ w' stop', p.run text (left + 1) from_ p.blank none = some (w', stop') →
      w'.start ≠ from_ := by
    intro w' stop' hrun'
    cases hrun.symm.trans hrun'
    have hstart := start_of_matchOf? hm
    omega
  rw [find?_eq left hleft, run_succ hne, hrun]
  exact matchOf?_later hm hq

/-- If there is no match at or behind a position there is none from further on. -/
theorem find?_none (hle : from_ ≤ q) (h : p.find? text from_ = none) : p.find? text q = none := by
  induction hle with
  | refl => exact h
  | step _ ih => exact find?_succ_none ih

/-- The first match at or behind a position is the first one from further on, as far as it
starts. -/
theorem find?_later {m : Match text.size from_} (h : p.find? text from_ = some m)
    (hle : from_ ≤ q) (hq : q ≤ m.whole.start) : p.find? text q = some (m.later hq) := by
  induction hle with
  | refl => exact h
  | step _ ih => exact find?_succ (ih (Nat.le_of_succ_le hq)) hq

end Program

end BlockNotes.Pattern
