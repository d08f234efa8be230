import BlockNotes.Proofs.Pattern.Leftmost

/-!
# The preferred way

A matcher that backtracks tries one way at a time.  At a fork it takes the preferred
branch, and the other one only if nothing comes of that (`Program.Falls.prefer`).  A
search lets all ways advance together instead and drops those that come to a label for
the second time.  It comes to the same: to the preferred way from the leftmost position
that has one (`Program.Falls.find?_eq`).

Dropping a way is right because of what became of the one that was at its label before.
Either that one, or one that is preferred to it, leads to a match, and then no other way
counts.  Or nothing comes of it, and then nothing comes of the dropped way either, since
this is a matter of the label (`Program.Falls.Covers`).  The argument needs that a way
does not meet its own label again without a character in between.  That is so in a
program whose labels fall (`Program.Falls`), which can be read off its instructions.
-/

namespace BlockNotes.Pattern.Program

variable {p : Program} {before after : Option Char} {round : Nat}

/-! ## Labels that fall -/

/-- The labels that a label may lead to without a character. -/
def leads (p : Program) (l : Nat) : List Nat :=
  match p.code[l]? with
  | some (.check _ next) | some (.mark _ next) => [next]
  | some (.fork x y) => [x, y]
  | _ => []

/-- Without a character one gets to smaller labels only, or to where ways wait. -/
def Falls (p : Program) : Prop :=
  ∀ l < p.code.size, ∀ l' ∈ p.leads l, p.waits l' = true ∨ l' < l

instance : Decidable p.Falls :=
  inferInstanceAs (Decidable (∀ l < _, _))

/-- How far a label can fall. -/
def height (p : Program) (l : Nat) : Nat :=
  if p.waits l then 0 else l + 1

theorem mem_leads_of_mem_exits {l l' : Nat} (h : l' ∈ p.exits before after l) :
    l' ∈ p.leads l ∧ p.waits l = false := by
  unfold exits at h
  rw [leads, waits]
  split at h
  next hcode =>
    rw [hcode]
    split at h
    next => exact ⟨h, rfl⟩
    next => cases h
  next hcode =>
    rw [hcode]
    exact ⟨h, rfl⟩
  next hcode =>
    rw [hcode]
    exact ⟨h, rfl⟩
  next => cases h

theorem exits_of_waits {l : Nat} (h : p.waits l = true) : p.exits before after l = [] := by
  refine List.eq_nil_iff_forall_not_mem.mpr fun l' hl' => ?_
  rw [(mem_leads_of_mem_exits hl').2] at h
  cases h

theorem branches_of_waits {w : Way} (h : p.waits w.label = true) :
    p.branches before after round w = [] := by
  rw [branches, exits_of_waits h, List.map_nil]

theorem lt_size_of_move? {text : Array Char} {position : Nat} {w v : Way}
    (h : p.move? text[position]? w = some v) : position < text.size := by
  refine Nat.lt_of_not_le fun hge => ?_
  rw [Array.getElem?_eq_none hge] at h
  unfold move? at h
  split at h
  next hnone => cases hnone
  next => cases h

namespace Falls

theorem height_lt (hp : p.Falls) {l l' : Nat} (h : l' ∈ p.exits before after l) :
    p.height l' < p.height l := by
  obtain ⟨hleads, hwaits⟩ := mem_leads_of_mem_exits h
  have hlt : l < p.code.size := by
    refine Nat.lt_of_not_le fun hge => ?_
    rw [exits_of_size_le hge] at h
    cases h
  rw [height, height, hwaits, if_neg Bool.false_ne_true]
  rcases hp l hlt l' hleads with hstop | hless
  · rw [if_pos hstop]
    exact Nat.succ_pos l
  · split
    · exact Nat.succ_pos l
    · exact Nat.succ_lt_succ hless

/-! ## Trying one way after the other -/

theorem findSome?_attach {α β : Type} (xs : List α) (f : α → Option β) :
    (xs.attach.findSome? fun x => f x.1) = xs.findSome? f := by
  rw [List.findSome?_subtype fun _ _ => rfl, List.unattach_attach]

/-- What comes of a way that waits at a position or is to be followed there, with the position where
it is accepted. -/
def prefer (hp : p.Falls) (text : Array Char) (position : Nat) (w : Way) : Option (Way × Nat) :=
  if p.accepts w.label then some (w, position)
  else
    match hmove : p.move? text[position]? w with
    | some v => prefer hp text (position + 1) v
    | none =>
      (p.branches (charBefore text position) text[position]? (position + 1) w).attach.findSome?
        fun v => prefer hp text position v.1
termination_by (text.size - position, p.height w.label)
decreasing_by
  · have hlt := lt_size_of_move? hmove
    exact .left _ _ (by omega)
  · exact .right _ (hp.height_lt (label_of_mem_branches v.2))

variable (hp : p.Falls) (text : Array Char)

theorem prefer_eq (position : Nat) (w : Way) :
    hp.prefer text position w =
      if p.accepts w.label then some (w, position)
      else match p.move? text[position]? w with
        | some v => hp.prefer text (position + 1) v
        | none =>
          (p.branches (charBefore text position) text[position]? (position + 1) w).findSome?
            (hp.prefer text position) := by
  rw [prefer]
  split
  next => rfl
  next =>
    split
    next hmove => rw [hmove]
    next hmove =>
      rw [hmove]
      exact findSome?_attach _ _

theorem prefer_of_accepts {position : Nat} {w : Way} (h : p.accepts w.label = true) :
    hp.prefer text position w = some (w, position) := by
  rw [prefer_eq, if_pos h]

/-- A way that waits goes on behind the character at hand, if it is not accepted. -/
theorem prefer_of_waits {position : Nat} {w : Way} (h : p.waits w.label = true) :
    hp.prefer text position w =
      if p.accepts w.label then some (w, position)
      else (p.move? text[position]? w).bind (hp.prefer text (position + 1)) := by
  rw [prefer_eq, branches_of_waits h]
  cases p.move? text[position]? w <;> rfl

/-- Any other way goes on as the first of its branches of which something comes. -/
theorem prefer_of_not_waits {position : Nat} {w : Way} (h : p.waits w.label = false) :
    hp.prefer text position w =
      (p.branches (charBefore text position) text[position]? (position + 1) w).findSome?
        (hp.prefer text position) := by
  have haccepts : p.accepts w.label = false := by
    refine Bool.eq_false_iff.mpr fun haccepts => ?_
    rw [waits_of_accepts haccepts] at h
    cases h
  rw [prefer_eq, haccepts, if_neg Bool.false_ne_true]
  cases hmove : p.move? text[position]? w with
  | none => rfl
  | some v =>
    rw [waits_of_move? hmove] at h
    cases h

/-- Whether something comes of a way is a matter of its label. -/
theorem isSome_prefer (position : Nat) {w v : Way} (h : v.label = w.label) :
    (hp.prefer text position v).isSome = (hp.prefer text position w).isSome := by
  fun_induction prefer hp text position w generalizing v with
  | case1 position w haccepts =>
    rw [prefer_of_accepts hp text (h ▸ haccepts)]
    rfl
  | case2 position w haccepts w' hmove ih =>
    obtain ⟨v', hmove', hlabel⟩ := label_move? h hmove
    rw [prefer_eq, h, if_neg haccepts, hmove']
    exact ih hlabel
  | case3 position w haccepts hmove ih =>
    have hmove' : p.move? text[position]? v = none := by
      cases hv : p.move? text[position]? v with
      | none => rfl
      | some v' =>
        obtain ⟨w', hw, -⟩ := label_move? h.symm hv
        cases hmove.symm.trans hw
    rw [findSome?_attach, prefer_eq, h, if_neg haccepts, hmove']
    dsimp only
    rw [List.isSome_findSome?, List.isSome_findSome?, branches, branches, h, List.any_map,
      List.any_map, Bool.eq_iff_iff, List.any_eq_true, List.any_eq_true]
    refine exists_congr fun l => and_congr_right fun hl => ?_
    exact Bool.eq_iff_iff.mp (ih ⟨_, List.mem_map_of_mem hl⟩ rfl)

theorem prefer_eq_none_of_label {position : Nat} {w v : Way} (h : v.label = w.label)
    (hw : hp.prefer text position w = none) : hp.prefer text position v = none := by
  have hsome := hp.isSome_prefer text position h
  rwa [hw, Option.isSome_none, Option.isSome_eq_false_iff, Option.isNone_iff_eq_none] at hsome

/-- The first outcome of ways that are at a position. -/
def first (position : Nat) (ws : List Way) : Option (Way × Nat) :=
  ws.findSome? (hp.prefer text position)

theorem first_nil (position : Nat) : hp.first text position [] = none := rfl

theorem first_append (position : Nat) (ws vs : List Way) :
    hp.first text position (ws ++ vs) =
      (hp.first text position ws).or (hp.first text position vs) :=
  List.findSome?_append

theorem first_singleton (position : Nat) (w : Way) :
    hp.first text position [w] = hp.prefer text position w := by
  rw [first, List.findSome?_cons, List.findSome?_nil]
  cases hp.prefer text position w <;> rfl

theorem first_cons (position : Nat) (w : Way) (ws : List Way) :
    hp.first text position (w :: ws) =
      (hp.prefer text position w).or (hp.first text position ws) := by
  rw [← List.singleton_append, first_append, first_singleton]

end Falls

/-! ## Following ways -/

namespace Follows

variable {stack : List Way} {fr fr' : Front}

/-- The ways at the bottom of a stack have their turn after those on top. -/
theorem split (top bottom : List Way)
    (h : p.Follows before after round (top ++ bottom) fr fr') :
    ∃ mid, p.Follows before after round top fr mid ∧
      p.Follows before after round bottom mid fr' := by
  generalize hstack : top ++ bottom = stack at h
  induction h generalizing top with
  | done fr =>
    obtain ⟨rfl, rfl⟩ := List.append_eq_nil_iff.mp hstack
    exact ⟨fr, .done fr, .done fr⟩
  | @skip w more fr fr' hseen hrest ih =>
    cases top with
    | nil =>
      cases hstack
      exact ⟨fr, .done fr, .skip hseen hrest⟩
    | cons v top =>
      cases hstack
      obtain ⟨mid, htop, hbottom⟩ := ih top rfl
      exact ⟨mid, .skip hseen htop, hbottom⟩
  | @visit w more fr fr' hnot hrest ih =>
    cases top with
    | nil =>
      cases hstack
      exact ⟨fr, .done fr, .visit hnot hrest⟩
    | cons v top =>
      cases hstack
      obtain ⟨mid, htop, hbottom⟩ := ih (p.branches before after round w ++ top) (List.append_assoc _ _ _)
      exact ⟨mid, .visit hnot htop, hbottom⟩

/-- The ways that are put behind those of a front wait. -/
theorem waiting (h : p.Follows before after round stack fr fr')
    (hfr : ∀ w ∈ fr.ways.toList, p.waits w.label = true) :
    ∀ w ∈ fr'.ways.toList, p.waits w.label = true := by
  induction h with
  | done fr => exact hfr
  | skip _ _ ih => exact ih hfr
  | visit _ _ ih =>
    refine ih ?_
    rw [ways_visit]
    refine List.forall_mem_append.mpr ⟨hfr, ?_⟩
    intro v hv
    obtain ⟨rfl, hwaits⟩ := of_mem_stopped hv
    exact hwaits

/-- What is visited is not higher than the stack. -/
theorem height_le (hp : p.Falls) (h : p.Follows before after round stack fr fr') {l : Nat}
    (hl : fr'.Seen round l) : fr.Seen round l ∨ ∃ w ∈ stack, p.height l ≤ p.height w.label := by
  induction h with
  | done fr => exact .inl hl
  | skip _ _ ih =>
    rcases ih hl with hseen | ⟨w, hw, hle⟩
    · exact .inl hseen
    · exact .inr ⟨w, List.mem_cons_of_mem _ hw, hle⟩
  | @visit w more fr fr' _ _ ih =>
    rcases ih hl with hseen | ⟨v, hv, hle⟩
    · rcases seen_visit.mp hseen with hseen | ⟨rfl, -⟩
      · exact .inl hseen
      · exact .inr ⟨w, List.mem_cons_self, Nat.le_refl _⟩
    · rcases List.mem_append.mp hv with hv | hv
      · have hlt := hp.height_lt (label_of_mem_branches hv)
        exact .inr ⟨w, List.mem_cons_self, Nat.le_trans hle (Nat.le_of_lt hlt)⟩
      · exact .inr ⟨v, List.mem_cons_of_mem _ hv, hle⟩

end Follows

namespace Falls

variable {text : Array Char} {position : Nat} {fr fr' : Front}

/-- If nothing comes of the ways of a front, nothing comes of the labels that were visited, as far
as they are below a height. -/
def Covers (hp : p.Falls) (text : Array Char) (position : Nat) (fr : Front) (height : Nat) : Prop :=
  hp.first text position fr.ways.toList = none → ∀ l, fr.Seen (position + 1) l →
    p.height l < height → ∀ w : Way, w.label = l → hp.prefer text position w = none

/-- The front after a visit to a label where ways wait. -/
theorem first_visit_of_waits (hp : p.Falls) {w : Way} (h : p.waits w.label = true) :
    hp.first text position (p.visit (position + 1) w fr).ways.toList =
      (hp.first text position fr.ways.toList).or (hp.prefer text position w) := by
  rw [ways_visit, if_pos h, first_append, first_singleton]

theorem first_visit_of_not_waits (hp : p.Falls) {w : Way} (h : p.waits w.label = false) :
    hp.first text position (p.visit (position + 1) w fr).ways.toList =
      hp.first text position fr.ways.toList := by
  rw [ways_visit, h, if_neg Bool.false_ne_true, List.append_nil]

/-- Where ways wait, a visit adds its way to those of the front. -/
theorem covers_visit_of_waits (hp : p.Falls) {w : Way} {height : Nat}
    (h : p.waits w.label = true) (hcovers : hp.Covers text position fr height) :
    hp.Covers text position (p.visit (position + 1) w fr) height := by
  intro hnone l hl hlt v hv
  rw [hp.first_visit_of_waits h] at hnone
  obtain ⟨hfirst, hw⟩ := Option.or_eq_none_iff.mp hnone
  rcases seen_visit.mp hl with hl | ⟨rfl, -⟩
  · exact hcovers hfirst l hl hlt v hv
  · exact hp.prefer_eq_none_of_label text hv hw

/-- Elsewhere the visit says nothing of the ways that get below its label. -/
theorem covers_visit_of_not_waits (hp : p.Falls) {w : Way} {height : Nat}
    (h : p.waits w.label = false) (hlt : p.height w.label < height)
    (hcovers : hp.Covers text position fr height) :
    hp.Covers text position (p.visit (position + 1) w fr) (p.height w.label) := by
  intro hnone l hl hless v hv
  rw [hp.first_visit_of_not_waits h] at hnone
  rcases seen_visit.mp hl with hl | ⟨rfl, -⟩
  · exact hcovers hnone l hl (Nat.lt_trans hless hlt) v hv
  · exact absurd hless (Nat.lt_irrefl _)

/-- Following one way, if this is known of its branches. -/
theorem first_follows_singleton (hp : p.Falls) {w : Way} {height : Nat}
    (hbranches : ∀ {fr₁ fr₂ : Front},
      p.Follows (charBefore text position) text[position]? (position + 1)
        (p.branches (charBefore text position) text[position]? (position + 1) w) fr₁ fr₂ →
      hp.Covers text position fr₁ (p.height w.label) →
      hp.first text position fr₂.ways.toList = (hp.first text position fr₁.ways.toList).or
          (hp.first text position
            (p.branches (charBefore text position) text[position]? (position + 1) w)) ∧
        hp.Covers text position fr₂ (p.height w.label))
    (h : p.Follows (charBefore text position) text[position]? (position + 1) [w] fr fr')
    (hlt : p.height w.label < height) (hcovers : hp.Covers text position fr height) :
    hp.first text position fr'.ways.toList =
        (hp.first text position fr.ways.toList).or (hp.prefer text position w) ∧
      hp.Covers text position fr' height := by
  cases h with
  | skip hseen hrest =>
    cases hrest
    refine ⟨?_, hcovers⟩
    cases hfirst : hp.first text position fr.ways.toList with
    | none => rw [hcovers hfirst _ hseen hlt w rfl, Option.or_none]
    | some found => rfl
  | visit hnot hrest =>
    rw [List.append_nil] at hrest
    cases hwaits : p.waits w.label with
    | true =>
      rw [branches_of_waits hwaits] at hrest
      cases hrest
      exact ⟨hp.first_visit_of_waits hwaits, hp.covers_visit_of_waits hwaits hcovers⟩
    | false =>
      obtain ⟨hfirst, hbelow⟩ := hbranches hrest (hp.covers_visit_of_not_waits hwaits hlt hcovers)
      rw [hp.first_visit_of_not_waits hwaits] at hfirst
      have hprefer : hp.prefer text position w = hp.first text position _ :=
        hp.prefer_of_not_waits text hwaits
      rw [hprefer]
      refine ⟨hfirst, ?_⟩
      intro hnone l hl hless v hv
      have hboth := hnone
      rw [hfirst] at hboth
      obtain ⟨hold, hnew⟩ := Option.or_eq_none_iff.mp hboth
      -- The label was visited before, it is the one of the way, or it is below that.
      rcases hrest.height_le hp hl with hseen | ⟨b, hb, hle⟩
      · rcases seen_visit.mp hseen with hseen | ⟨rfl, -⟩
        · exact hcovers hold l hseen hless v hv
        · exact hp.prefer_eq_none_of_label text hv (hprefer.trans hnew)
      · have hlow := Nat.lt_of_le_of_lt hle (hp.height_lt (label_of_mem_branches hb))
        exact hbelow hnone l hl hlow v hv

/-- Following ways keeps what comes of them, and which visited labels need no second visit. -/
theorem first_follows (hp : p.Falls) {stack : List Way} {height : Nat}
    (h : p.Follows (charBefore text position) text[position]? (position + 1) stack fr fr')
    (hstack : ∀ w ∈ stack, p.height w.label < height) (hcovers : hp.Covers text position fr height) :
    hp.first text position fr'.ways.toList =
        (hp.first text position fr.ways.toList).or (hp.first text position stack) ∧
      hp.Covers text position fr' height := by
  induction height using Nat.strongRecOn generalizing stack fr fr' with
  | _ height ih =>
    induction stack generalizing fr with
    | nil =>
      cases h
      rw [first_nil, Option.or_none]
      exact ⟨rfl, hcovers⟩
    | cons w more ihstack =>
      obtain ⟨hw, hmore⟩ := List.forall_mem_cons.mp hstack
      obtain ⟨mid, htop, hbottom⟩ := Follows.split [w] more h
      obtain ⟨hmid, hcovers⟩ := hp.first_follows_singleton
        (fun hfollows => ih _ hw hfollows fun v hv => hp.height_lt (label_of_mem_branches hv))
        htop hw hcovers
      obtain ⟨hfirst, hcovers⟩ := ihstack hbottom hmore hcovers
      refine ⟨?_, hcovers⟩
      rw [hfirst, hmid, first_cons, Option.or_assoc]

/-! ## Moving over a character -/

theorem Covers.mono {hp : p.Falls} {low high : Nat} (h : hp.Covers text position fr high)
    (hle : low ≤ high) : hp.Covers text position fr low :=
  fun hnone l hl hlt => h hnone l hl (Nat.lt_of_lt_of_le hlt hle)

/-- A front between two turns: its ways wait, and no visited label needs a second visit. -/
structure Ready (hp : p.Falls) (text : Array Char) (position : Nat) (fr : Front) : Prop where
  fits : p.Fits (position + 1) fr
  waiting : ∀ w ∈ fr.ways.toList, p.waits w.label = true
  covers : ∀ height, hp.Covers text position fr height

theorem ready_of_older {hp : p.Falls} (hfits : p.Fits (position + 1) fr)
    (hnil : fr.ways.toList = []) (holder : fr.Older (position + 1)) :
    hp.Ready text position fr := by
  refine ⟨hfits, ?_, fun _ _ l hl => absurd hl (holder.not_seen l)⟩
  rw [hnil]
  exact nofun

theorem Ready.follow {hp : p.Falls} (h : hp.Ready text position fr) (w : Way) :
    hp.first text position (p.follow (charBefore text position) text[position]? (position + 1)
        p.roundFuel [w] fr).ways.toList =
        (hp.first text position fr.ways.toList).or (hp.prefer text position w) ∧
      hp.Ready text position (p.follow (charBefore text position) text[position]? (position + 1)
        p.roundFuel [w] fr) := by
  have hfollows := follows_roundFuel (charBefore text position) text[position]? (position + 1)
    h.fits.size w
  have hcovers : ∀ height, p.height w.label < height → _ := fun height hlt =>
    hp.first_follows hfollows (List.forall_mem_singleton.mpr hlt) (h.covers height)
  refine ⟨?_, h.fits.follow w, hfollows.waiting h.waiting, ?_⟩
  · rw [(hcovers _ (Nat.lt_succ_self _)).1, first_singleton]
  · intro height
    exact (hcovers (height + p.height w.label + 1) (by omega)).2.mono (by omega)

/-- Moving ways over a character keeps what comes of them. -/
theorem Ready.advance {hp : p.Falls} {ws : List Way} (h : hp.Ready text (position + 1) fr)
    (hws : ∀ w ∈ ws, p.waits w.label = true) {accepted : Option Way} {next : Front}
    (hadvance : p.advance text[position]? text[position + 1]? text[position]? (position + 2) ws fr =
      (accepted, next)) :
    (hp.first text (position + 1) next.ways.toList).or (accepted.map (·, position)) =
        (hp.first text (position + 1) fr.ways.toList).or (hp.first text position ws) ∧
      hp.Ready text (position + 1) next := by
  induction ws generalizing fr with
  | nil =>
    cases hadvance
    exact ⟨rfl, h⟩
  | cons w more ih =>
    obtain ⟨hw, hmore⟩ := List.forall_mem_cons.mp hws
    rw [advance_cons] at hadvance
    rw [first_cons, hp.prefer_of_waits text hw]
    split at hadvance
    next haccepts =>
      cases hadvance
      rw [if_pos haccepts]
      exact ⟨rfl, h⟩
    next haccepts =>
      rw [if_neg haccepts]
      split at hadvance
      next v hmove =>
        obtain ⟨hfirst, hready⟩ := h.follow v
        obtain ⟨hrest, hready⟩ := ih hready hmore hadvance
        refine ⟨?_, hready⟩
        rw [hrest, hmove, Option.bind_some, ← Option.or_assoc]
        exact congrArg (fun x : Option (Way × Nat) => x.or (hp.first text position more)) hfirst
      next hmove =>
        rw [hmove, Option.bind_none, Option.none_or]
        exact ih h hmore hadvance

end Falls

/-! ## Runs -/

/-- At the end of the text nothing moves on. -/
theorem advance_none (ws : List Way) (fr : Front) :
    (p.advance before after none round ws fr).2 = fr := by
  induction ws with
  | nil => rfl
  | cons w more ih =>
    rw [advance_cons]
    split
    next => rfl
    next =>
      have hnone : p.move? none w = none := by
        unfold move?
        split
        next h => cases h
        next => rfl
      rw [hnone]
      exact ih

theorem ways_moved_of_size_le (p : Program) {text : Array Char} {position : Nat}
    (h : text.size ≤ position) (fr : Front) : (p.moved text position fr).2.ways.toList = [] := by
  rw [moved, Array.getElem?_eq_none h, advance_none]

/-- The way that starts at a position. -/
def entering (p : Program) (position : Nat) : Way :=
  { label := p.entry, start := position }

namespace Falls

variable {text : Array Char} {position : Nat} {fr : Front}

/-- What comes of the ways that start at a number of positions. -/
def starts (hp : p.Falls) (text : Array Char) (position count : Nat) : Option (Way × Nat) :=
  (List.range' position count).findSome? fun q => hp.prefer text q (p.entering q)

theorem starts_zero (hp : p.Falls) : hp.starts text position 0 = none := rfl

theorem starts_succ (hp : p.Falls) (count : Nat) :
    hp.starts text position (count + 1) =
      (hp.prefer text position (p.entering position)).or (hp.starts text (position + 1) count) := by
  rw [starts, List.range'_succ, List.findSome?_cons]
  cases hp.prefer text position (p.entering position) <;> rfl

theorem Ready.entered {hp : p.Falls} (h : hp.Ready text position fr) (best : Option (Way × Nat)) :
    hp.Ready text position (p.entered text position fr best) := by
  cases best with
  | none => exact (h.follow (p.entering position)).2
  | some found => exact h

/-- The way that starts at a position counts only if nothing was found before. -/
theorem Ready.first_entered {hp : p.Falls} (h : hp.Ready text position fr)
    (best : Option (Way × Nat)) (count : Nat) :
    (hp.first text position (p.entered text position fr best).ways.toList).or
        (best.or (hp.starts text (position + 1) count)) =
      (hp.first text position fr.ways.toList).or
        (best.or (hp.starts text position (count + 1))) := by
  cases best with
  | none =>
    rw [Option.none_or, Option.none_or, starts_succ, ← Option.or_assoc]
    rw [← (h.follow (p.entering position)).1]
    rfl
  | some found => rfl

theorem Ready.moved {hp : p.Falls} (h : hp.Ready text position fr) {accepted : Option Way}
    {next : Front} (hmoved : p.moved text position fr = (accepted, next)) :
    (hp.first text (position + 1) next.ways.toList).or (accepted.map (·, position)) =
        hp.first text position fr.ways.toList ∧
      hp.Ready text (position + 1) next := by
  obtain ⟨hfits, holder⟩ := h.fits.next #[]
  obtain ⟨hfirst, hready⟩ := (ready_of_older hfits rfl holder).advance h.waiting hmoved
  exact ⟨hfirst, hready⟩

/-- Where no way is left, what was found is what the run comes to. -/
theorem eq_of_stops {hp : p.Falls} {best : Option (Way × Nat)}
    (hstops : (fr.ways.isEmpty && best.isSome) = true) (later : Option (Way × Nat)) :
    best = (hp.first text position fr.ways.toList).or (best.or later) := by
  obtain ⟨hnil, hsome⟩ := Bool.and_eq_true_iff.mp hstops
  obtain ⟨found, rfl⟩ := Option.isSome_iff_exists.mp hsome
  rw [Array.isEmpty_iff.mp hnil]
  rfl

/-- Ways come to the same in a run as one after the other.  Behind them comes what was found before,
and behind that the ways that start later. -/
theorem Ready.run {hp : p.Falls} {left : Nat} (hsize : text.size = position + left)
    (h : hp.Ready text position fr) (best : Option (Way × Nat)) :
    p.run text left position fr best =
      (hp.first text position fr.ways.toList).or (best.or (hp.starts text position (left + 1))) := by
  induction left generalizing position fr best with
  | zero =>
    rw [run_eq, ← h.first_entered]
    split
    next hstops => exact eq_of_stops hstops _
    next =>
      cases hmoved : p.moved text position (p.entered text position fr best) with
      | mk accepted next =>
        obtain ⟨hfirst, -⟩ := (h.entered best).moved hmoved
        have hnil : (p.moved text position (p.entered text position fr best)).2.ways.toList = [] :=
          p.ways_moved_of_size_le (Nat.le_of_eq hsize) _
        rw [hmoved] at hnil
        rw [hnil, first_nil, Option.none_or] at hfirst
        rw [starts_zero, Option.or_none, ← hfirst]
  | succ left ih =>
    rw [run_eq, ← h.first_entered]
    split
    next hstops => exact eq_of_stops hstops _
    next =>
      cases hmoved : p.moved text position (p.entered text position fr best) with
      | mk accepted next =>
        obtain ⟨hfirst, hready⟩ := (h.entered best).moved hmoved
        dsimp only
        rw [ih (by omega) hready, ← hfirst, Option.or_assoc, Option.or_assoc]

/-- A search finds what comes of the first way of which something comes, if one starts at each
position and a fork is left for its other branch only when nothing comes of the preferred one. -/
theorem find?_eq (hp : p.Falls) (text : Array Char) {from_ : Nat} (h : from_ ≤ text.size) :
    p.find? text from_ = (hp.starts text from_ (text.size - from_ + 1)).bind fun (w, stop) =>
      matchOf? text.size from_ w stop := by
  have hsize : text.size = from_ + (text.size - from_) := by omega
  have hready : hp.Ready text from_ p.blank :=
    ready_of_older (p.fits_start _) rfl (p.fits_start from_).older
  rw [Program.find?_eq _ hsize, hready.run hsize]
  rfl

end Falls

end BlockNotes.Pattern.Program
