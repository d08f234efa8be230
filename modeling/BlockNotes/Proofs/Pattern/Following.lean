import BlockNotes.Pattern.Search

/-!
# Following ways through a program

`Program.follow` takes fuel, and a round has enough of it.  What it does with enough fuel is a
relation between a stack of ways, the front before and the front after (`Program.Follows`), which
visits one label at a time (`Program.visit`).  All that is known of a round is proved by induction
on this relation, so nothing else here mentions fuel.

A round closes the labels that it visits: they lead to visited labels only, and where one of them
waits for a character there is a way (`Program.Closing`).
-/

namespace BlockNotes.Pattern

namespace Front

/-- A label was visited in a round. -/
def Seen (fr : Front) (round l : Nat) : Prop :=
  fr.visited[l]? = some round

instance (fr : Front) (round l : Nat) : Decidable (fr.Seen round l) :=
  inferInstanceAs (Decidable (_ = _))

/-- The number of labels that were not visited in a round. -/
def unseen (fr : Front) (round : Nat) : Nat :=
  fr.visited.toList.countP (· ≠ round)

theorem unseen_le (fr : Front) (round : Nat) : fr.unseen round ≤ fr.visited.size :=
  Nat.le_trans List.countP_le_length (Nat.le_of_eq Array.length_toList)

/-- All visits were in earlier rounds. -/
def Older (fr : Front) (round : Nat) : Prop :=
  ∀ l k : Nat, fr.visited[l]? = some k → k < round

theorem Older.not_seen {fr : Front} {round : Nat} (h : fr.Older round) (l : Nat) :
    ¬ fr.Seen round l :=
  fun hseen => Nat.lt_irrefl _ (h l round hseen)

end Front

namespace Program

variable {p : Program} {before after : Option Char} {round : Nat}

/-! ## One visit -/

/-- The labels that a label leads to without a character. -/
def exits (p : Program) (before after : Option Char) (l : Nat) : List Nat :=
  match p.code[l]? with
  | some (.check a next) => if a.holds before after then [next] else []
  | some (.fork x y) => [x, y]
  | some (.mark _ next) => [next]
  | _ => []

/-- Whether ways stop at a label, to wait for a character or because they accept. -/
def waits (p : Program) (l : Nat) : Bool :=
  match p.code[l]? with
  | some (.consume ..) | some .accept => true
  | _ => false

/-- A way with what it notes at its label. -/
def noted (p : Program) (round : Nat) (w : Way) : Way :=
  match p.code[w.label]? with
  | some (.mark true _) => { w with opened := some (round - 1) }
  | some (.mark false _) => { w with closed := some (round - 1) }
  | _ => w

/-- The ways that a way goes on as. -/
def branches (p : Program) (before after : Option Char) (round : Nat) (w : Way) : List Way :=
  (p.exits before after w.label).map fun l => { p.noted round w with label := l }

/-- The front after a way has visited its label. -/
def visit (p : Program) (round : Nat) (w : Way) (fr : Front) : Front :=
  ⟨if p.waits w.label then fr.ways.push w else fr.ways, fr.visited.setIfInBounds w.label round⟩

theorem exits_length_le (p : Program) (before after : Option Char) (l : Nat) :
    (p.exits before after l).length ≤ 2 := by
  unfold exits
  split
  next => split <;> simp
  next => simp
  next => simp
  next => simp

theorem exits_of_size_le {l : Nat} (h : p.code.size ≤ l) : p.exits before after l = [] := by
  rw [exits, Array.getElem?_eq_none h]

theorem start_noted (p : Program) (round : Nat) (w : Way) : (p.noted round w).start = w.start := by
  unfold noted
  split <;> rfl

theorem start_of_mem_branches {w v : Way} (h : v ∈ p.branches before after round w) :
    v.start = w.start := by
  obtain ⟨l, -, rfl⟩ := List.mem_map.mp h
  exact start_noted p round w

theorem label_of_mem_branches {w v : Way} (h : v ∈ p.branches before after round w) :
    v.label ∈ p.exits before after w.label := by
  obtain ⟨l, hl, rfl⟩ := List.mem_map.mp h
  exact hl

theorem size_visit (w : Way) (fr : Front) : (p.visit round w fr).visited.size = fr.visited.size :=
  Array.size_setIfInBounds

theorem seen_visit {w : Way} {fr : Front} {l : Nat} :
    (p.visit round w fr).Seen round l ↔
      fr.Seen round l ∨ l = w.label ∧ w.label < fr.visited.size := by
  unfold Front.Seen visit
  rw [Array.getElem?_setIfInBounds]
  grind

theorem ways_visit (w : Way) (fr : Front) :
    (p.visit round w fr).ways.toList = fr.ways.toList ++ if p.waits w.label then [w] else [] := by
  unfold visit
  dsimp only
  split
  next => exact Array.toList_push
  next => exact (List.append_nil _).symm

theorem of_mem_stopped {w v : Way} (h : v ∈ if p.waits w.label then [w] else []) :
    v = w ∧ p.waits w.label = true := by
  split at h
  next hwaits => exact ⟨List.mem_singleton.mp h, hwaits⟩
  next => cases h

theorem older_visit {w : Way} {fr : Front} (h : fr.Older (round + 1)) :
    (p.visit round w fr).Older (round + 1) := by
  intro l k hk
  have hk : (fr.visited.setIfInBounds w.label round)[l]? = some k := hk
  rw [Array.getElem?_setIfInBounds] at hk
  split at hk
  next =>
    split at hk
    next => cases hk; exact Nat.lt_succ_self _
    next => cases hk
  next => exact h l k hk

theorem follow_cons (fuel : Nat) (w : Way) (more : List Way) (fr : Front) :
    p.follow before after round (fuel + 1) (w :: more) fr =
      if fr.Seen round w.label then p.follow before after round fuel more fr
      else p.follow before after round fuel (p.branches before after round w ++ more)
        (p.visit round w fr) := by
  obtain ⟨ways, visited⟩ := fr
  rw [follow]
  by_cases hseen : visited[w.label]? = some round
  · rw [if_pos hseen, if_pos (show Front.Seen ⟨ways, visited⟩ round w.label from hseen)]
  · rw [if_neg hseen, if_neg (show ¬ Front.Seen ⟨ways, visited⟩ round w.label from hseen)]
    unfold branches exits visit noted waits
    cases hcode : p.code[w.label]? with
    | none => rfl
    | some i =>
      cases i with
      | check a next =>
        dsimp only
        split <;> rfl
      | mark opens next => cases opens <;> rfl
      | _ => rfl

/-! ## Rounds -/

/-- What following ways does, one visit after another. -/
inductive Follows (p : Program) (before after : Option Char) (round : Nat) :
    List Way → Front → Front → Prop where
  /-- No way is left. -/
  | done (fr : Front) : Follows p before after round [] fr fr
  /-- The label was visited already. -/
  | skip {w : Way} {more : List Way} {fr fr' : Front} :
    fr.Seen round w.label → Follows p before after round more fr fr' →
    Follows p before after round (w :: more) fr fr'
  /-- The label is visited, and the way goes on from there. -/
  | visit {w : Way} {more : List Way} {fr fr' : Front} :
    ¬ fr.Seen round w.label →
    Follows p before after round (p.branches before after round w ++ more) (p.visit round w fr)
      fr' →
    Follows p before after round (w :: more) fr fr'

/-- A visit costs at most two ways more, and one label less is left. -/
theorem unseen_visit_lt (before after : Option Char) {w : Way} {fr : Front}
    (hsize : fr.visited.size = p.code.size) (h : ¬ fr.Seen round w.label) :
    (p.branches before after round w).length + 2 * (p.visit round w fr).unseen round ≤
      2 * fr.unseen round := by
  have hlength : (p.branches before after round w).length ≤ 2 :=
    Nat.le_trans (Nat.le_of_eq (List.length_map _)) (exits_length_le p before after w.label)
  by_cases hlt : w.label < fr.visited.size
  · have hne : fr.visited.toList[w.label] ≠ round := by
      intro heq
      exact h (by rw [Front.Seen, Array.getElem?_eq_getElem hlt, ← Array.getElem_toList, heq])
    have hpos : 0 < fr.unseen round :=
      List.countP_pos_iff.mpr ⟨_, List.getElem_mem (by simpa using hlt), by simpa using hne⟩
    have hunseen : (p.visit round w fr).unseen round = fr.unseen round - 1 := by
      unfold Front.unseen visit
      rw [Array.toList_setIfInBounds, List.countP_set (by simpa using hlt)]
      rw [if_pos (by simpa using hne), if_neg (by simp)]
      rfl
    omega
  · have hnone : p.branches before after round w = [] := by
      rw [branches, exits_of_size_le (by omega), List.map_nil]
    have hsame : (p.visit round w fr).unseen round = fr.unseen round := by
      unfold Front.unseen visit
      rw [Array.setIfInBounds_eq_of_size_le (by omega)]
    rw [hnone, hsame, List.length_nil]
    omega

theorem follows_follow {fuel : Nat} {stack : List Way} {fr : Front}
    (hsize : fr.visited.size = p.code.size)
    (h : stack.length + 2 * fr.unseen round ≤ fuel) :
    p.Follows before after round stack fr (p.follow before after round fuel stack fr) := by
  induction fuel generalizing stack fr with
  | zero =>
    cases stack with
    | nil => exact .done fr
    | cons w more => simp at h
  | succ fuel ih =>
    cases stack with
    | nil => exact .done fr
    | cons w more =>
      rw [follow_cons]
      rw [List.length_cons] at h
      split
      next hseen => exact .skip hseen (ih hsize (by omega))
      next hseen =>
        refine .visit hseen (ih ((size_visit w fr).trans hsize) ?_)
        have hcost := unseen_visit_lt before after hsize hseen
        rw [List.length_append]
        omega

/-- A round has fuel for a way. -/
theorem follows_roundFuel (before after : Option Char) (round : Nat) {fr : Front}
    (hsize : fr.visited.size = p.code.size) (w : Way) :
    p.Follows before after round [w] fr (p.follow before after round p.roundFuel [w] fr) := by
  refine follows_follow hsize ?_
  have hle := fr.unseen_le round
  rw [List.length_singleton, roundFuel]
  omega

namespace Follows

variable {stack : List Way} {fr fr' : Front}

theorem size (h : p.Follows before after round stack fr fr') :
    fr'.visited.size = fr.visited.size := by
  induction h with
  | done fr => rfl
  | skip _ _ ih => exact ih
  | visit _ _ ih => exact ih.trans (size_visit _ _)

/-- What was visited stays visited. -/
theorem seen (h : p.Follows before after round stack fr fr') {l : Nat} (hl : fr.Seen round l) :
    fr'.Seen round l := by
  induction h with
  | done fr => exact hl
  | skip _ _ ih => exact ih hl
  | visit _ _ ih => exact ih (seen_visit.mpr (.inl hl))

/-- The labels of the stack are visited, as far as the program has them. -/
theorem seen_of_mem (h : p.Follows before after round stack fr fr') {w : Way} (hw : w ∈ stack)
    (hlt : w.label < fr.visited.size) : fr'.Seen round w.label := by
  induction h with
  | done fr => cases hw
  | skip hseen hrest ih =>
    rcases List.mem_cons.mp hw with rfl | hw
    · exact hrest.seen hseen
    · exact ih hw hlt
  | visit _ hrest ih =>
    rcases List.mem_cons.mp hw with rfl | hw
    · exact hrest.seen (seen_visit.mpr (.inr ⟨rfl, hlt⟩))
    · exact ih (List.mem_append_right _ hw) ((size_visit _ _).symm ▸ hlt)

theorem older (h : p.Follows before after round stack fr fr') (hfr : fr.Older (round + 1)) :
    fr'.Older (round + 1) := by
  induction h with
  | done fr => exact hfr
  | skip _ _ ih => exact ih hfr
  | visit _ _ ih => exact ih (older_visit hfr)

/-- Behind the ways that wait new ones are put, which start where those of the stack do. -/
theorem ways (h : p.Follows before after round stack fr fr') :
    ∃ new, fr'.ways.toList = fr.ways.toList ++ new ∧
      ∀ v ∈ new, ∃ w ∈ stack, v.start = w.start := by
  induction h with
  | done fr => exact ⟨[], (List.append_nil _).symm, nofun⟩
  | skip _ _ ih =>
    obtain ⟨new, hnew, hstart⟩ := ih
    refine ⟨new, hnew, ?_⟩
    intro v hv
    obtain ⟨w, hw, heq⟩ := hstart v hv
    exact ⟨w, List.mem_cons_of_mem _ hw, heq⟩
  | @visit w more fr fr' _ _ ih =>
    obtain ⟨new, hnew, hstart⟩ := ih
    have hstart' : ∀ v ∈ new, ∃ u ∈ w :: more, v.start = u.start := by
      intro v hv
      obtain ⟨u, hu, heq⟩ := hstart v hv
      rcases List.mem_append.mp hu with hu | hu
      · exact ⟨w, List.mem_cons_self, heq.trans (start_of_mem_branches hu)⟩
      · exact ⟨u, List.mem_cons_of_mem _ hu, heq⟩
    refine ⟨(if p.waits w.label then [w] else []) ++ new, ?_, ?_⟩
    · rw [hnew, ways_visit, List.append_assoc]
    · refine List.forall_mem_append.mpr ⟨?_, hstart'⟩
      intro v hv
      exact ⟨w, List.mem_cons_self, by rw [(of_mem_stopped hv).1]⟩

end Follows

/-! ## What a round closes -/

/-- The visited labels lead to visited ones, to ones that the program does not have or to those of a
stack, and where they wait there are ways. -/
structure Closing (p : Program) (before after : Option Char) (round : Nat) (stack : List Way)
    (fr : Front) : Prop where
  exits : ∀ l, fr.Seen round l → ∀ l' ∈ p.exits before after l,
    p.code.size ≤ l' ∨ fr.Seen round l' ∨ ∃ w ∈ stack, w.label = l'
  waits : ∀ l, fr.Seen round l → p.waits l = true → ∃ w ∈ fr.ways.toList, w.label = l

theorem Closing.of_older {fr : Front} (h : fr.Older round) : p.Closing before after round [] fr :=
  ⟨fun l hl => absurd hl (h.not_seen l), fun l hl => absurd hl (h.not_seen l)⟩

/-- A way can be put on the stack. -/
theorem Closing.cons {stack : List Way} {fr : Front} (h : p.Closing before after round stack fr)
    (w : Way) : p.Closing before after round (w :: stack) fr := by
  refine ⟨?_, h.waits⟩
  intro l hl l' hl'
  rcases h.exits l hl l' hl' with hout | hseen | ⟨v, hv, heq⟩
  · exact .inl hout
  · exact .inr (.inl hseen)
  · exact .inr (.inr ⟨v, List.mem_cons_of_mem _ hv, heq⟩)

/-- A visit closes its label as far as the stack goes. -/
theorem Closing.visit {w : Way} {more : List Way} {fr : Front}
    (h : p.Closing before after round (w :: more) fr) (hsize : fr.visited.size = p.code.size) :
    p.Closing before after round (p.branches before after round w ++ more)
      (p.visit round w fr) := by
  refine ⟨?_, ?_⟩
  · intro l hl l' hl'
    rcases seen_visit.mp hl with hl | ⟨rfl, -⟩
    · rcases h.exits l hl l' hl' with hout | hseen | ⟨v, hv, rfl⟩
      · exact .inl hout
      · exact .inr (.inl (seen_visit.mpr (.inl hseen)))
      · rcases List.mem_cons.mp hv with rfl | hv
        · by_cases hlt : v.label < fr.visited.size
          · exact .inr (.inl (seen_visit.mpr (.inr ⟨rfl, hlt⟩)))
          · exact .inl (by omega)
        · exact .inr (.inr ⟨v, List.mem_append_right _ hv, rfl⟩)
    · refine .inr (.inr ⟨_, List.mem_append_left _ (List.mem_map_of_mem hl'), rfl⟩)
  · intro l hl hwaits
    rcases seen_visit.mp hl with hl | ⟨rfl, -⟩
    · obtain ⟨v, hv, heq⟩ := h.waits l hl hwaits
      refine ⟨v, ?_, heq⟩
      rw [ways_visit]
      exact List.mem_append_left _ hv
    · refine ⟨w, ?_, rfl⟩
      rw [ways_visit, if_pos hwaits]
      exact List.mem_append_right _ List.mem_cons_self

/-- At the end of a round nothing is left on the stack. -/
theorem Follows.closing {stack : List Way} {fr fr' : Front}
    (h : p.Follows before after round stack fr fr') (hsize : fr.visited.size = p.code.size)
    (hfr : p.Closing before after round stack fr) : p.Closing before after round [] fr' := by
  induction h with
  | done fr => exact hfr
  | @skip w more fr fr' hseen _ ih =>
    refine ih hsize ⟨?_, hfr.waits⟩
    intro l hl l' hl'
    rcases hfr.exits l hl l' hl' with hout | hseen' | ⟨v, hv, rfl⟩
    · exact .inl hout
    · exact .inr (.inl hseen')
    · rcases List.mem_cons.mp hv with rfl | hv
      · exact .inr (.inl hseen)
      · exact .inr (.inr ⟨v, hv, rfl⟩)
  | visit _ _ ih => exact ih ((size_visit _ _).trans hsize) (hfr.visit hsize)

/-! ## The rounds of a search -/

/-- Following ways comes to one front only. -/
theorem Follows.unique {stack : List Way} {fr fr₁ fr₂ : Front}
    (h₁ : p.Follows before after round stack fr fr₁)
    (h₂ : p.Follows before after round stack fr fr₂) : fr₁ = fr₂ := by
  induction h₁ with
  | done fr =>
    cases h₂
    rfl
  | skip hseen _ ih =>
    cases h₂ with
    | skip _ h₂ => exact ih h₂
    | visit hnot _ => exact absurd hseen hnot
  | visit hnot _ ih =>
    cases h₂ with
    | skip hseen _ => exact absurd hseen hnot
    | visit _ h₂ => exact ih h₂

/-- A front of a program up to a round. -/
structure Fits (p : Program) (round : Nat) (fr : Front) : Prop where
  size : fr.visited.size = p.code.size
  older : fr.Older (round + 1)

theorem fits_start (p : Program) (round : Nat) :
    p.Fits round ⟨#[], Array.replicate p.code.size 0⟩ := by
  refine ⟨Array.size_replicate, ?_⟩
  intro l k hk
  rw [Array.getElem?_replicate] at hk
  split at hk
  next => cases hk; exact Nat.succ_pos _
  next => cases hk

/-- In the next round nothing has been visited yet. -/
theorem Fits.next {fr : Front} (h : p.Fits round fr) (ways : Array Way) :
    p.Fits (round + 1) ⟨ways, fr.visited⟩ ∧ Front.Older ⟨ways, fr.visited⟩ (round + 1) :=
  ⟨⟨h.size, fun l k hk => Nat.lt_succ_of_lt (h.older l k hk)⟩, h.older⟩

theorem Fits.visit {fr : Front} (h : p.Fits round fr) (w : Way) :
    p.Fits round (p.visit round w fr) :=
  ⟨(size_visit w fr).trans h.size, older_visit h.older⟩

theorem Fits.follow {fr : Front} (h : p.Fits round fr) (w : Way) :
    p.Fits round (p.follow before after round p.roundFuel [w] fr) := by
  have hfollows := follows_roundFuel before after round h.size w
  exact ⟨hfollows.size.trans h.size, hfollows.older h.older⟩

/-- Where the ways of a front start, and those that are put behind them. -/
theorem start_follow {P : Nat → Prop} {fr : Front} (hsize : fr.visited.size = p.code.size)
    (hfr : ∀ w ∈ fr.ways.toList, P w.start) {w : Way} (hw : P w.start) :
    ∀ v ∈ (p.follow before after round p.roundFuel [w] fr).ways.toList, P v.start := by
  obtain ⟨new, hnew, hstart⟩ :=
    (follows_roundFuel before after round hsize w).ways
  rw [hnew]
  intro v hv
  rcases List.mem_append.mp hv with hv | hv
  · exact hfr v hv
  · obtain ⟨u, hu, heq⟩ := hstart v hv
    rw [List.mem_singleton.mp hu] at heq
    exact heq ▸ hw

/-! ## Moving over a character -/

/-- Whether a way is accepted at a label. -/
def accepts (p : Program) (l : Nat) : Bool :=
  match p.code[l]? with
  | some .accept => true
  | _ => false

/-- A way behind the character at hand, if it goes on there. -/
def move? (p : Program) (here : Option Char) (w : Way) : Option Way :=
  match p.code[w.label]?, here with
  | some (.consume chars label), some c =>
    if chars.contains c then some { w with label } else none
  | _, _ => none

theorem waits_of_accepts {l : Nat} (h : p.accepts l = true) : p.waits l = true := by
  unfold accepts at h
  unfold waits
  split at h
  next hcode => rw [hcode]
  next => cases h

theorem waits_of_move? {here : Option Char} {w v : Way} (h : p.move? here w = some v) :
    p.waits w.label = true := by
  unfold move? at h
  unfold waits
  split at h
  next hcode => rw [hcode]
  next => cases h

theorem start_of_move? {here : Option Char} {w v : Way} (h : p.move? here w = some v) :
    v.start = w.start := by
  unfold move? at h
  split at h
  next =>
    split at h
    next => cases h; rfl
    next => cases h
  next => cases h

/-- Where a way goes is a matter of its label. -/
theorem label_move? {here : Option Char} {w w' v : Way} (hlabel : w'.label = w.label)
    (h : p.move? here w = some v) : ∃ v', p.move? here w' = some v' ∧ v'.label = v.label := by
  unfold move? at h ⊢
  rw [hlabel]
  split at h
  next =>
    split at h
    next hmem =>
      cases h
      rw [if_pos hmem]
      exact ⟨_, rfl, rfl⟩
    next => cases h
  next => cases h

variable {here : Option Char}

theorem advance_cons (w : Way) (more : List Way) (fr : Front) :
    p.advance before after here round (w :: more) fr =
      if p.accepts w.label then (some w, fr)
      else match p.move? here w with
        | some v => p.advance before after here round more
            (p.follow before after round p.roundFuel [v] fr)
        | none => p.advance before after here round more fr := by
  rw [advance]
  unfold accepts move?
  cases p.code[w.label]? with
  | none => rfl
  | some i =>
    cases i with
    | consume chars label =>
      cases here with
      | none => rfl
      | some c =>
        dsimp only
        split <;> rfl
    | _ => rfl

/-- A way that accepts ends those behind it. -/
theorem advance_append (front back : List Way) (fr : Front) :
    p.advance before after here round (front ++ back) fr =
      match p.advance before after here round front fr with
      | (some w, fr') => (some w, fr')
      | (none, fr') => p.advance before after here round back fr' := by
  induction front generalizing fr with
  | nil => rfl
  | cons w more ih =>
    rw [List.cons_append, advance_cons, advance_cons]
    split
    next => rfl
    next =>
      split
      next => exact ih _
      next => exact ih _

theorem Fits.advance {fr : Front} (h : p.Fits round fr) (before after here : Option Char)
    (ws : List Way) :
    p.Fits round (p.advance before after here round ws fr).2 := by
  induction ws generalizing fr with
  | nil => exact h
  | cons w more ih =>
    rw [advance_cons]
    split
    next => exact h
    next =>
      split
      next v _ => exact ih (h.follow v)
      next => exact ih h

/-- Moving on changes nothing about where ways start. -/
theorem start_advance (before after here : Option Char) {P : Nat → Prop} {ws : List Way}
    {fr : Front} (h : p.Fits round fr)
    (hfr : ∀ w ∈ fr.ways.toList, P w.start) (hws : ∀ w ∈ ws, P w.start) :
    (∀ w, (p.advance before after here round ws fr).1 = some w → P w.start) ∧
      ∀ w ∈ (p.advance before after here round ws fr).2.ways.toList, P w.start := by
  induction ws generalizing fr with
  | nil => exact ⟨nofun, hfr⟩
  | cons w more ih =>
    obtain ⟨hw, hmore⟩ := List.forall_mem_cons.mp hws
    rw [advance_cons]
    split
    next =>
      refine ⟨?_, hfr⟩
      rintro _ ⟨⟩
      exact hw
    next =>
      split
      next v hv =>
        exact ih (h.follow v) (start_follow h.size hfr ((start_of_move? hv).symm ▸ hw)) hmore
      next => exact ih h hfr hmore

/-- What is known when ways have moved on and none was accepted. -/
structure Moved (p : Program) (before after here : Option Char) (round : Nat) (ws : List Way)
    (fr : Front) : Prop where
  /-- None accepts. -/
  accepts : ∀ w ∈ ws, p.accepts w.label = false
  /-- Where they went was visited, as far as the program has it. -/
  seen : ∀ w ∈ ws, ∀ v, p.move? here w = some v →
    p.code.size ≤ v.label ∨ fr.Seen round v.label
  /-- The round is closed. -/
  closing : p.Closing before after round [] fr

theorem moved_of_advance {ws : List Way} {fr fr' : Front} (hsize : fr.visited.size = p.code.size)
    (hfr : p.Closing before after round [] fr)
    (h : p.advance before after here round ws fr = (none, fr')) :
    p.Moved before after here round ws fr' ∧ ∀ l, fr.Seen round l → fr'.Seen round l := by
  induction ws generalizing fr with
  | nil =>
    cases h
    exact ⟨⟨nofun, nofun, hfr⟩, fun _ hl => hl⟩
  | cons w more ih =>
    rw [advance_cons] at h
    cases haccepts : p.accepts w.label with
    | true =>
      rw [haccepts] at h
      cases h
    | false =>
      rw [haccepts, if_neg Bool.false_ne_true] at h
      cases hmove : p.move? here w with
      | none =>
        rw [hmove] at h
        obtain ⟨hmoved, hseen⟩ := ih hsize hfr h
        refine ⟨⟨List.forall_mem_cons.mpr ⟨haccepts, hmoved.accepts⟩, ?_, hmoved.closing⟩, hseen⟩
        refine List.forall_mem_cons.mpr ⟨?_, hmoved.seen⟩
        intro v hv
        cases hmove.symm.trans hv
      | some v =>
        rw [hmove] at h
        have hfollows := follows_roundFuel before after round hsize v
        obtain ⟨hmoved, hseen⟩ :=
          ih (hfollows.size.trans hsize) (hfollows.closing hsize (hfr.cons v)) h
        refine ⟨⟨List.forall_mem_cons.mpr ⟨haccepts, hmoved.accepts⟩, ?_, hmoved.closing⟩,
          fun l hl => hseen l (hfollows.seen hl)⟩
        refine List.forall_mem_cons.mpr ⟨?_, hmoved.seen⟩
        intro v' hv
        cases hmove.symm.trans hv
        by_cases hlt : v.label < p.code.size
        · exact .inr (hseen _ (hfollows.seen_of_mem List.mem_cons_self (hsize ▸ hlt)))
        · exact .inl (by omega)

end Program

end BlockNotes.Pattern
