import BlockNotes.Document.Edit

/-!
# Steps that change a state and may stop

Edits, inputs to a draft and operations of an editor are all steps that change a
state and may stop.  What is said here is about any of them.

A *progress* is what steps may do to a state: a relation from earlier to later
states that holds of no step and of two steps if it holds of each, and a property
of states that it keeps.  Steps *keep* a progress if they lead along it however
they end (`Keeps`).  This goes through sequences without a word about the values
that are passed on, so a handler with many branches is one `Keeps.bind` after
another.  Along with it goes whether the steps can be lost.
-/

namespace BlockNotes

variable {σ α β : Type}

theorem bind_of_ok {m : EStateM Halt σ α} {f : α → EStateM Halt σ β} {s t : σ} {a : α}
    (h : m s = .ok a t) : (m >>= f) s = f a t := by
  show EStateM.bind m f s = _
  rw [EStateM.bind, h]

theorem bind_of_error {m : EStateM Halt σ α} {f : α → EStateM Halt σ β} {s t : σ} {halt : Halt}
    (h : m s = .error halt t) : (m >>= f) s = .error halt t := by
  show EStateM.bind m f s = _
  rw [EStateM.bind, h]

/-- Steps that look at the state first. -/
@[simp] theorem get_bind (f : σ → EStateM Halt σ α) (s : σ) : (get >>= f) s = f s s :=
  rfl

/-- Steps that come to their end do so one after another. -/
theorem exists_of_bind_ok {m : EStateM Halt σ α} {f : α → EStateM Halt σ β} {s u : σ} {b : β}
    (h : (m >>= f) s = .ok b u) : ∃ a t, m s = .ok a t ∧ f a t = .ok b u := by
  cases hrun : m s with
  | ok a t => exact ⟨a, t, rfl, (bind_of_ok hrun).symm.trans h⟩
  | error halt t => cases (bind_of_error hrun).symm.trans h

/-- Steps without their answer. -/
theorem discard_eq (m : EStateM Halt σ α) :
    Functor.discard m = m >>= fun _ => pure PUnit.unit := by
  funext s
  show EStateM.map (fun _ => PUnit.unit) m s = EStateM.bind m (fun _ => pure ⟨⟩) s
  rw [EStateM.map, EStateM.bind]
  cases m s <;> rfl

/-- From a state the steps are lost. -/
def Lost (m : EStateM Halt σ α) (s : σ) : Prop :=
  ∃ t, m s = .error .lost t

theorem not_lost_of_ok {m : EStateM Halt σ α} {s t : σ} {a : α} (h : m s = .ok a t) : ¬ Lost m s := by
  rintro ⟨u, hlost⟩
  cases h.symm.trans hlost

theorem lost_iff_of_error {m : EStateM Halt σ α} {s t : σ} {halt : Halt} (h : m s = .error halt t) :
    Lost m s ↔ halt = .lost := by
  constructor
  · rintro ⟨u, hlost⟩
    cases h.symm.trans hlost
    rfl
  · rintro rfl
    exact ⟨t, h⟩

/-- An answer that is given afterwards is never lost. -/
theorem lost_bind_pure_iff {m : EStateM Halt σ α} {s : σ} (b : β) :
    Lost (m >>= fun _ => pure b) s ↔ Lost m s := by
  cases hrun : m s with
  | ok a t => exact iff_of_false (not_lost_of_ok (bind_of_ok hrun)) (not_lost_of_ok hrun)
  | error halt t => rw [lost_iff_of_error (bind_of_error hrun), lost_iff_of_error hrun]

/-- What steps may do to a state. -/
structure Progress (σ : Type) where
  /-- The states that are in order. -/
  Good : σ → Prop
  /-- Where steps may lead. -/
  Leads : σ → σ → Prop
  /-- They may do nothing. -/
  refl : ∀ s, Leads s s
  /-- They may be done one after another. -/
  trans : ∀ {s t u}, Leads s t → Leads t u → Leads s u
  /-- They lead to states in order. -/
  good : ∀ {s t}, Good s → Leads s t → Good t

/-- From a state in order the steps lead along a progress, however they end.  They are lost only
under a condition. -/
def Keeps (P : Progress σ) (L : Prop) (m : EStateM Halt σ α) : Prop :=
  ∀ s, P.Good s → (∀ a t, m s = .ok a t → P.Leads s t) ∧
    ∀ halt t, m s = .error halt t → P.Leads s t ∧ (halt = .lost → L)

namespace Keeps

variable {P : Progress σ} {L : Prop} {m : EStateM Halt σ α} {f : α → EStateM Halt σ β}

theorem pure (a : α) : Keeps P L (Pure.pure a : EStateM Halt σ α) := by
  intro s _
  refine ⟨?_, ?_⟩
  · intro b t h
    cases h
    exact P.refl s
  · intro halt t h
    cases h

/-- Stopping changes nothing. -/
theorem throw {halt : Halt} (hlost : halt = .lost → L) :
    Keeps P L (throw halt : EStateM Halt σ α) := by
  intro s _
  refine ⟨?_, ?_⟩
  · intro b t h
    cases h
  · intro halt' t h
    cases h
    exact ⟨P.refl s, hlost⟩

theorem bind (hm : Keeps P L m) (hf : ∀ a, Keeps P L (f a)) : Keeps P L (m >>= f) := by
  intro s hs
  obtain ⟨hok, herr⟩ := hm s hs
  cases hrun : m s with
  | ok a t =>
    rw [bind_of_ok hrun]
    have hst := hok a t hrun
    obtain ⟨hok', herr'⟩ := hf a t (P.good hs hst)
    refine ⟨?_, ?_⟩
    · intro b u h
      exact P.trans hst (hok' b u h)
    · intro halt u h
      obtain ⟨htu, hlost⟩ := herr' halt u h
      exact ⟨P.trans hst htu, hlost⟩
  | error halt t =>
    rw [bind_of_error hrun]
    refine ⟨?_, ?_⟩
    · intro b u h
      cases h
    · intro halt' u h
      cases h
      exact herr halt t hrun

theorem discard (hm : Keeps P L m) : Keeps P L (Functor.discard m) := by
  rw [discard_eq]
  exact hm.bind fun _ => .pure _

theorem get {f : σ → EStateM Halt σ β} (hf : ∀ s, Keeps P L (f s)) : Keeps P L (get >>= f) :=
  fun s hs => hf s s hs

/-- What is done may rely on the state to be in order. -/
theorem get_of_good {f : σ → EStateM Halt σ β} (hf : ∀ s, P.Good s → Keeps P L (f s)) :
    Keeps P L (MonadState.get >>= f) :=
  fun s hs => hf s hs s hs

/-- Changing the state as the progress allows. -/
theorem modify {g : σ → σ} (hg : ∀ s, P.Good s → P.Leads s (g s)) :
    Keeps P L (modify g : EStateM Halt σ PUnit) := by
  intro s hs
  refine ⟨?_, ?_⟩
  · intro b t h
    cases h
    exact hg s hs
  · intro halt t h
    cases h

/-- Steps that are never lost. -/
theorem not_lost (hm : Keeps P False m) {s : σ} (hs : P.Good s) : ¬ Lost m s := by
  rintro ⟨t, h⟩
  exact ((hm s hs).2 _ t h).2 rfl

end Keeps

/-- From one state the steps lead along a progress, however they end.  They are lost only under a
condition, which may be about this state. -/
def KeepsFrom (P : Progress σ) (L : Prop) (m : EStateM Halt σ α) (s : σ) : Prop :=
  (∀ a t, m s = .ok a t → P.Leads s t) ∧
    ∀ halt t, m s = .error halt t → P.Leads s t ∧ (halt = .lost → L)

namespace KeepsFrom

variable {P : Progress σ} {L : Prop} {m : EStateM Halt σ α} {f : α → EStateM Halt σ β} {s : σ}

theorem of_keeps (h : Keeps P L m) (hs : P.Good s) : KeepsFrom P L m s :=
  h s hs

theorem mono {L' : Prop} (h : KeepsFrom P L m s) (hL : L → L') : KeepsFrom P L' m s :=
  ⟨h.1, fun halt t herr => ⟨(h.2 halt t herr).1, fun hlost => hL ((h.2 halt t herr).2 hlost)⟩⟩

/-- A question is answered, and nothing has changed. -/
theorem ask {a : α} (hm : m s = .ok a s) (hf : KeepsFrom P L (f a) s) : KeepsFrom P L (m >>= f) s := by
  unfold KeepsFrom
  rw [bind_of_ok hm]
  exact hf

/-- A question is not answered. -/
theorem stop {halt : Halt} (hm : m s = .error halt s) (hlost : halt = .lost → L) :
    KeepsFrom P L (m >>= f) s := by
  unfold KeepsFrom
  rw [bind_of_error hm]
  refine ⟨nofun, ?_⟩
  intro halt' t h
  cases h
  exact ⟨P.refl s, hlost⟩

/-- The steps are known to come to their end. -/
theorem of_ok {a : α} {t : σ} (hm : m s = .ok a t) (h : P.Leads s t) : KeepsFrom P L m s := by
  refine ⟨?_, ?_⟩
  · intro b u hok
    cases hm.symm.trans hok
    exact h
  · intro halt u herr
    cases hm.symm.trans herr

/-- The steps are known to stop. -/
theorem of_error {halt : Halt} {t : σ} (hm : m s = .error halt t) (h : P.Leads s t)
    (hlost : halt = .lost → L) : KeepsFrom P L m s := by
  refine ⟨?_, ?_⟩
  · intro b u hok
    cases hm.symm.trans hok
  · intro halt' u herr
    cases hm.symm.trans herr
    exact ⟨h, hlost⟩

end KeepsFrom

/-! ## Where steps end -/

/-- The state that steps come to, also if they stop. -/
def endOf (m : EStateM Halt σ α) (s : σ) : σ :=
  match m s with
  | .ok _ t => t
  | .error _ t => t

/-- An answer that is given afterwards changes nothing. -/
theorem endOf_bind_pure (m : EStateM Halt σ α) (f : α → β) (s : σ) :
    endOf (m >>= fun a => pure (f a)) s = endOf m s := by
  unfold endOf
  cases hrun : m s with
  | ok a t => rw [bind_of_ok hrun]; rfl
  | error halt t => rw [bind_of_error hrun]

theorem KeepsFrom.leads_endOf {P : Progress σ} {L : Prop} {m : EStateM Halt σ α} {s : σ}
    (h : KeepsFrom P L m s) : P.Leads s (endOf m s) := by
  unfold endOf
  cases hrun : m s with
  | ok a t => exact h.1 a t hrun
  | error halt t => exact (h.2 halt t hrun).1

end BlockNotes
