import BlockNotes.Proofs.Autoformat.Fenced
import BlockNotes.Proofs.Autoformat.Shortcut

/-!
# Inputs happen or do not

A command that stops leaves the document alone, but an input may be dealt with by
several commands.  Steps are *all or nothing* if they have changed nothing where they
stop (`AllOrNothing`).  A handler is all or nothing if its first command is and
all that follows *completes* (`Completes`).  So each proof here is about the
path, the identity or the points that are found before the first command and
used after it.  Taking a trigger away and looking for a fence are known to complete
(`DraftM.exists_shortcut`, `DraftM.exists_checkFence_ok`).

The documents are ready (`Document.Ready`).  Elsewhere it fails: a block that holds
both leaves and blocks can come apart when the first command has it brought
into normal form.
-/

namespace BlockNotes

/-! ## Steps -/

section Steps

variable {σ α β : Type} {m : EStateM Halt σ α} {f : α → EStateM Halt σ β} {s t : σ}

/-- The steps come to their end. -/
def Completes (m : EStateM Halt σ α) (s : σ) : Prop :=
  ∃ a t, m s = .ok a t

/-- Where the steps stop, the state is as before. -/
def AllOrNothing (m : EStateM Halt σ α) (s : σ) : Prop :=
  ∀ halt t, m s = .error halt t → t = s

theorem Completes.pure (a : α) : Completes (Pure.pure a : EStateM Halt σ α) s :=
  ⟨a, s, rfl⟩

theorem Completes.step {a : α} (hm : m s = .ok a t) (hf : Completes (f a) t) :
    Completes (m >>= f) s := by
  obtain ⟨b, u, hok⟩ := hf
  exact ⟨b, u, (bind_of_ok hm).trans hok⟩

theorem Completes.allOrNothing (h : Completes m s) : AllOrNothing m s := by
  obtain ⟨a, t, hok⟩ := h
  intro halt u herr
  cases hok.symm.trans herr

namespace AllOrNothing

theorem pure (a : α) : AllOrNothing (Pure.pure a : EStateM Halt σ α) s :=
  (Completes.pure a).allOrNothing

theorem throw {halt : Halt} : AllOrNothing (throw halt : EStateM Halt σ α) s := by
  intro halt' t h
  cases h
  rfl

theorem get {f : σ → EStateM Halt σ β} (hf : AllOrNothing (f s) s) : AllOrNothing (get >>= f) s :=
  hf

/-- Behind a step that changes something the rest has to complete. -/
theorem bind (hm : AllOrNothing m s) (hf : ∀ a t, m s = .ok a t → Completes (f a) t) :
    AllOrNothing (m >>= f) s := by
  intro halt u h
  cases hrun : m s with
  | ok a t =>
    obtain ⟨b, v, hok⟩ := hf a t hrun
    rw [bind_of_ok hrun, hok] at h
    cases h
  | error halt' t =>
    rw [bind_of_error hrun] at h
    cases h
    exact hm _ _ hrun

end AllOrNothing

end Steps

namespace DraftM

variable {α β : Type} {s : Draft} {c : Command} {p : Patch} {d' : Document}

/-! ## Commands and questions -/

theorem allOrNothing_perform (hd : s.document.ids.Nodup) (c : Command) :
    AllOrNothing (perform c) s := by
  intro halt t h
  rw [perform_eq] at h
  cases happly : s.document.apply c with
  | mk result d =>
    rw [happly] at h
    cases result with
    | ok p => cases h
    | error halt' =>
      cases h
      have hsame := (Document.applied_apply hd c).eq_of_error (congrArg Prod.fst happly)
      rw [happly] at hsame
      cases hsame
      rfl

/-- A command that succeeds, and what completes behind it. -/
theorem completes_perform {f : Unit → DraftM β} (h : s.document.apply c = (.ok p, d'))
    (hf : Completes (f ⟨⟩) { s with document := d' }) : Completes (perform c >>= f) s :=
  .step (perform_of_ok h) hf

theorem allOrNothing_orRefuse {o : Option α} {e : DocumentError} {f : α → DraftM β}
    (h : ∀ a, o = some a → AllOrNothing (f a) s) : AllOrNothing (orRefuse o e >>= f) s := by
  cases o with
  | none => exact .throw
  | some a => exact h a rfl

theorem allOrNothing_ofExcept {o : Except DocumentError α} {f : α → DraftM β}
    (h : ∀ a, o = .ok a → AllOrNothing (f a) s) : AllOrNothing (ofExcept o >>= f) s := by
  cases o with
  | error e => exact .throw
  | ok a => exact h a rfl

theorem allOrNothing_orLost {o : Option α} {f : α → DraftM β}
    (h : ∀ a, o = some a → AllOrNothing (f a) s) : AllOrNothing (orLost o >>= f) s := by
  cases o with
  | none => exact .throw
  | some a => exact h a rfl

theorem pointIn_of_eq_some {id : BlockId} {k : Nat} {q : Point}
    (h : s.document.pointIn? id k = some q) : pointIn id k s = .ok q s := by
  show orRefuse (s.document.pointIn? id k) _ s = _
  rw [h]
  rfl

/-! ## Leaving a list -/

variable {path : Path} {b : Block}

/-- A block that holds leaves is found again after it has left its list. -/
theorem leaveList_cases (hd : s.document.Ready) (hb : s.document.blockAt? path = some b)
    (htext : b.isTextBlock = true) :
    (∃ halt, leaveList path b.id s = .error halt s) ∨
      ∃ path' c t, leaveList path b.id s = .ok path' t ∧ t.document.Regular ∧
        t.document.blockAt? path' = some c := by
  unfold leaveList
  rw [get_bind]
  dsimp only
  split
  next =>
    cases happly : s.document.apply (.liftBlock path) with
    | mk result d' =>
      cases result with
      | error halt =>
        have hsame :=
          (Document.applied_apply hd.regular.nodup _).eq_of_error (congrArg Prod.fst happly)
        rw [happly] at hsame
        cases hsame
        exact .inl ⟨halt, bind_of_error (perform_of_error happly)⟩
      | ok p =>
        obtain ⟨hregular, path', c, hfind, hc⟩ :=
          hd.regular.exists_findPath?_lifted hd.lt happly hb htext
        refine .inr ⟨path', c, { s with document := d' }, ?_, hregular, hc⟩
        rw [bind_of_ok (perform_of_ok happly), get_bind]
        dsimp only
        rw [hfind]
        rfl
  next =>
    refine .inr ⟨path, b, s, ?_, hd.regular, hb⟩
    rw [get_bind, Document.findPath?_of_blockAt? hd.regular.nodup hb]
    rfl

theorem allOrNothing_leaveList (hd : s.document.Ready) (hb : s.document.blockAt? path = some b)
    (htext : b.isTextBlock = true) {f : Path → DraftM β}
    (hf : ∀ path' c t, t.document.Regular → t.document.blockAt? path' = some c →
      Completes (f path') t) :
    AllOrNothing (leaveList path b.id >>= f) s := by
  rcases leaveList_cases hd hb htext with ⟨halt, herr⟩ | ⟨path', c, t, hok, ht, hc⟩
  · intro halt' u h
    rw [bind_of_error herr] at h
    cases h
    rfl
  · exact (Completes.step hok (hf path' c t ht hc)).allOrNothing

/-! ## Inputs -/

theorem allOrNothing_forwardInsert (hd : s.document.ids.Nodup) (text : Text) :
    AllOrNothing (forwardInsert text) s :=
  (allOrNothing_perform hd _).bind fun _ _ _ => .pure _

theorem allOrNothing_forwardDelete (hd : s.document.ids.Nodup) (unit : DeleteUnit) :
    AllOrNothing (forwardDelete unit) s :=
  (allOrNothing_perform hd _).bind fun _ _ _ => .pure _

theorem allOrNothing_insertText (hd : s.document.Ready) (text : Text) :
    AllOrNothing (insertText text) s := by
  have hforward := allOrNothing_forwardInsert hd.regular.nodup text
  unfold insertText
  refine .get ?_
  dsimp only
  split
  next => exact hforward
  next path b hblock =>
    split
    next =>
      refine (allOrNothing_perform hd.regular.nodup _).bind ?_
      intro _ t _
      refine .step rfl ?_
      refine .step rfl ?_
      split
      next => exact .step rfl (.pure _)
      next => exact .pure _
    next =>
      split
      next => exact hforward
      next p hp =>
        split
        next => exact hforward
        next =>
          obtain ⟨r, n, hr, hsite⟩ := hd.exists_site hblock
          have hcursor : p = r.anchor := by
            unfold cursor? at hp
            rw [hr, Option.bind_some] at hp
            split at hp
            next => exact (Option.some.inj hp).symm
            next => cases hp
          subst hcursor
          obtain ⟨hfirst, -⟩ := hsite.startOf_eq
          refine allOrNothing_ofExcept ?_
          intro first' hfirst'
          cases hfirst.symm.trans hfirst'
          split
          next => exact hforward
          next t _ =>
            obtain ⟨before, after, htext, hbytes⟩ := Text.isBoundary_iff.mp hsite.isBoundary
            rw [← Block.text_eq_ownText hsite.isTextBlock] at htext
            obtain ⟨d', hrun, -⟩ := exists_shortcut hd hsite htext hbytes t
            exact Completes.allOrNothing ⟨_, _, hrun⟩

theorem allOrNothing_deleteBackward (hd : s.document.Ready) (unit : DeleteUnit) :
    AllOrNothing (deleteBackward unit) s := by
  have hforward := allOrNothing_forwardDelete hd.regular.nodup unit
  have hrevert : ∀ (path : Path) (kind : Kind), AllOrNothing (do
      perform (.setKind path .paragraph)
      pure (Transition.reverted kind)) s := fun _ _ =>
    (allOrNothing_perform hd.regular.nodup _).bind fun _ _ _ => .pure _
  unfold deleteBackward
  refine .get ?_
  dsimp only
  split
  next p path b _ hblock =>
    refine allOrNothing_ofExcept ?_
    intro q _
    split
    next => exact hforward
    next =>
      split
      next => exact hrevert _ _
      next => exact hforward
    next =>
      split
      next =>
        obtain ⟨r, n, -, hsite⟩ := hd.exists_site hblock
        refine allOrNothing_leaveList hd hsite.blockAt? hsite.isTextBlock ?_
        intro path' c t ht hc
        obtain ⟨_, d', c', hkind, -⟩ := ht.exists_setKind hc .paragraph
        exact completes_perform hkind (.pure _)
      next => exact hforward
    next =>
      split
      next => exact hrevert _ _
      next => exact hforward
  next => exact hforward

theorem allOrNothing_checkFence (hd : s.document.Ready) : AllOrNothing checkFence s :=
  Completes.allOrNothing (exists_checkFence_ok hd)

/-! ## The tabulator key -/

theorem allOrNothing_pointIn {id : BlockId} {k : Nat} {f : Point → DraftM β}
    (h : ∀ q, s.document.pointIn? id k = some q → AllOrNothing (f q) s) :
    AllOrNothing (pointIn id k >>= f) s := by
  show AllOrNothing (orRefuse _ _ >>= f) s
  exact allOrNothing_orRefuse h

theorem allOrNothing_textAround {id : BlockId} {k : Nat} {f : Text × Text → DraftM β}
    (h : ∀ x, AllOrNothing (f x) s) : AllOrNothing (textAround id k >>= f) s := by
  show AllOrNothing (orLost _ >>= f) s
  exact allOrNothing_orLost fun x _ => h x

theorem allOrNothing_outdentAt (hd : s.document.Regular) {unit : Text} {anchor : Point} {n : Nat}
    (hsite : s.document.Site anchor path b n) : AllOrNothing (outdentAt unit anchor) s := by
  unfold outdentAt
  refine .get (allOrNothing_ofExcept ?_)
  intro q hq
  cases hsite.blockPoint_eq.symm.trans hq
  refine allOrNothing_textAround ?_
  rintro ⟨before, after⟩
  dsimp only
  split
  next => exact .pure _
  next =>
    refine allOrNothing_pointIn ?_
    intro first hfirst
    refine allOrNothing_pointIn ?_
    intro last hlast
    obtain ⟨_, hfirst⟩ := hd.exists_site_of_pointIn? hsite.blockAt? hfirst
    obtain ⟨_, hlast⟩ := hd.exists_site_of_pointIn? hsite.blockAt? hlast
    obtain ⟨m', n', hstart, hstop⟩ := Document.exists_site_start_stop hfirst hlast
    obtain ⟨_, d', c, hdelete, hreworked, -⟩ := hd.exists_deleteRange hstart hstop
    obtain ⟨q, k, hq, hpoint⟩ := hreworked.cursor.exists_pointIn? _
    rw [hreworked.id_eq] at hq
    refine (completes_perform hdelete (.step (pointIn_of_eq_some hq) ?_)).allOrNothing
    exact ⟨_, _, perform_of_ok (Document.apply_select hpoint hpoint)⟩

theorem allOrNothing_reindent (hd : s.document.Regular) {unit : Text} {outdent : Bool} {r : Range}
    {n : Nat} (hsite : s.document.Site r.anchor path b n) (hvoid : b.kind.isVoid = false) :
    AllOrNothing (reindent unit outdent r) s := by
  unfold reindent
  refine .get (allOrNothing_ofExcept ?_)
  intro start hstart
  refine allOrNothing_ofExcept ?_
  intro stop hstop
  split
  next => exact .pure _
  next hsame =>
    -- The anchor is one of the two ends, so both are in its block.
    have hid : start.block = b.id := by
      have hends : r.start = r.anchor ∨ r.stop = r.anchor := by
        unfold Range.start Range.stop
        split
        next => exact .inl rfl
        next => exact .inr rfl
      rcases hends with heq | heq
      · rw [heq] at hstart
        cases hstart.symm.trans hsite.blockPoint_eq
        rfl
      · rw [heq] at hstop
        cases hstop.symm.trans hsite.blockPoint_eq
        exact Decidable.not_not.mp hsame
    rw [hid]
    refine allOrNothing_textAround ?_
    rintro ⟨before, _⟩
    refine allOrNothing_textAround ?_
    rintro ⟨upTo, _⟩
    refine allOrNothing_orLost ?_
    rintro ⟨_, touched⟩ _
    refine allOrNothing_pointIn ?_
    intro first hfirst
    refine allOrNothing_pointIn ?_
    intro last hlast
    obtain ⟨_, hfirst⟩ := hd.exists_site_of_pointIn? hsite.blockAt? hfirst
    obtain ⟨_, hlast⟩ := hd.exists_site_of_pointIn? hsite.blockAt? hlast
    obtain ⟨m', n', hstart, hstop⟩ := Document.exists_site_start_stop hfirst hlast
    obtain ⟨_, d₁, c, hdelete, hreworked, hsame, -⟩ := hd.exists_deleteRange hstart hstop
    obtain ⟨_, d₂, c', hinsert, hreworked', -⟩ := hreworked.cursor.exists_insertText (hsame ▸ hvoid)
      (Indent.reindent unit outdent touched)
    have hid : c'.id = b.id := (hreworked.trans hreworked').id_eq
    obtain ⟨front, _, hfront, hpoint⟩ := hreworked'.cursor.exists_pointIn?
      (start.offset - before.lastLine.bytes)
    obtain ⟨back, _, hback, hpoint'⟩ := hreworked'.cursor.exists_pointIn?
      (start.offset - before.lastLine.bytes + (Indent.reindent unit outdent touched).bytes)
    rw [hid] at hfront hback
    refine (completes_perform hdelete (completes_perform hinsert
      (.step (pointIn_of_eq_some hfront) (.step (pointIn_of_eq_some hback) ?_)))).allOrNothing
    split
    next => exact ⟨_, _, perform_of_ok (Document.apply_select hpoint' hpoint)⟩
    next => exact ⟨_, _, perform_of_ok (Document.apply_select hpoint hpoint')⟩

/-- The key is for code blocks, where text can be put in. -/
theorem allOrNothing_tab (hd : s.document.Ready) {unit : Text} {outdent : Bool}
    (hblock : s.document.currentBlock? = some (path, b)) (hcode : b.kind.isCode = true) :
    AllOrNothing (tab unit outdent) s := by
  have hvoid : b.kind.isVoid = false := by
    cases hkind : b.kind with
    | image url =>
      rw [hkind] at hcode
      cases hcode
    | _ => rfl
  obtain ⟨r, n, hr, hsite⟩ := hd.exists_site hblock
  unfold tab
  refine .get ?_
  rw [hr]
  dsimp only
  split
  next =>
    split
    next => exact allOrNothing_outdentAt hd.regular hsite
    next => exact allOrNothing_perform hd.regular.nodup _
  next => exact allOrNothing_reindent hd.regular hsite hvoid

end DraftM

end BlockNotes
