import BlockNotes.Proofs.Document.Replacement

/-!
# Clearing the selection

Inserting a text and splitting a block begin in the same way: the selection is
cleared (`EditM.clearing`), and the edit goes on at the place that is left of it
(`EditM.insertAt`, `EditM.splitAt`).

What is done to the tree does not look at the selection again, once its ends have
been read off, and it does not change the selection either.  Steps of this sort are
*blind* (`EditM.Blind`): whatever the selection is, they come to the same end.  As
the edits end with a cursor at a place of their own, the selection that they began
with is forgotten when they are finished (`Document.committed_withSelection`).
-/

namespace BlockNotes

/-- A document with another selection. -/
def Document.withSelection (d : Document) (s : Option Range) : Document :=
  { d with selection := s }

namespace EditM

/-! ## Blind steps -/

/-- The end of steps, with another selection in the document. -/
def reselect {α : Type} (s : Option Range) :
    EStateM.Result Halt Document α → EStateM.Result Halt Document α
  | .ok a d => .ok a (d.withSelection s)
  | .error e d => .error e (d.withSelection s)

/-- Steps that neither look at the selection nor change it. -/
def Blind {α : Type} (m : EditM α) : Prop :=
  ∀ d s, m (d.withSelection s) = reselect s (m d)

namespace Blind

variable {α β : Type} {m : EditM α} {f : α → EditM β}

theorem pure (a : α) : Blind (Pure.pure a : EditM α) :=
  fun _ _ => rfl

theorem throw (e : Halt) : Blind (throw e : EditM α) :=
  fun _ _ => rfl

theorem bind (hm : Blind m) (hf : ∀ a, Blind (f a)) : Blind (m >>= f) := by
  intro d s
  have hrun := hm d s
  cases h : m d with
  | ok a d' =>
    rw [h] at hrun
    rw [bind_of_ok hrun, bind_of_ok h]
    exact hf a d' s
  | error e d' =>
    rw [h] at hrun
    rw [bind_of_error hrun, bind_of_error h]
    rfl

/-- What is asked of the document is not about the selection. -/
theorem get {f : Document → EditM β} (hsame : ∀ d s, f (Document.withSelection d s) = f d)
    (hf : ∀ d, Blind (f d)) : Blind (MonadState.get >>= f) := by
  intro d s
  rw [get_bind, get_bind, hsame]
  exact hf d d s

theorem ofExcept (o : Except DocumentError α) : Blind (EditM.ofExcept o) := by
  cases o with
  | ok a => exact .pure a
  | error e => exact .throw _

theorem orRefuse (o : Option α) (e : DocumentError) : Blind (EditM.orRefuse o e) := by
  cases o with
  | some a => exact .pure a
  | none => exact .throw _

theorem orLost (o : Option α) : Blind (EditM.orLost o) := by
  cases o with
  | some a => exact .pure a
  | none => exact .throw _

theorem putChildren (path : Path) (ns : List Node) : Blind (EditM.putChildren path ns) :=
  fun _ _ => rfl

theorem issueId : Blind EditM.issueId :=
  fun _ _ => rfl

theorem editable (id : BlockId) : Blind (EditM.editable id) := by
  refine .get (fun _ _ => rfl) fun d => .bind (.orRefuse _ _) fun path => ?_
  split
  next =>
    split
    next => exact .pure _
    next => exact .throw _
  next => exact .throw _

theorem editChildren (id : BlockId) (f : Block → Option (List Node)) :
    Blind (EditM.editChildren id f) := by
  refine .get (fun _ _ => rfl) fun d => ?_
  split
  next => exact .pure _
  next =>
    split
    next => exact .pure _
    next => exact .bind (.orLost _) fun ns => .putChildren _ ns

theorem removeNode (path : Path) : Blind (EditM.removeNode path) := by
  refine .get (fun _ _ => rfl) fun d => ?_
  split
  next => exact .pure _
  next =>
    split
    next => exact .pure _
    next =>
      split
      next => exact .putChildren _ _
      next => exact .pure _

theorem forM {g : α → EditM PUnit} (hg : ∀ a, Blind (g a)) (as : List α) : Blind (as.forM g) := by
  induction as with
  | nil => exact .pure _
  | cons a as ih => exact .bind (hg a) fun _ => ih

/-- A block takes other children, and blocks go away. -/
theorem joinAndRemove (id : BlockId) (f : Block → Option (List Node)) (xs : List (Path × Block))
    (a : α) :
    Blind (do
      EditM.editChildren id f
      xs.forM fun (path, _) => EditM.removeNode path
      Pure.pure a) :=
  .bind (.editChildren _ _) fun _ => .bind (.forM (fun _ => .removeNode _) _) fun _ => .pure _

theorem deleteRange (r : Range) : Blind (EditM.deleteRange r) := by
  refine .get (fun _ _ => rfl) fun d => .bind (.ofExcept _) fun start =>
    .bind (.ofExcept _) fun stop => ?_
  split
  next => exact .bind (.editChildren _ _) fun _ => .pure _
  next =>
    dsimp only
    split
    next first last _ _ =>
      split
      next => exact .throw _
      next =>
        -- The block at the end is cut, if it is there, and then it is the same for all cases.
        split
        next => exact .bind (.pure _) fun _ => .joinAndRemove _ _ _ _
        next =>
          split
          next => exact .bind (.pure _) fun _ => .joinAndRemove _ _ _ _
          next =>
            exact .bind (.orLost _) fun _ => .bind (.putChildren _ _) fun _ =>
              .bind (.pure _) fun _ => .joinAndRemove _ _ _ _
    next => exact .throw _

end Blind

/-! ## The edits in two parts -/

/-- Clears a selection, and gives the place that is left of it. -/
def clearing (s : Range) (anchor : BlockPoint) : EditM (BlockPoint × List BlockId) :=
  if s.isCollapsed then pure (anchor, [])
  else do
    let start ← ofExcept ((← get).blockPoint s.start)
    let _ ← editable start.block
    deleteRange s

/-- Puts text in at a place. -/
def insertAt (text : Text) (x : BlockPoint × List BlockId) : EditM Effect := do
  let _ ← editable x.1.block
  if text.isEmpty then pure (.goTo x.2 x.1)
  else
    editChildren x.1.block fun b => Node.insertText? b.children x.1.offset text
    pure (.goTo (x.2 ++ [x.1.block]) ⟨x.1.block, x.1.offset + text.bytes⟩)

/-- Splits a block at a place. -/
def splitAt (x : BlockPoint × List BlockId) : EditM Effect := do
  let d ← get
  let path ← orRefuse (d.findPath? x.1.block) (.invalidPath [])
  let b ← orRefuse (d.blockAt? path) (.invalidPath path)
  let (front, back) ← orLost (Node.splitLeaves? b.children x.1.offset)
  putChildren path front
  let id ← issueId
  let fresh : Block := { Block.ofKind b.kind back with id }
  let (parent, index) ← splitPath path
  match Node.childrenAt? (← get).children parent with
  | none => pure ()
  | some siblings =>
    let siblings ← orLost (Node.splice? siblings (index + 1) (index + 1) [.block fresh])
    putChildren parent siblings
  pure (.goTo (x.2 ++ [x.1.block, id]) ⟨id, 0⟩)

/-- Whatever is done behind it, clearing a selection is one step. -/
theorem clearing_bind {α : Type} (s : Range) (anchor : BlockPoint)
    (f : BlockPoint × List BlockId → EditM α) :
    clearing s anchor >>= f =
      if s.isCollapsed then pure (anchor, []) >>= f
      else (do
        let start ← ofExcept ((← get).blockPoint s.start)
        let _ ← editable start.block
        let x ← deleteRange s
        f x) := by
  unfold clearing
  split
  next => rfl
  next => simp only [bind_assoc]

theorem insertText_eq (text : Text) :
    insertText text = selectionPoint >>= fun x => clearing x.1 x.2 >>= insertAt text := by
  refine congrArg (selectionPoint >>= ·) (funext ?_)
  rintro ⟨s, anchor⟩
  exact (clearing_bind s anchor (insertAt text)).symm

theorem splitBlock_eq :
    splitBlock = selectionPoint >>= fun x => editable x.2.block >>= fun _ =>
      clearing x.1 x.2 >>= splitAt := by
  refine congrArg (selectionPoint >>= ·) (funext ?_)
  rintro ⟨s, anchor⟩
  refine congrArg (editable anchor.block >>= ·) (funext fun _ => ?_)
  exact (clearing_bind s anchor splitAt).symm

namespace Blind

theorem clearing (s : Range) (anchor : BlockPoint) : Blind (EditM.clearing s anchor) := by
  unfold EditM.clearing
  split
  next => exact .pure _
  next =>
    exact .get (fun _ _ => rfl) fun _ => .bind (.ofExcept _) fun _ =>
      .bind (.editable _) fun _ => .deleteRange _

theorem insertAt (text : Text) (x : BlockPoint × List BlockId) : Blind (EditM.insertAt text x) := by
  refine .bind (.editable _) fun _ => ?_
  split
  next => exact .pure _
  next => exact .bind (.editChildren _ _) fun _ => .pure _

theorem splitAt (x : BlockPoint × List BlockId) : Blind (EditM.splitAt x) := by
  refine .get (fun _ _ => rfl) fun d => .bind (.orRefuse _ _) fun _ => .bind (.orRefuse _ _) fun _ =>
    .bind (.orLost _) fun _ => .bind (.putChildren _ _) fun _ => .bind .issueId fun _ =>
      .bind (.orRefuse _ _) fun _ => .get (fun _ _ => rfl) fun d' => ?_
  dsimp only
  split
  next => exact .pure _
  next => exact .bind (.orLost _) fun _ => .bind (.putChildren _ _) fun _ => .pure _

end Blind

/-! ## Both directions -/

/-- Points of which neither comes first are the same. -/
theorem eq_of_le_of_le {p q : Point} (hpq : p ≤ q) (hqp : q ≤ p) : p = q := by
  obtain ⟨path, offset⟩ := p
  obtain ⟨path', offset'⟩ := q
  have hpath : path = path' := by
    refine List.le_antisymm ?_ ?_
    · exact fun h => hpq (.inl h)
    · exact fun h => hqp (.inl h)
  subst hpath
  have hoffset : offset = offset' := by
    refine Nat.le_antisymm ?_ ?_
    · exact Nat.not_lt.mp fun h => hpq (.inr ⟨rfl, h⟩)
    · exact Nat.not_lt.mp fun h => hqp (.inr ⟨rfl, h⟩)
  subst hoffset
  rfl

theorem start_stop_swap (p q : Point) :
    Range.start ⟨p, q⟩ = Range.start ⟨q, p⟩ ∧ Range.stop ⟨p, q⟩ = Range.stop ⟨q, p⟩ := by
  unfold Range.start Range.stop
  by_cases hpq : p ≤ q
  · by_cases hqp : q ≤ p
    · cases eq_of_le_of_le hpq hqp
      exact ⟨rfl, rfl⟩
    · simp only [if_pos hpq, if_neg hqp, and_self]
  · have hqp : q ≤ p := by
      have hends := Document.le_stop ⟨p, q⟩
      simpa only [Range.start, Range.stop, if_neg hpq] using hends
    simp only [if_neg hpq, if_pos hqp, and_self]

theorem deleteRange_swap (p q : Point) : deleteRange ⟨p, q⟩ = deleteRange ⟨q, p⟩ := by
  obtain ⟨hstart, hstop⟩ := start_stop_swap p q
  unfold deleteRange
  rw [hstart, hstop]

/-- An expanded selection is cleared in the same way whichever of its ends it was begun at. -/
theorem clearing_swap {p q : Point} (hne : p ≠ q) (a b : BlockPoint) :
    clearing ⟨p, q⟩ a = clearing ⟨q, p⟩ b := by
  have hpq : Range.isCollapsed ⟨p, q⟩ = false := decide_eq_false hne
  have hqp : Range.isCollapsed ⟨q, p⟩ = false := decide_eq_false hne.symm
  unfold clearing
  rw [hpq, hqp, (start_stop_swap p q).1, deleteRange_swap p q]
  rfl

/-! ## What clearing comes to -/

variable {d d' : Document} {s : Range} {anchor : BlockPoint} {path : Path} {b : Block} {n : Nat}

/-- A block whose text cannot be edited is refused. -/
theorem editable_of_void (hd : d.ids.Nodup) (hb : d.blockAt? path = some b)
    (hvoid : b.kind.isVoid = true) :
    editable b.id d = .error (.refused (.notATextBlock path)) d := by
  unfold editable
  rw [get_bind, Document.findPath?_of_blockAt? hd hb]
  refine (bind_of_ok (a := path) (t := d) rfl).trans ?_
  simp only [hb, hvoid, Bool.not_true, Bool.and_false]
  rfl

/-- An expanded selection that starts where no text can be edited is not cleared. -/
theorem clearing_of_void (hd : d.ids.Nodup) (hsite : d.Site s.start path b n)
    (hvoid : b.kind.isVoid = true) (hexpanded : s.isCollapsed = false) :
    clearing s anchor d = .error (.refused (.notATextBlock path)) d := by
  unfold clearing
  rw [hexpanded, if_neg Bool.false_ne_true, get_bind, hsite.blockPoint_eq]
  refine (bind_of_ok (a := (⟨b.id, n⟩ : BlockPoint)) (t := d) rfl).trans ?_
  exact bind_of_error (editable_of_void hd hsite.blockAt? hvoid)

/-- The place that is left of a selection is ready if its block can be edited. -/
theorem Opened.ready {x : BlockPoint × List BlockId} {σ : Document.Seam} (h : Opened d s x d' σ)
    (hvoid : σ.block.kind.isVoid = false) : Ready x.1 d' := by
  obtain ⟨path, b, hin, htext, hkind⟩ := h.seam.exists_in
  exact ⟨h.seam.nodup, path, b, hin, htext, (congrArg Kind.isVoid hkind).trans hvoid⟩

/-- A selection that starts where text can be edited is cleared: a seam is left of it. -/
theorem certain_clearing (hd : d.Regular) (hs : d.AddressesBoth s)
    (hanchor : d.blockPoint s.anchor = .ok anchor) (hsite : d.Site s.start path b n)
    (hvoid : b.kind.isVoid = false) :
    Certain (clearing s anchor) d fun x d' =>
      Ready x.1 d' ∧ ∃ σ, Opened d s x d' σ ∧ σ.block = b := by
  have hanswers : Answers (clearing s anchor) d fun x d' => ∃ σ, Opened d s x d' σ := by
    rw [← bind_pure (clearing s anchor), clearing_bind]
    exact answers_clear hd hs hanchor fun x d' σ h => .pure ⟨σ, h⟩
  have hcertain : Certain (clearing s anchor) d fun _ _ => True := by
    unfold clearing
    split
    next => exact .pure trivial
    next =>
      refine .get (.ofExcept hsite.blockPoint_eq ?_)
      refine (certain_editable hd.nodup hsite.blockAt? hsite.isTextBlock hvoid).bind ?_
      rintro _ _ ⟨rfl, -⟩
      exact (certain_excise hd hs.start_stop.1 hs.start_stop.2).mono fun _ _ _ => trivial
  obtain ⟨x, d', hok, -⟩ := hcertain
  obtain ⟨σ, hopened⟩ := hanswers x d' hok
  have hblock : σ.block = b := by
    have hat := hopened.between.block
    rw [hsite.above_eq, hsite.blockAt?] at hat
    exact (Option.some.inj hat).symm
  exact ⟨x, d', hok, hopened.ready (hblock ▸ hvoid), σ, hopened, hblock⟩

end EditM

/-- A command is refused if its edit is. -/
theorem Document.refused_of_edit {d : Document} {c : Command} (hc : c.editsContent = true)
    {e : DocumentError} (h : d.edit c d = .error (.refused e) d) :
    d.apply c = (.error (.refused e), d) := by
  rw [apply, apply_eq hc, bind_of_error h]

end BlockNotes
