import BlockNotes.Proofs.Document.MadeOf
import BlockNotes.Proofs.Document.Selection

/-!
# What edits bring in

Edits move blocks and leaves around, cut and join texts, and bring in little of
their own: a kind that a command gives is made canonical first, and a leaf that is
put where there was none has no marks.  So whatever holds of canonical kinds and of
no marks stays true of everything in a document, if it is true of inserted blocks
(`Document.MadeOf.run`).

An edit *gives* something (`EditM.Gives`) if that holds of its answer, whatever the
document is, as long as the properties hold before; and then they hold afterwards.
Nothing is said about an edit that stops.  A command that stops leaves the document
alone, which is known from elsewhere (`EditM.checked_ofCommand`).
-/

namespace BlockNotes

/-! ## Edits -/

/-- A command brings in blocks that are made of certain kinds and marks. -/
def Command.MadeOf (K : Kind → Prop) (M : Marks → Prop) : Command → Prop
  | .insertBlock _ b => Node.MadeOf K M (.block b)
  | _ => True

/-- A command brings in only sound blocks, with canonical kinds and text without marks. -/
def Command.Plain : Command → Prop
  | .insertBlock _ b =>
    Node.MadeOf Kind.IsCanonical (· = {}) (.block b) ∧ b.Everywhere Block.Sound
  | _ => True

theorem Command.Plain.sound {c : Command} (h : c.Plain) : c.Sound := by
  cases c with
  | insertBlock path b => exact h.2
  | _ => trivial

namespace EditM

variable {α β : Type} {K : Kind → Prop} {M : Marks → Prop}

/-- Whatever answer the edit gives, the document is still made of certain kinds and marks, and
something holds of the answer. -/
def Gives (K : Kind → Prop) (M : Marks → Prop) (P : α → Prop) (m : EditM α) : Prop :=
  ∀ d : Document, d.MadeOf K M → Answers m d fun a d' => d'.MadeOf K M ∧ P a

namespace Gives

variable {m : EditM α} {f : α → EditM β} {P : α → Prop} {Q : β → Prop}

theorem bind (hm : Gives K M P m) (hf : ∀ a, P a → Gives K M Q (f a)) :
    Gives K M Q (m >>= f) := by
  intro d hd
  refine (hm d hd).bind ?_
  rintro a d' ⟨hd', ha⟩
  exact hf a ha d' hd'

theorem pure {a : α} (h : P a) : Gives K M P (Pure.pure a) :=
  fun _ hd => .pure ⟨hd, h⟩

theorem throw {halt : Halt} : Gives K M P (throw halt : EditM α) :=
  fun _ _ => .throw

theorem get {f : Document → EditM β} (h : ∀ d, d.MadeOf K M → Gives K M Q (f d)) :
    Gives K M Q (get >>= f) :=
  fun d hd => .get (h d hd d hd)

theorem modify {g : Document → Document} (h : ∀ d, d.MadeOf K M → (g d).MadeOf K M) :
    Gives K M (fun _ => True) (modify g : EditM PUnit) :=
  fun d hd => .modify (f := Pure.pure) (.pure ⟨h d hd, trivial⟩)

theorem orRefuse {o : Option α} {e : DocumentError} (h : ∀ a, o = some a → P a) :
    Gives K M P (EditM.orRefuse o e) := by
  cases o with
  | none => exact .throw
  | some a => exact .pure (h a rfl)

theorem ofExcept {o : Except DocumentError α} (h : ∀ a, o = .ok a → P a) :
    Gives K M P (EditM.ofExcept o) := by
  cases o with
  | error e => exact .throw
  | ok a => exact .pure (h a rfl)

theorem orLost {o : Option α} (h : ∀ a, o = some a → P a) : Gives K M P (EditM.orLost o) := by
  cases o with
  | none => exact .throw
  | some a => exact .pure (h a rfl)

theorem putChildren {p : Path} {ns : List Node} (h : Node.AllMadeOf K M ns) :
    Gives K M (fun _ => True) (EditM.putChildren p ns) :=
  .modify fun _ hd => hd.setChildren h p

theorem issueId : Gives K M (fun _ => True) EditM.issueId := by
  intro d hd i d' hok
  cases hok
  exact ⟨hd, trivial⟩

theorem removeNode (path : Path) : Gives K M (fun _ => True) (EditM.removeNode path) := by
  unfold EditM.removeNode
  refine .get ?_
  intro d hd
  split
  next => exact .pure trivial
  next parent index _ =>
    split
    next => exact .pure trivial
    next siblings hsiblings =>
      split
      next =>
        exact .putChildren ((hd.childrenAt? hsiblings).sublist (List.eraseIdx_sublist _ _))
      next => exact .pure trivial

theorem removeNodes (xs : List (Path × Block)) :
    Gives K M (fun _ => True) (xs.forM fun x => EditM.removeNode x.1) := by
  induction xs with
  | nil => exact .pure trivial
  | cons x xs ih => exact (removeNode x.1).bind fun _ _ => ih

theorem editable (id : BlockId) : Gives K M (fun _ => True) (EditM.editable id) := by
  unfold EditM.editable
  refine .get ?_
  intro d hd
  refine (orRefuse fun _ _ => trivial).bind ?_
  intro path _
  split
  next =>
    split
    next => exact .pure trivial
    next => exact .throw
  next => exact .throw

theorem selectionPoint : Gives K M (fun _ => True) EditM.selectionPoint := by
  unfold EditM.selectionPoint
  refine .get ?_
  intro d hd
  refine (orRefuse fun _ _ => trivial).bind ?_
  intro s _
  exact (ofExcept fun _ _ => trivial).bind fun _ _ => .pure trivial

theorem editChildren {id : BlockId} {f : Block → Option (List Node)}
    (hf : ∀ b ns, Node.AllMadeOf K M b.children → f b = some ns → Node.AllMadeOf K M ns) :
    Gives K M (fun _ => True) (EditM.editChildren id f) := by
  unfold EditM.editChildren
  refine .get ?_
  intro d hd
  split
  next => exact .pure trivial
  next path _ =>
    split
    next => exact .pure trivial
    next b hb =>
      refine (orLost fun ns hns => hf b ns (Node.madeOf_block.mp (hd.blockAt? hb)).2 hns).bind ?_
      intro ns hns
      exact .putChildren hns

end Gives

/-- The end of many edits: new nodes are put among siblings. -/
theorem gives_splice {siblings new : List Node} (hsiblings : Node.AllMadeOf K M siblings)
    (hnew : Node.AllMadeOf K M new) (path : Path) (start stop : Nat) (a : α) :
    Gives K M (fun _ => True) (do
      let ns ← orLost (Node.splice? siblings start stop new)
      putChildren path ns
      pure a) := by
  refine (Gives.orLost fun ns hns => hsiblings.splice? hnew hns).bind ?_
  intro ns hns
  exact (Gives.putChildren hns).bind fun _ _ => .pure trivial

/-! ### Text -/

/-- The end of a deletion between two blocks, which moves a tail to the block at its start. -/
theorem gives_joinAndRemove (id : BlockId) (start : Nat) {tail : List Node}
    (htail : Node.AllMadeOf K M tail) (xs : List (Path × Block)) (a : α) :
    Gives K M (fun _ => True) (do
      editChildren id fun b =>
        (Node.eraseText? start (Node.size b.children) b.children).map fun ns =>
          if b.kind.isVoid then ns else ns ++ tail
      xs.forM fun (path, _) => removeNode path
      pure a) := by
  have hjoin : ∀ (b : Block) (ns : List Node), Node.AllMadeOf K M b.children →
      ((Node.eraseText? start (Node.size b.children) b.children).map fun ns =>
        if b.kind.isVoid then ns else ns ++ tail) = some ns → Node.AllMadeOf K M ns := by
    intro b ns hb hns
    obtain ⟨ms, hms, rfl⟩ := Option.map_eq_some_iff.mp hns
    have hkept := hb.eraseText? hms
    split
    next => exact hkept
    next => exact Node.allMadeOf_append.mpr ⟨hkept, htail⟩
  refine (Gives.editChildren hjoin).bind ?_
  intro _ _
  exact (Gives.removeNodes xs).bind fun _ _ => .pure trivial

theorem gives_deleteRange (r : Range) : Gives K M (fun _ => True) (deleteRange r) := by
  unfold deleteRange
  refine .get ?_
  intro d hd
  refine (Gives.ofExcept fun _ _ => trivial).bind ?_
  intro start _
  refine (Gives.ofExcept fun _ _ => trivial).bind ?_
  intro stop _
  split
  next =>
    refine (Gives.editChildren fun b ns hb hns => hb.eraseText? hns).bind ?_
    intro _ _
    exact .pure trivial
  next =>
    dsimp only
    split
    next first last _ _ =>
      split
      next => exact .throw
      next =>
        split
        next => exact gives_joinAndRemove _ _ Node.allMadeOf_nil _ _
        next path _ =>
          split
          next => exact gives_joinAndRemove _ _ Node.allMadeOf_nil _ _
          next b hb =>
            have hchildren := (Node.madeOf_block.mp (hd.blockAt? hb)).2
            refine (Gives.orLost fun x hx => hchildren.splitLeaves? hx).bind ?_
            rintro ⟨front, back⟩ ⟨hfront, hback⟩
            exact (Gives.putChildren hfront).bind fun _ _ => gives_joinAndRemove _ _ hback _ _
    next => exact .throw

/-- The children of the block at a path, or nothing if there is none. -/
theorem allMadeOf_childrenAt_getD {d : Document} (hd : d.MadeOf K M) (path : Path) :
    Node.AllMadeOf K M (((d.blockAt? path).map Block.children).getD []) := by
  cases hb : d.blockAt? path with
  | none => exact Node.allMadeOf_nil
  | some b => exact (Node.madeOf_block.mp (hd.blockAt? hb)).2

theorem gives_mergeIntoPrevious (id : BlockId) :
    Gives K M (fun _ => True) (mergeIntoPrevious id) := by
  unfold mergeIntoPrevious
  refine .get ?_
  intro d hd
  dsimp only
  split
  next => exact .throw
  next => exact .pure trivial
  next position _ =>
    split
    next previousPath previous path _ _ _ =>
      split
      next => exact (Gives.removeNode _).bind fun _ _ => .pure trivial
      next =>
        have hleaves := allMadeOf_childrenAt_getD hd path
        refine (Gives.putChildren Node.allMadeOf_nil).bind ?_
        intro _ _
        have hjoin : ∀ (b : Block) (ns : List Node), Node.AllMadeOf K M b.children →
            some (b.children ++ ((d.blockAt? path).map Block.children).getD []) = some ns →
            Node.AllMadeOf K M ns := by
          intro b ns hb hns
          cases hns
          exact Node.allMadeOf_append.mpr ⟨hb, hleaves⟩
        refine (Gives.editChildren hjoin).bind ?_
        intro _ _
        exact (Gives.removeNode _).bind fun _ _ => .pure trivial
    next => exact .throw

/-- What text commands do with a selection before they go on. -/
theorem gives_clear (s : Range) (anchor : BlockPoint) {P : β → Prop}
    {f : BlockPoint × List BlockId → EditM β} (hf : ∀ x, Gives K M P (f x)) :
    Gives K M P
      (if s.isCollapsed then pure (anchor, ([] : List BlockId)) >>= f
      else do
        let start ← ofExcept ((← get).blockPoint s.start)
        let _ ← editable start.block
        let x ← deleteRange s
        f x) := by
  split
  next => exact hf _
  next =>
    refine .get ?_
    intro d _
    refine (Gives.ofExcept fun _ _ => trivial).bind ?_
    intro start _
    refine (Gives.editable _).bind ?_
    intro _ _
    exact (gives_deleteRange s).bind fun x _ => hf x

theorem gives_insertText (hM : M {}) (text : Text) :
    Gives K M (fun _ => True) (insertText text) := by
  unfold insertText
  refine Gives.selectionPoint.bind ?_
  rintro ⟨s, anchor⟩ _
  dsimp only
  refine gives_clear s anchor ?_
  rintro ⟨p, changed⟩
  refine (Gives.editable _).bind ?_
  intro _ _
  split
  next => exact .pure trivial
  next =>
    refine (Gives.editChildren fun b ns hb hns => hb.insertText? hM hns).bind ?_
    intro _ _
    exact .pure trivial

theorem gives_deleteBackward (unit : DeleteUnit) :
    Gives K M (fun _ => True) (deleteBackward unit) := by
  unfold deleteBackward
  refine Gives.selectionPoint.bind ?_
  rintro ⟨s, p⟩ _
  dsimp only
  split
  next =>
    refine (gives_deleteRange s).bind ?_
    rintro ⟨start, changed⟩ _
    exact .pure trivial
  next =>
    refine (Gives.editable _).bind ?_
    intro b _
    split
    next =>
      refine (Gives.orLost fun _ _ => trivial).bind ?_
      intro start _
      refine (Gives.editChildren fun b ns hb hns => hb.eraseText? hns).bind ?_
      intro _ _
      exact .pure trivial
    next => exact gives_mergeIntoPrevious _

theorem gives_splitBlock (hK : ∀ k : Kind, K k.canonical) :
    Gives K M (fun _ => True) splitBlock := by
  unfold splitBlock
  refine Gives.selectionPoint.bind ?_
  rintro ⟨s, anchor⟩ _
  refine (Gives.editable _).bind ?_
  intro _ _
  dsimp only
  refine gives_clear s anchor ?_
  rintro ⟨p, changed⟩
  refine .get ?_
  intro d hd
  refine (Gives.orRefuse fun _ _ => trivial).bind ?_
  intro path _
  refine (Gives.orRefuse fun b hb => (Node.madeOf_block.mp (hd.blockAt? hb)).2).bind ?_
  intro b hchildren
  refine (Gives.orLost fun x hx => hchildren.splitLeaves? hx).bind ?_
  rintro ⟨front, back⟩ ⟨hfront, hback⟩
  refine (Gives.putChildren hfront).bind ?_
  intro _ _
  refine Gives.issueId.bind ?_
  intro id _
  have hfresh : Node.MadeOf K M (.block { Block.ofKind b.kind back with id }) :=
    .block (hK b.kind) hback
  refine (Gives.orRefuse fun _ _ => trivial).bind ?_
  rintro ⟨parent, index⟩ _
  refine .get ?_
  intro d' hd'
  dsimp only
  split
  next => exact .pure trivial
  next siblings hsiblings =>
    exact gives_splice (hd'.childrenAt? hsiblings) (Node.allMadeOf_singleton.mpr hfresh) _ _ _ _

/-! ### Structure -/

theorem gives_setKind (hK : ∀ k : Kind, K k.canonical) (path : Path) (kind : Kind) :
    Gives K M (fun _ => True) (setKind path kind) := by
  unfold setKind
  refine .get ?_
  intro d hd
  refine (Gives.orRefuse fun b hb => (Node.madeOf_block.mp (hd.blockAt? hb)).2).bind ?_
  intro b hchildren
  have hb : Node.MadeOf K M (.block { b with kind := kind.canonical }) := .block (hK kind) hchildren
  have hset : ∀ d' : Document, d'.MadeOf K M → Document.MadeOf K M { d' with
      children := Node.setBlock { b with kind := kind.canonical } d'.children path } :=
    fun d' hd' => hd'.setBlock hb path
  exact (Gives.modify hset).bind fun _ _ => .pure trivial

theorem gives_wrapBlock (hK : ∀ k : Kind, K k.canonical) (path : Path) (kind : Kind) :
    Gives K M (fun _ => True) (wrapBlock path kind) := by
  unfold wrapBlock
  refine .get ?_
  intro _ _
  refine (Gives.orRefuse fun _ _ => trivial).bind ?_
  intro _ _
  refine (Gives.orRefuse fun _ _ => trivial).bind ?_
  rintro ⟨parent, index⟩ _
  refine Gives.issueId.bind ?_
  intro id _
  refine .get ?_
  intro d hd
  refine (Gives.orRefuse fun _ hns => hd.childrenAt? hns).bind ?_
  intro siblings hsiblings
  refine (Gives.orLost fun x hx => hsiblings.removeAt? hx).bind ?_
  rintro ⟨node, rest⟩ ⟨hnode, hrest⟩
  have hcontainer : Node.MadeOf K M (.block { Block.ofKind kind [node] with id }) :=
    .block (hK kind) (Node.allMadeOf_singleton.mpr hnode)
  exact gives_splice hrest (Node.allMadeOf_singleton.mpr hcontainer) _ _ _ _

theorem gives_unwrapBlock (path : Path) : Gives K M (fun _ => True) (unwrapBlock path) := by
  unfold unwrapBlock
  refine .get ?_
  intro d hd
  refine (Gives.orRefuse fun _ _ => trivial).bind ?_
  intro b _
  split
  next => exact .throw
  next =>
    refine (Gives.orRefuse fun _ _ => trivial).bind ?_
    rintro ⟨parent, index⟩ _
    refine .get ?_
    intro d' hd'
    refine (Gives.orRefuse fun _ hns => hd'.childrenAt? hns).bind ?_
    intro siblings hsiblings
    refine (Gives.orLost fun x hx => hsiblings.removeAt? hx).bind ?_
    rintro ⟨node, rest⟩ ⟨hnode, hrest⟩
    dsimp only
    split
    next => exact (Gives.putChildren hrest).bind fun _ _ => .pure trivial
    next c =>
      exact gives_splice hrest (Node.madeOf_block.mp hnode).2 _ _ _ _

/-- The end of lifting: what was moved is put among the siblings of the parent. -/
theorem gives_putMoved {moved : List Node} (hmoved : Node.AllMadeOf K M moved) (grandparent : Path)
    (start stop : Nat) (e : Effect) : Gives K M (fun _ => True) (do
      let siblings ← EditM.orRefuse (Node.childrenAt? (← get).children grandparent)
        (.invalidPath grandparent)
      let siblings ← EditM.orLost (Node.splice? siblings start stop moved)
      EditM.putChildren grandparent siblings
      pure e) := by
  refine .get ?_
  intro d hd
  refine (Gives.orRefuse fun _ hns => hd.childrenAt? hns).bind ?_
  intro siblings hsiblings
  exact gives_splice hsiblings hmoved _ _ _ _

theorem gives_liftBlock (hK : ∀ k : Kind, K k.canonical) (path : Path) :
    Gives K M (fun _ => True) (liftBlock path) := by
  unfold liftBlock
  refine .get ?_
  intro _ _
  refine (Gives.orRefuse fun _ _ => trivial).bind ?_
  intro b _
  split
  next => exact .throw
  next =>
    refine (Gives.orRefuse fun _ _ => trivial).bind ?_
    rintro ⟨parentPath, index⟩ _
    refine (Gives.orRefuse fun _ _ => trivial).bind ?_
    rintro ⟨grandparent, parentIndex⟩ _
    refine .get ?_
    intro d hd
    refine (Gives.orRefuse fun b hb => (Node.madeOf_block.mp (hd.blockAt? hb)).2).bind ?_
    intro parent hparent
    split
    next => exact .throw
    next =>
      have hright := hparent.sublist (List.drop_sublist (index + 1) parent.children)
      refine (Gives.orLost fun x hx =>
        (hparent.sublist (List.take_sublist _ _)).removeAt? hx).bind ?_
      rintro ⟨lifted, left⟩ ⟨hlifted, hleft⟩
      dsimp only
      split
      next =>
        refine (Gives.putChildren hright).bind ?_
        intro _ _
        exact gives_putMoved (Node.allMadeOf_singleton.mpr hlifted) _ _ _ _
      next =>
        refine (Gives.putChildren hleft).bind ?_
        intro _ _
        split
        next => exact gives_putMoved (Node.allMadeOf_singleton.mpr hlifted) _ _ _ _
        next =>
          refine Gives.issueId.bind ?_
          intro id _
          have htail : Node.MadeOf K M (.block { Block.ofKind parent.kind
              (parent.children.drop (index + 1)) with id }) :=
            .block (hK parent.kind) hright
          exact gives_putMoved
            (Node.allMadeOf_cons.mpr ⟨hlifted, Node.allMadeOf_singleton.mpr htail⟩) _ _ _ _

/-- The end of an insertion: the block gets identities and is put among the children at a path. -/
theorem gives_insertAt {d : Document} (hd : d.MadeOf K M) (path parent : Path) (index : Nat)
    {block : Block} (hblock : Node.MadeOf K M (.block block)) :
    Gives K M (fun _ => True) (do
      let siblings ← orRefuse (Node.childrenAt? d.children parent) (.invalidPath parent)
      if siblings.length < index then refuse (.invalidPath path)
      modify fun d' => { d' with nextId := (block.adopt d.nextId).2 }
      let siblings ← orLost
        (Node.splice? siblings index index [.block (block.adopt d.nextId).1])
      putChildren parent siblings
      pure (Effect.stay [(block.adopt d.nextId).1.id])) := by
  refine (Gives.orRefuse fun _ hns => hd.childrenAt? hns).bind ?_
  intro siblings hsiblings
  dsimp only
  split
  next => exact .throw
  next =>
    have hadopted := Block.madeOf_adopt block d.nextId hblock
    have hnext : ∀ d' : Document, d'.MadeOf K M →
        Document.MadeOf K M { d' with nextId := (block.adopt d.nextId).2 } := fun _ hd' => hd'
    refine (Gives.modify hnext).bind ?_
    intro _ _
    exact gives_splice hsiblings (Node.allMadeOf_singleton.mpr hadopted) _ _ _ _

theorem gives_insertBlock (path : Path) {block : Block} (hblock : Node.MadeOf K M (.block block)) :
    Gives K M (fun _ => True) (insertBlock path block) := by
  unfold insertBlock
  refine (Gives.orRefuse fun _ _ => trivial).bind ?_
  rintro ⟨parent, index⟩ _
  refine .get ?_
  intro d hd
  dsimp only
  split
  next =>
    split
    next => exact .throw
    next => exact gives_insertAt hd path parent index hblock
  next => exact gives_insertAt hd path parent index hblock

theorem gives_removeBlock (path : Path) (saved : Option BlockRange) :
    Gives K M (fun _ => True) (removeBlock path saved) := by
  unfold removeBlock
  refine .get ?_
  intro d hd
  refine (Gives.orRefuse fun _ _ => trivial).bind ?_
  intro b _
  refine (Gives.removeNode path).bind ?_
  intro _ _
  split
  next => exact .pure trivial
  next => exact .pure trivial

/-- Whatever holds of canonical kinds and of no marks, and of the blocks that a command brings in,
stays true of everything in the document. -/
theorem gives_ofCommand (hK : ∀ k : Kind, K k.canonical) (hM : M {}) {c : Command}
    (hc : c.MadeOf K M) (saved : Option BlockRange) :
    Gives K M (fun _ => True) (ofCommand saved c) := by
  cases c with
  | insertText text => exact gives_insertText hM text
  | deleteBackward unit => exact gives_deleteBackward unit
  | deleteRange r =>
    refine (gives_deleteRange r).bind ?_
    rintro ⟨start, changed⟩ _
    exact .pure trivial
  | splitBlock => exact gives_splitBlock hK
  | setKind path kind => exact gives_setKind hK path kind
  | wrapBlock path kind => exact gives_wrapBlock hK path kind
  | unwrapBlock path => exact gives_unwrapBlock path
  | liftBlock path => exact gives_liftBlock hK path
  | insertBlock path block => exact gives_insertBlock path hc
  | removeBlock path => exact gives_removeBlock path saved
  | select r => exact .pure trivial

end EditM

/-! ## Runs -/

namespace Document

variable {K : Kind → Prop} {M : Marks → Prop} {d : Document}

/-- A command leaves a document made of what it was made of and what the command brings in. -/
theorem MadeOf.perform (hK : ∀ k : Kind, K k.canonical) (hM : M {}) (hd : d.MadeOf K M)
    (hids : d.ids.Nodup) {c : Command} (hc : c.MadeOf K M) : (d.perform c).MadeOf K M := by
  cases hedits : c.editsContent with
  | false =>
    cases c with
    | select r =>
      obtain ⟨result, s, h⟩ := exists_apply_select d r
      rw [Document.perform, h]
      exact hd
    | _ => cases hedits
  | true =>
    have hchecked := EditM.checked_ofCommand hids (d.selection.bind d.blockRange?) c
    rw [Document.perform]
    rcases apply_cases hedits (hchecked.of_answers (EditM.gives_ofCommand hK hM hc _ d hd)) with
      ⟨e, h⟩ | ⟨e, d', p, ⟨hd', -⟩, h⟩
    · rw [h]
      exact hd
    · rw [h, finished]
      split
      next => exact hd'
      next => exact MadeOf.normalize (hK .paragraph) hM hd'

theorem MadeOf.run (hK : ∀ k : Kind, K k.canonical) (hM : M {}) (hd : d.MadeOf K M)
    (hnumbered : d.WellNumbered) {cs : List Command} (hcs : ∀ c ∈ cs, c.MadeOf K M) :
    (d.run cs).MadeOf K M := by
  induction cs generalizing d with
  | nil => exact hd
  | cons c cs ih =>
    rw [List.forall_mem_cons] at hcs
    have hstep := hnumbered.numbered (applied_apply hnumbered.nodup c).numbered
    exact ih (hd.perform hK hM hnumbered.nodup hcs.1) hstep hcs.2

/-- A document comes from another one by commands that bring in sound blocks without marks. -/
def RunsTo (d d' : Document) : Prop :=
  ∃ cs : List Command, (∀ c ∈ cs, c.Plain) ∧ d' = d.run cs

theorem RunsTo.refl (d : Document) : RunsTo d d :=
  ⟨[], fun _ hc => absurd hc List.not_mem_nil, rfl⟩

theorem RunsTo.perform {c : Command} (hc : c.Plain) : RunsTo d (d.perform c) :=
  ⟨[c], List.forall_mem_singleton.mpr hc, rfl⟩

theorem RunsTo.trans {d' d'' : Document} (h : RunsTo d d') (h' : RunsTo d' d'') : RunsTo d d'' := by
  obtain ⟨cs, hcs, rfl⟩ := h
  obtain ⟨cs', hcs', rfl⟩ := h'
  exact ⟨cs ++ cs', List.forall_mem_append.mpr ⟨hcs, hcs'⟩, (run_append d cs cs').symm⟩

end Document

end BlockNotes
