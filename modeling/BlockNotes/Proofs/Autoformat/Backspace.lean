import BlockNotes.Proofs.Autoformat.AllOrNothing
import BlockNotes.Proofs.Document.Lifted
import Mathlib.Order.WellFounded

/-!
# Holding Backspace

Backspace may delete text, join blocks, take an image away, turn a block into a
paragraph or move an item out of its list.  Pressed again and again it comes to an end
(`Draft.erasing_ends`): whenever it changes something the rank of the document falls.

Most presses come to one command, and the command is a way down
(`DraftM.keepsFrom_command`).  An item takes two.  The first one may part its list in two and so
lead up, but behind the second one the document is below where it started, as there is one block
less that is neither a paragraph nor a list (`DraftM.keepsFrom_leaveList`).
-/

namespace BlockNotes

/-! ## Going down -/

/-- The document stays as it is or goes down. -/
def Draft.descent : Progress Draft where
  Good _ := True
  Leads s t := t.document = s.document ∨ t.document.rank < s.document.rank
  refl _ := .inl rfl
  trans := by
    rintro s t u (hst | hst) (htu | htu)
    · exact .inl (htu.trans hst)
    · exact .inr (hst ▸ htu)
    · exact .inr (htu ▸ hst)
    · exact .inr (htu.trans hst)
  good _ _ := trivial

namespace Document

variable {d : Document} {path : Path} {b : Block}

theorem blockAt?_of_currentBlock? (h : d.currentBlock? = some (path, b)) :
    d.blockAt? path = some b := by
  obtain ⟨s, -, h⟩ := Option.bind_eq_some_iff.mp h
  obtain ⟨⟨parent, index⟩, -, h⟩ := Option.bind_eq_some_iff.mp h
  obtain ⟨c, hc, h⟩ := Option.bind_eq_some_iff.mp h
  cases h
  exact hc

/-- Making a block a paragraph is refused or brings the document into normal form. -/
theorem apply_setKind_cases (d : Document) (path : Path) :
    (∃ e, d.apply (.setKind path .paragraph) = (.error (.refused e), d)) ∨
      ∃ p d', d.apply (.setKind path .paragraph) = (.ok p, d') ∧ d'.Settled := by
  cases hb : d.blockAt? path with
  | none =>
    rcases apply_cases (d := d) (c := .setKind path .paragraph) rfl
      (EditM.checked_setKind_exchanged path .paragraph) with h | ⟨e, d', p, ⟨b, hb', -⟩, -⟩
    · exact .inl h
    · cases hb.symm.trans hb'
  | some b =>
    obtain ⟨p, d', place, h, -⟩ := exists_apply_setKind hb
    exact .inr ⟨p, _, h, settled_committed d' place⟩

end Document

namespace DraftM

variable {s : Draft} {path : Path} {b : Block}

/-- A command that is a way down, with an answer behind it. -/
theorem keepsFrom_command {c : Command}
    (h : s.document.perform c = s.document ∨ s.document.Descends (s.document.perform c))
    (a : Transition) : KeepsFrom Draft.descent True (perform c >>= fun _ => pure a) s := by
  have hleads : Draft.descent.Leads s { s with document := s.document.perform c } :=
    h.imp_right fun h => h.rank_lt
  rw [Document.perform] at hleads
  have hrun := perform_eq c s
  cases happly : s.document.apply c with
  | mk result d =>
    rw [happly] at hleads hrun
    cases result with
    | ok p => exact .of_ok (bind_of_ok hrun) hleads
    | error halt => exact .of_error (bind_of_error hrun) hleads fun _ => trivial

theorem keepsFrom_forwardDelete (hs : s.document.ids.Nodup) (unit : DeleteUnit) :
    KeepsFrom Draft.descent True (forwardDelete unit) s :=
  keepsFrom_command (Document.descends_deleteBackward hs unit) _

/-- A block that is no paragraph becomes one. -/
theorem keepsFrom_revert (hb : s.document.blockAt? path = some b) (hkind : b.kind ≠ .paragraph)
    (a : Transition) :
    KeepsFrom Draft.descent True (perform (.setKind path .paragraph) >>= fun _ => pure a) s := by
  refine keepsFrom_command (.inr ?_) a
  obtain ⟨p, d', place, h, hexchanged⟩ := Document.exists_apply_setKind hb
  rw [Document.perform, h]
  refine ⟨d', place, rfl, ?_⟩
  intro hsettled
  exact ⟨hexchanged.areBlocks hsettled.areBlocks Node.areBlocks_block,
    hexchanged.descent hkind place⟩

theorem exists_parent_of_inList {d : Document} (h : inList d path = true) :
    ∃ parentPath i parent, path = parentPath ++ [i] ∧ d.blockAt? parentPath = some parent ∧
      parent.kind.isList = true := by
  unfold inList at h
  split at h
  next parentPath i hsplit =>
    obtain ⟨parent, hparent, hlist⟩ := Option.any_eq_true _ _ |>.mp h
    exact ⟨parentPath, i, parent, Path.eq_concat_of_split? hsplit, hparent, hlist⟩
  next => cases h

theorem leaveList_of_not_inList (hs : s.document.ids.Nodup) (hb : s.document.blockAt? path = some b)
    (hin : inList s.document path = false) : leaveList path b.id s = .ok path s := by
  unfold leaveList
  rw [get_bind]
  dsimp only
  rw [hin, if_neg Bool.false_ne_true, get_bind, Document.findPath?_of_blockAt? hs hb]
  rfl

theorem leaveList_of_inList (hin : inList s.document path = true) (id : BlockId) :
    leaveList path id s = (perform (.liftBlock path) >>= fun _ => do
      orRefuse ((← get).document.findPath? id) (.invalidPath [])) s := by
  unfold leaveList
  rw [get_bind]
  dsimp only
  rw [hin, if_pos rfl]

/-- An item that leaves its list and becomes a paragraph leads down, although the list may come
apart. -/
theorem keepsFrom_leaveList (hs : s.document.ids.Nodup) (hb : s.document.blockAt? path = some b)
    (hkind : b.kind = .listItem) (a : Transition) :
    KeepsFrom Draft.descent True (do
      let path ← leaveList path b.id
      perform (.setKind path .paragraph)
      pure a) s := by
  have hno : b.kind ≠ .paragraph := by
    rw [hkind]
    exact Kind.noConfusion
  cases hin : inList s.document path with
  | false => exact .ask (leaveList_of_not_inList hs hb hin) (keepsFrom_revert hb hno a)
  | true =>
    have hleave := leaveList_of_inList hin b.id
    obtain ⟨parentPath, i, parent, rfl, hparent, hlist⟩ := exists_parent_of_inList hin
    rcases Document.apply_liftBlock_cases hs hb hparent hlist with ⟨e, h⟩ | ⟨p, d', h, hd', hfreed⟩
    · rw [bind_of_error (perform_of_error h)] at hleave
      exact .stop hleave fun _ => trivial
    · rw [bind_of_ok (perform_of_ok h), get_bind] at hleave
      dsimp only at hleave
      by_cases hsettled : s.document.Settled
      · obtain ⟨q, p', d₂, hfind, hset, hdescends⟩ :=
          (hfreed hsettled).exists_apply_setKind hd' hno (by rw [hkind]; rfl)
        rw [hfind] at hleave
        exact .of_ok ((bind_of_ok hleave).trans (bind_of_ok (perform_of_ok hset)))
          (.inr hdescends.rank_lt)
      · -- Whatever becomes of the block, the document has been brought into normal form.
        cases hfind : d'.findPath? b.id with
        | none =>
          rw [hfind] at hleave
          exact .of_error (bind_of_error hleave) (.inr (hd'.rank_lt hsettled)) fun _ => trivial
        | some q =>
          rw [hfind] at hleave
          rcases Document.apply_setKind_cases d' q with ⟨e, hset⟩ | ⟨p', d₂, hset, hd₂⟩
          · have hrefused : perform (.setKind q .paragraph) { s with document := d' } = _ :=
              perform_of_error hset
            exact .of_error ((bind_of_ok hleave).trans (bind_of_error hrefused))
              (.inr (hd'.rank_lt hsettled)) fun _ => trivial
          · exact .of_ok ((bind_of_ok hleave).trans (bind_of_ok (perform_of_ok hset)))
              (.inr (hd₂.rank_lt hsettled))

theorem keepsFrom_deleteBackward (hs : s.document.ids.Nodup) (unit : DeleteUnit) :
    KeepsFrom Draft.descent True (deleteBackward unit) s := by
  have hforward := keepsFrom_forwardDelete hs unit
  unfold deleteBackward
  refine .ask rfl ?_
  dsimp only
  split
  next p path b _ hblock =>
    have hb := Document.blockAt?_of_currentBlock? hblock
    cases hp : s.document.blockPoint p with
    | error e => exact .stop rfl fun _ => trivial
    | ok q =>
      refine .ask rfl ?_
      split
      next => exact hforward
      next language hkind =>
        split
        next => exact keepsFrom_revert hb (by rw [hkind]; exact nofun) _
        next => exact hforward
      next hkind =>
        split
        next => exact keepsFrom_leaveList hs hb hkind _
        next => exact hforward
      next hparagraph _ _ =>
        split
        next => exact keepsFrom_revert hb hparagraph _
        next => exact hforward
  next => exact hforward

end DraftM

namespace Draft

variable {s : Draft}

/-! ## Pressing the key again and again -/

/-- The draft behind a backward deletion, however it ends. -/
def erased (s : Draft) (unit : DeleteUnit) : Draft :=
  match DraftM.deleteBackward unit s with
  | .ok _ t => t
  | .error _ t => t

/-- What is known of the deletion however it ends. -/
theorem leads_erased {P : Progress Draft} {L : Prop} {unit : DeleteUnit}
    (h : KeepsFrom P L (DraftM.deleteBackward unit) s) : P.Leads s (s.erased unit) := by
  unfold erased
  cases hrun : DraftM.deleteBackward unit s with
  | ok a t => exact h.1 a t hrun
  | error halt t => exact (h.2 halt t hrun).1

/-- A deletion that changes something leads down. -/
theorem rank_erased_lt (hs : s.document.ids.Nodup) {unit : DeleteUnit}
    (h : (s.erased unit).document.version ≠ s.document.version) :
    (s.erased unit).document.rank < s.document.rank := by
  rcases leads_erased (DraftM.keepsFrom_deleteBackward hs unit) with hsame | hless
  · exact absurd (congrArg Document.version hsame) h
  · exact hless

theorem wellNumbered_erased (hs : s.document.WellNumbered) (unit : DeleteUnit) :
    (s.erased unit).document.WellNumbered :=
  Draft.progress.good hs (leads_erased
    (.of_keeps (DraftM.allows_progress.deleteBackward (L := True) unit) hs))

/-- Deleting over and over comes to a document that the next deletion leaves as it is. -/
theorem exists_version_erased_eq {s : ℕ → Draft} {unit : ℕ → DeleteUnit}
    (hs : ∀ n, (s n).document.ids.Nodup) (hstep : ∀ n, s (n + 1) = (s n).erased (unit n)) :
    ∃ n, (s (n + 1)).document.version = (s n).document.version := by
  by_contra hnever
  rw [not_exists] at hnever
  obtain ⟨n, hn⟩ := WellFounded.not_rel_apply_succ (r := (· < ·)) fun n => (s n).document.rank
  refine hn ?_
  have hchanged := hnever n
  rw [hstep] at hchanged ⊢
  exact rank_erased_lt (hs n) hchanged

/-- A backward deletion that changes the version of a document with distinct identities lowers its
rank, and ranks are well-founded.  So a document is not changed for ever, whatever is deleted
with each press, as long as its identities are distinct.  They stay so if they have been given
out, as in every document that was made from blocks. -/
theorem erasing_ends :
    (WellFounded fun d d' : Document => d.rank < d'.rank) ∧
      (∀ (s : Draft) (unit : DeleteUnit), s.document.ids.Nodup →
        (s.erased unit).document.version ≠ s.document.version →
          (s.erased unit).document.rank < s.document.rank) ∧
      (∀ (s : ℕ → Draft) (unit : ℕ → DeleteUnit), (∀ n, (s n).document.ids.Nodup) →
        (∀ n, s (n + 1) = (s n).erased (unit n)) →
          ∃ n, (s (n + 1)).document.version = (s n).document.version) ∧
      ∀ (s : ℕ → Draft) (unit : ℕ → DeleteUnit), (s 0).document.WellNumbered →
        (∀ n, s (n + 1) = (s n).erased (unit n)) →
          ∃ n, (s (n + 1)).document.version = (s n).document.version := by
  refine ⟨Document.wellFounded_rank, fun s unit hs h => rank_erased_lt hs h,
    fun s unit hs hstep => exists_version_erased_eq hs hstep, ?_⟩
  intro s unit hs hstep
  have hall : ∀ n, (s n).document.WellNumbered := by
    intro n
    induction n with
    | zero => exact hs
    | succ n ih =>
      rw [hstep]
      exact wellNumbered_erased ih _
  exact exists_version_erased_eq (fun n => (hall n).nodup) hstep

/-- A list of three items with the cursor at the start of the second one. -/
theorem erasing_ends_items :
    let item (text : Text) : Node := .block (.ofText .listItem text)
    let d := (Document.ofBlocks [.ofKind .bulletList [item ['a'], item ['b'], item ['c']]]).run
      [.select (.collapsed ⟨[0, 1, 0], 0⟩)]
    let s : Draft := { document := d }
    let press : ℕ → Draft := fun n => (fun s => s.erased .word)^[n] s
    s.document.ids.Nodup ∧ (s.erased .word).document.version ≠ s.document.version ∧
      (s.erased .word).document.blocks.map Block.kind = [.bulletList, .paragraph, .bulletList] ∧
      (s.erased .word).document.rank < s.document.rank ∧
      ∃ n, (press (n + 1)).document.version = (press n).document.version := by
  intro item d s press
  have hs : s.document.WellNumbered :=
    Document.wellNumbered_run (Document.wellNumbered_ofBlocks _) _
  have hchanged : (s.erased .word).document.version ≠ s.document.version := by decide
  have hstep : ∀ n, press (n + 1) = (press n).erased .word := fun n =>
    Function.iterate_succ_apply' _ n s
  refine ⟨hs.nodup, hchanged, by rfl, erasing_ends.2.1 s .word hs.nodup hchanged, ?_⟩
  exact erasing_ends.2.2.2 press (fun _ => .word) hs hstep

end Draft

end BlockNotes
