import BlockNotes.Proofs.Highlight.Runs
import Mathlib.Data.List.Chain
import Mathlib.Order.Bounds.Basic

/-!
# What the sweep computes

The runs of a text are determined byte by byte.  A byte has the tags of all spans
that cover it once they are brought into the text, and the runs are the one way
to cut the text into stretches of equal tags (`Run.divides_iff_eq_ofSpans`).

The sweep keeps a count for each tag.  Between two places it stands at, the counts
are those of the pieces that have been opened and not closed (`Sweep.At`), and one
move keeps that.  Closing comes before opening, so it matters that a piece that
closes is open: its start is a cut too, so the sweep was there before.

A cut where no tags change is left out again.  What is left is unique, because
where a run stops the tags change.
-/

namespace BlockNotes

/-! ## Tags byte by byte -/

/-- Brought into a text, a span covers a byte.  Its offsets are cut off at the end of the text,
its start moves up to a boundary and its stop moves down to one. -/
def Span.Covers (text : Text) (s : Span) (i : Nat) : Prop :=
  ∃ a b, IsLeast {n | text.isBoundary n = true ∧ min s.start text.bytes ≤ n} a ∧
    IsGreatest {n | text.isBoundary n = true ∧ n ≤ min s.stop text.bytes} b ∧ a ≤ i ∧ i < b

namespace Run

/-- Runs cut a text from an offset on into stretches of equal tags, where it is given which byte
has which tags. -/
structure Divides (text : Text) (tagged : Nat → String → Prop) (start : Nat) (rs : List Run) :
    Prop where
  /-- They follow each other to the end of the text, from boundary to boundary. -/
  tiles : text.Tiles start (rs.map fun r => (r.start, r.stop))
  /-- None is empty. -/
  lt : ∀ r ∈ rs, r.start < r.stop
  /-- Neighbours differ. -/
  differ : rs.IsChain fun r q => r.tags ≠ q.tags
  /-- Each has the tags of all its bytes. -/
  mem_tags : ∀ r ∈ rs, ∀ i, r.start ≤ i → i < r.stop → ∀ tag, tag ∈ r.tags ↔ tagged i tag

section Divides

variable {text : Text} {tagged : Nat → String → Prop} {start : Nat} {r : Run} {rs : List Run}

theorem divides_nil : Divides text tagged start [] ↔ start = text.bytes :=
  ⟨fun h => h.tiles, fun h => ⟨h, by simp, .nil, by simp⟩⟩

theorem divides_cons : Divides text tagged start (r :: rs) ↔
    r.start = start ∧ r.start < r.stop ∧ text.isBoundary r.stop = true ∧
      (∀ i, r.start ≤ i → i < r.stop → ∀ tag, tag ∈ r.tags ↔ tagged i tag) ∧
      (∀ q ∈ rs.head?, r.tags ≠ q.tags) ∧ Divides text tagged r.stop rs := by
  constructor
  · rintro ⟨⟨hstart, -, hstop, htiles⟩, hlt, hdiffer, hmem⟩
    obtain ⟨hlt, hlts⟩ := List.forall_mem_cons.mp hlt
    obtain ⟨hmem, hmems⟩ := List.forall_mem_cons.mp hmem
    obtain ⟨hdiffer, hdiffers⟩ := List.isChain_cons.mp hdiffer
    exact ⟨hstart, hlt, hstop, hmem, hdiffer, htiles, hlts, hdiffers, hmems⟩
  · rintro ⟨hstart, hlt, hstop, hmem, hdiffer, htiles, hlts, hdiffers, hmems⟩
    exact ⟨⟨hstart, Nat.le_of_lt hlt, hstop, htiles⟩, List.forall_mem_cons.mpr ⟨hlt, hlts⟩,
      List.isChain_cons.mpr ⟨hdiffer, hdiffers⟩, List.forall_mem_cons.mpr ⟨hmem, hmems⟩⟩

/-- Before the end of the text there is a run, and it has the tags of the byte at the offset. -/
theorem Divides.exists_cons (h : Divides text tagged start rs) (hlt : start < text.bytes) :
    ∃ r more, rs = r :: more ∧ ∀ tag, tag ∈ r.tags ↔ tagged start tag := by
  cases rs with
  | nil => exact absurd (divides_nil.mp h) (Nat.ne_of_lt hlt)
  | cons r more =>
    obtain ⟨rfl, hlt, -, hmem, -, -⟩ := divides_cons.mp h
    exact ⟨r, more, rfl, hmem r.start (Nat.le_refl _) hlt⟩

/-- A run does not stop inside a stretch of equal tags. -/
theorem Divides.le_stop {q : Run} {qs : List Run} (hr : Divides text tagged start (r :: rs))
    (hq : Divides text tagged start (q :: qs)) : q.stop ≤ r.stop := by
  obtain ⟨rfl, hrlt, -, hrmem, hdiffer, hrs⟩ := divides_cons.mp hr
  obtain ⟨hstart, -, hstop, hqmem, -, -⟩ := divides_cons.mp hq
  by_contra hcon
  have hbytes := Text.le_bytes_of_isBoundary hstop
  obtain ⟨next, more, rfl, hnext⟩ := hrs.exists_cons (by omega)
  -- The bytes where the two neighbours start both lie in the longer run.
  refine hdiffer next rfl (NameSet.ext fun tag => ?_)
  rw [hnext, hrmem r.start (Nat.le_refl _) hrlt, ← hqmem r.start (by omega) (by omega),
    ← hqmem r.stop (by omega) (by omega)]

/-- There is only one way. -/
theorem Divides.eq {qs : List Run} (hr : Divides text tagged start rs)
    (hq : Divides text tagged start qs) : rs = qs := by
  induction rs generalizing start qs with
  | nil =>
    cases qs with
    | nil => rfl
    | cons q qs =>
      obtain ⟨hstart, hlt, hstop, -⟩ := divides_cons.mp hq
      have := divides_nil.mp hr
      have := Text.le_bytes_of_isBoundary hstop
      omega
  | cons r rs ih =>
    cases qs with
    | nil =>
      obtain ⟨hstart, hlt, hstop, -⟩ := divides_cons.mp hr
      have := divides_nil.mp hq
      have := Text.le_bytes_of_isBoundary hstop
      omega
    | cons q qs =>
      have hstop : r.stop = q.stop := Nat.le_antisymm (hq.le_stop hr) (hr.le_stop hq)
      obtain ⟨hrstart, hrlt, -, hrmem, -, hrs⟩ := divides_cons.mp hr
      obtain ⟨hqstart, hqlt, -, hqmem, -, hqs⟩ := divides_cons.mp hq
      have hstart : r.start = q.start := hrstart.trans hqstart.symm
      have htags : r.tags = q.tags := NameSet.ext fun tag => by
        rw [hrmem r.start (Nat.le_refl _) hrlt, hqmem r.start (by omega) (by omega)]
      obtain rfl : r = q := by
        cases r
        cases q
        simp_all
      rw [ih hrs hqs]

end Divides

/-! ## Counting tags -/

namespace TagCounts

/-- How often a tag is counted. -/
def count (tag : String) : TagCounts → Nat
  | [] => 0
  | p :: c => (if p.1 = tag then p.2 else 0) + count tag c

/-- No tag is kept with a count of zero. -/
def Positive (c : TagCounts) : Prop := ∀ p ∈ c, 0 < p.2

@[simp] theorem count_nil (tag : String) : count tag [] = 0 := rfl

@[simp] theorem count_cons (tag : String) (p : String × Nat) (c : TagCounts) :
    count tag (p :: c) = (if p.1 = tag then p.2 else 0) + count tag c := rfl

theorem count_add (tag t : String) (c : TagCounts) :
    (c.add t).count tag = c.count tag + if t = tag then 1 else 0 := by
  fun_induction add t c <;> grind [count_nil, count_cons]

@[simp] theorem positive_cons {p : String × Nat} {c : TagCounts} :
    Positive (p :: c) ↔ 0 < p.2 ∧ c.Positive :=
  List.forall_mem_cons

theorem Positive.add {c : TagCounts} (t : String) (h : c.Positive) : (c.add t).Positive := by
  fun_induction TagCounts.add t c <;> simp_all

theorem count_remove (tag t : String) {c : TagCounts} (h : c.Positive) :
    (c.remove t).count tag = c.count tag - if t = tag then 1 else 0 := by
  fun_induction remove t c <;> grind [count_nil, count_cons, positive_cons]

theorem Positive.remove {c : TagCounts} (t : String) (h : c.Positive) : (c.remove t).Positive := by
  fun_induction TagCounts.remove t c with
  | case1 => exact h
  | case2 n rest hn => exact (positive_cons.mp h).2
  | case3 n rest hn =>
    exact positive_cons.mpr ⟨Nat.sub_pos_of_lt (Nat.lt_of_not_le hn), (positive_cons.mp h).2⟩
  | case4 p n rest hp ih =>
    obtain ⟨hn, hrest⟩ := positive_cons.mp h
    exact positive_cons.mpr ⟨hn, ih hrest⟩

/-- A set of tags has exactly those that are counted at least once. -/
theorem mem_tags {tag : String} {c : TagCounts} (h : c.Positive) :
    tag ∈ c.tags ↔ 0 < c.count tag := by
  rw [tags, NameSet.mem_ofList]
  induction c with
  | nil => simp
  | cons p c ih =>
    obtain ⟨hp, hc⟩ := positive_cons.mp h
    rw [List.map_cons, List.mem_cons, ih hc, count_cons]
    by_cases heq : p.1 = tag
    · simp only [heq, true_or, if_true, true_iff]
      omega
    · simp [heq, Ne.symm heq]

theorem foldl_add {c : TagCounts} (ts : List String) (h : c.Positive) :
    (ts.foldl (fun c t => c.add t) c).Positive ∧
      ∀ tag, (ts.foldl (fun c t => c.add t) c).count tag = c.count tag + ts.count tag := by
  induction ts generalizing c with
  | nil => exact ⟨h, fun _ => rfl⟩
  | cons t ts ih =>
    obtain ⟨hpositive, hcount⟩ := ih (h.add t)
    refine ⟨hpositive, fun tag => ?_⟩
    rw [List.foldl_cons, hcount, count_add, List.count_cons]
    simp only [beq_iff_eq]
    omega

theorem foldl_remove {c : TagCounts} (ts : List String) (h : c.Positive) :
    (ts.foldl (fun c t => c.remove t) c).Positive ∧
      ∀ tag, (ts.foldl (fun c t => c.remove t) c).count tag = c.count tag - ts.count tag := by
  induction ts generalizing c with
  | nil => exact ⟨h, fun _ => rfl⟩
  | cons t ts ih =>
    obtain ⟨hpositive, hcount⟩ := ih (h.remove t)
    refine ⟨hpositive, fun tag => ?_⟩
    rw [List.foldl_cons, hcount, count_remove tag t h, List.count_cons]
    simp only [beq_iff_eq]
    omega

end TagCounts

/-- In the tags of some pieces together, a tag is as often as there are pieces with it. -/
theorem count_flatMap_tags (tag : String) (pieces : List Run) :
    (pieces.flatMap fun p => p.tags.toList).count tag =
      pieces.countP fun p => decide (tag ∈ p.tags) := by
  induction pieces with
  | nil => rfl
  | cons p pieces ih =>
    have hnodup : p.tags.toList.Nodup := p.tags.ascending.imp String.ne_of_lt
    rw [List.flatMap_cons, List.count_append, ih, List.countP_cons, Nat.add_comm,
      List.Nodup.count hnodup]
    congr 1
    exact if_congr decide_eq_true_iff.symm rfl rfl

/-! ## Pieces that wait -/

namespace Sweep

/-- What waits are the pieces from an offset on, in the order of their places. -/
structure Waits (place : Run → Nat) (pieces : List Run) (e : Nat) (waiting : List Run) : Prop where
  /-- They are in order. -/
  sorted : waiting.Pairwise fun p q => place p ≤ place q
  /-- They are all pieces from there on. -/
  perm : waiting.Perm (pieces.filter fun p => e ≤ place p)

variable {place : Run → Nat} {pieces waiting : List Run} {e a : Nat}

theorem waits_mergeSort (place : Run → Nat) (pieces : List Run) :
    Waits place pieces 0 (pieces.mergeSort fun p q => place p ≤ place q) where
  sorted := by
    have htrans : ∀ p q r : Run, decide (place p ≤ place q) = true →
        decide (place q ≤ place r) = true → decide (place p ≤ place r) = true := by
      simpa using fun p q r => Nat.le_trans
    have htotal : ∀ p q : Run,
        (decide (place p ≤ place q) || decide (place q ≤ place p)) = true := by
      simpa using fun p q => Nat.le_total (place p) (place q)
    simpa using List.pairwise_mergeSort htrans htotal pieces
  perm := by simpa using List.mergeSort_perm pieces _

theorem takeWhile_of_sorted (h : waiting.Pairwise fun p q => place p ≤ place q) (a : Nat) :
    waiting.takeWhile (fun p => place p ≤ a) = waiting.filter fun p => place p ≤ a := by
  induction waiting with
  | nil => rfl
  | cons p waiting ih =>
    obtain ⟨hp, hwaiting⟩ := List.pairwise_cons.mp h
    by_cases hle : place p ≤ a
    · simp [hle, ih hwaiting]
    · have hnone : ∀ q ∈ waiting, a < place q := fun q hq =>
        Nat.lt_of_lt_of_le (Nat.lt_of_not_le hle) (hp q hq)
      simpa [hle] using hnone

/-- What comes up to a place is taken, and what comes later waits on. -/
theorem Waits.advance (h : Waits place pieces e waiting) (hea : e ≤ a) :
    let taken := waiting.takeWhile fun p => place p ≤ a
    taken.Perm (pieces.filter fun p => e ≤ place p ∧ place p ≤ a) ∧
      Waits place pieces (a + 1) (waiting.drop taken.length) := by
  intro taken
  have htaken : taken = waiting.filter fun p => place p ≤ a := takeWhile_of_sorted h.sorted a
  have hsplit : taken ++ waiting.drop taken.length = waiting :=
    (List.prefix_iff_eq_append.mp (List.takeWhile_prefix _))
  refine ⟨?_, h.sorted.sublist (List.drop_sublist _ _), ?_⟩
  · rw [htaken]
    refine (h.perm.filter _).trans (.of_eq ?_)
    rw [List.filter_filter]
    exact List.filter_congr fun p _ => by simp [Bool.and_comm]
  · have hperm : (taken ++ waiting.filter fun p => !decide (place p ≤ a)).Perm waiting := by
      rw [htaken]
      exact List.filter_append_perm _ _
    have hrest := (List.perm_append_left_iff taken).mp ((List.Perm.of_eq hsplit).trans hperm.symm)
    refine hrest.trans ((h.perm.filter _).trans (.of_eq ?_))
    rw [List.filter_filter]
    refine List.filter_congr fun p _ => ?_
    simp only [← decide_not, ← Bool.decide_and, decide_eq_decide]
    omega

/-! ## The invariant of the sweep -/

/-- A sweep has opened and closed what comes before an offset. -/
structure At (pieces : List Run) (e : Nat) (s : Sweep) : Prop where
  /-- The rest is still to open. -/
  opens : Waits Run.start pieces e s.opens
  /-- And the rest is still to close. -/
  closes : Waits Run.stop pieces e s.closes
  /-- Counts are kept of tags that some open piece has. -/
  positive : s.counts.Positive
  /-- Each tag is counted once for each open piece with it. -/
  count : ∀ tag, s.counts.count tag =
    pieces.countP fun p => decide (p.start < e ∧ e ≤ p.stop ∧ tag ∈ p.tags)

theorem at_start (pieces : List Run) : At pieces 0
    ⟨pieces.mergeSort fun p q => p.start ≤ q.start, pieces.mergeSort fun p q => p.stop ≤ q.stop,
      []⟩ where
  opens := waits_mergeSort Run.start pieces
  closes := waits_mergeSort Run.stop pieces
  positive := by simp [TagCounts.Positive]
  count tag := by simp

/-- A count in two parts. -/
theorem countP_eq_add {l : List Run} {f g h : Run → Prop} [DecidablePred f] [DecidablePred g]
    [DecidablePred h] (hf : ∀ p ∈ l, f p ↔ g p ∨ h p) (hg : ∀ p ∈ l, g p → ¬ h p) :
    l.countP (fun p => f p) = l.countP (fun p => g p) + l.countP (fun p => h p) := by
  induction l with
  | nil => rfl
  | cons p l ih =>
    have hp := hf p List.mem_cons_self
    have hnot := hg p List.mem_cons_self
    simp only [List.countP_cons, decide_eq_true_eq,
      ih (fun q hq => hf q (List.mem_cons_of_mem p hq)) fun q hq => hg q (List.mem_cons_of_mem p hq)]
    by_cases g p <;> by_cases h p <;> simp_all <;> omega

/-- One move keeps the invariant if no piece starts between the last place and the next. -/
theorem At.moveTo {s : Sweep} (h : At pieces e s) (hlt : ∀ p ∈ pieces, p.start < p.stop)
    (hea : e ≤ a) (hbetween : ∀ p ∈ pieces, e ≤ p.start → a ≤ p.start) :
    At pieces (a + 1) (s.moveTo a) := by
  obtain ⟨hopening, hopens⟩ := h.opens.advance hea
  obtain ⟨hclosing, hcloses⟩ := h.closes.advance hea
  obtain ⟨hremoved, hremove⟩ := TagCounts.foldl_remove
    ((s.closes.takeWhile fun p => p.stop ≤ a).flatMap fun p => p.tags.toList) h.positive
  obtain ⟨hadded, hadd⟩ := TagCounts.foldl_add
    ((s.opens.takeWhile fun p => p.start ≤ a).flatMap fun p => p.tags.toList) hremoved
  refine ⟨hopens, hcloses, hadded, fun tag => (hadd tag).trans ?_⟩
  rw [hremove, count_flatMap_tags, count_flatMap_tags, hopening.countP_eq, hclosing.countP_eq,
    List.countP_filter, List.countP_filter, h.count]
  simp only [← Bool.decide_and]
  -- What closes was open, and what is open afterwards was so before or has been opened.
  have hbefore := countP_eq_add (l := pieces)
    (f := fun p => p.start < e ∧ e ≤ p.stop ∧ tag ∈ p.tags)
    (g := fun p => tag ∈ p.tags ∧ e ≤ p.stop ∧ p.stop ≤ a)
    (h := fun p => p.start < e ∧ a < p.stop ∧ tag ∈ p.tags) (by grind) (by grind)
  have hafter := countP_eq_add (l := pieces)
    (f := fun p => p.start < a + 1 ∧ a + 1 ≤ p.stop ∧ tag ∈ p.tags)
    (g := fun p => p.start < e ∧ a < p.stop ∧ tag ∈ p.tags)
    (h := fun p => tag ∈ p.tags ∧ e ≤ p.start ∧ p.start ≤ a) (by grind) (by grind)
  omega

/-- Between two moves, a sweep has the tags of the pieces over the place where it stands. -/
theorem At.mem_tags {s : Sweep} (h : At pieces (a + 1) s) (tag : String) :
    tag ∈ s.counts.tags ↔ ∃ p ∈ pieces, p.start ≤ a ∧ a < p.stop ∧ tag ∈ p.tags := by
  rw [TagCounts.mem_tags h.positive, h.count, List.countP_pos_iff]
  simp only [decide_eq_true_eq, Nat.lt_add_one_iff, Nat.add_one_le_iff]

/-! ## A whole sweep -/

/-- A sweep over the remaining cuts gives the runs of the remaining text. -/
theorem At.divides_runs {text : Text} {s : Sweep} {rest : List Nat} (h : At pieces e s)
    (hlt : ∀ p ∈ pieces, p.start < p.stop) (hea : e ≤ a)
    (hcuts : ∀ p ∈ pieces, ∀ x, x = p.start ∨ x = p.stop → e ≤ x → x ∈ a :: rest)
    (hsorted : (a :: rest).Pairwise (· < ·)) (hend : text.bytes ∈ a :: rest)
    (hboundary : ∀ x ∈ a :: rest, text.isBoundary x = true) :
    Divides text (fun i tag => ∃ p ∈ pieces, p.start ≤ i ∧ i < p.stop ∧ tag ∈ p.tags) a
      (s.runs (a :: rest)) := by
  induction rest generalizing a e s with
  | nil => exact divides_nil.mpr (List.mem_singleton.mp hend).symm
  | cons b rest ih =>
    obtain ⟨hfirst, hsorted⟩ := List.pairwise_cons.mp hsorted
    have hab : a < b := hfirst b List.mem_cons_self
    obtain ⟨-, hboundary⟩ := List.forall_mem_cons.mp hboundary
    have hb : text.isBoundary b = true := hboundary b List.mem_cons_self
    have hlater : ∀ p ∈ pieces, ∀ x, x = p.start ∨ x = p.stop → a + 1 ≤ x → x ∈ b :: rest := by
      intro p hp x hx hax
      exact (List.mem_cons.mp (hcuts p hp x hx (by omega))).resolve_left (by omega)
    have hnext : ∀ p ∈ pieces, ∀ x, x = p.start ∨ x = p.stop → a + 1 ≤ x → b ≤ x := by
      intro p hp x hx hax
      rcases List.mem_cons.mp (hlater p hp x hx hax) with rfl | hmem
      · exact Nat.le_refl _
      · exact Nat.le_of_lt ((List.pairwise_cons.mp hsorted).1 x hmem)
    have hat : At pieces (a + 1) (s.moveTo a) := h.moveTo hlt hea fun p hp hep => by
      rcases List.mem_cons.mp (hcuts p hp p.start (.inl rfl) hep) with heq | hmem
      · exact Nat.le_of_eq heq.symm
      · exact Nat.le_of_lt (hfirst _ hmem)
    -- No piece starts or stops between two cuts.
    have htags : ∀ i, a ≤ i → i < b → ∀ tag, tag ∈ (s.moveTo a).counts.tags ↔
        ∃ p ∈ pieces, p.start ≤ i ∧ i < p.stop ∧ tag ∈ p.tags := by
      intro i hai hib tag
      rw [hat.mem_tags tag]
      refine exists_congr fun p => and_congr_right fun hp => ?_
      have hstart := hnext p hp p.start (.inl rfl)
      have hstop := hnext p hp p.stop (.inr rfl)
      rw [show p.start ≤ a ↔ p.start ≤ i by omega, show a < p.stop ↔ i < p.stop by omega]
    have hrest := ih hat hab hlater hsorted
      ((List.mem_cons.mp hend).resolve_left (by
        have := Text.le_bytes_of_isBoundary hb
        omega)) hboundary
    simp only [Sweep.runs]
    split
    next r more hruns =>
      rw [hruns] at hrest
      obtain ⟨hstart, hrlt, hrstop, hrmem, hdiffer, hmore⟩ := divides_cons.mp hrest
      split
      next hsame =>
        refine divides_cons.mpr ⟨rfl, Nat.lt_trans hab (hstart ▸ hrlt), hrstop, ?_, ?_, hmore⟩
        · intro i hai hir tag
          rcases Nat.lt_or_ge i b with hib | hib
          · exact htags i hai hib tag
          · rw [← hsame]
            exact hrmem i (hstart ▸ hib) hir tag
        · rw [← hsame]
          exact hdiffer
      next hother =>
        refine divides_cons.mpr ⟨rfl, hab, hb, htags, ?_, hrest⟩
        rintro q ⟨⟩
        exact Ne.symm hother
    next hruns =>
      rw [hruns] at hrest
      exact divides_cons.mpr ⟨rfl, hab, hb, htags, by simp, hrest⟩

end Sweep

/-! ## The runs of a text -/

theorem isLeast_ceilBoundary (text : Text) (n : Nat) :
    IsLeast {m | text.isBoundary m = true ∧ min n text.bytes ≤ m}
      (text.ceilBoundary (min n text.bytes)) :=
  ⟨⟨text.isBoundary_ceilBoundary _, Text.le_ceilBoundary (Nat.min_le_right _ _)⟩,
    fun _ hm => Text.ceilBoundary_le hm.1 hm.2⟩

theorem isGreatest_floorBoundary (text : Text) (n : Nat) :
    IsGreatest {m | text.isBoundary m = true ∧ m ≤ min n text.bytes}
      (text.floorBoundary (min n text.bytes)) :=
  ⟨⟨text.isBoundary_floorBoundary _, text.floorBoundary_le _⟩,
    fun _ hm => Text.le_floorBoundary hm.1 hm.2⟩

theorem clamp?_eq_some {text : Text} {s : Span} {p : Run} : clamp? text s = some p ↔
    p.start < p.stop ∧ p = ⟨text.ceilBoundary (min s.start text.bytes),
      text.floorBoundary (min s.stop text.bytes), s.tags⟩ := by
  dsimp only [clamp?]
  split
  next hlt =>
    rw [Option.some_inj, eq_comm]
    exact ⟨fun h => ⟨h ▸ hlt, h⟩, And.right⟩
  next hge =>
    refine ⟨nofun, ?_⟩
    rintro ⟨hlt, rfl⟩
    exact absurd hlt hge

/-- The bytes that a span covers are those of its piece. -/
theorem covers_iff {text : Text} {s : Span} {i : Nat} :
    s.Covers text i ↔ ∃ p, clamp? text s = some p ∧ p.start ≤ i ∧ i < p.stop := by
  constructor
  · rintro ⟨a, b, ha, hb, hai, hib⟩
    obtain rfl := ha.unique (isLeast_ceilBoundary text s.start)
    obtain rfl := hb.unique (isGreatest_floorBoundary text s.stop)
    exact ⟨_, clamp?_eq_some.mpr ⟨Nat.lt_of_le_of_lt hai hib, rfl⟩, hai, hib⟩
  · rintro ⟨p, hp, hstart, hstop⟩
    obtain ⟨-, rfl⟩ := clamp?_eq_some.mp hp
    exact ⟨_, _, isLeast_ceilBoundary text s.start, isGreatest_floorBoundary text s.stop, hstart,
      hstop⟩

/-- A byte has the tags of the pieces over it exactly if it has those of the spans that cover it. -/
theorem exists_mem_filterMap_clamp? {text : Text} {spans : List Span} {i : Nat} {tag : String} :
    (∃ p ∈ spans.filterMap (clamp? text), p.start ≤ i ∧ i < p.stop ∧ tag ∈ p.tags) ↔
      ∃ s ∈ spans, s.Covers text i ∧ tag ∈ s.tags := by
  simp only [covers_iff, List.mem_filterMap]
  constructor
  · rintro ⟨p, ⟨s, hs, hp⟩, hstart, hstop, htag⟩
    obtain ⟨-, rfl⟩ := clamp?_eq_some.mp hp
    exact ⟨s, hs, ⟨_, hp, hstart, hstop⟩, htag⟩
  · rintro ⟨s, hs, ⟨p, hp, hstart, hstop⟩, htag⟩
    refine ⟨p, ⟨s, hs, hp⟩, hstart, hstop, ?_⟩
    rw [(clamp?_eq_some.mp hp).2]
    exact htag

/-- The runs of a text divide it by the tags of the spans that cover each byte. -/
theorem divides_ofSpans (text : Text) (spans : List Span) :
    Divides text (fun i tag => ∃ s ∈ spans, s.Covers text i ∧ tag ∈ s.tags) 0
      (ofSpans text spans) := by
  have hlt : ∀ p ∈ spans.filterMap (clamp? text), p.start < p.stop := by
    intro p hp
    obtain ⟨s, -, hs⟩ := List.mem_filterMap.mp hp
    exact (clamp?_eq_some.mp hs).1
  have hcuts : ∀ p ∈ spans.filterMap (clamp? text), ∀ x, x = p.start ∨ x = p.stop → 0 ≤ x →
      x ∈ cuts text (spans.filterMap (clamp? text)) :=
    fun p hp x hx _ => mem_cuts.mpr (.inr (.inr ⟨p, hp, hx⟩))
  have hend : text.bytes ∈ cuts text (spans.filterMap (clamp? text)) :=
    mem_cuts.mpr (.inr (.inl rfl))
  have hsorted := pairwise_cuts text (spans.filterMap (clamp? text))
  have hboundary := isBoundary_of_mem_cuts text spans
  obtain ⟨rest, hrest⟩ := exists_cuts_eq text (spans.filterMap (clamp? text))
  have hstart := Sweep.at_start (spans.filterMap (clamp? text))
  simp only [← exists_mem_filterMap_clamp?, ofSpans]
  rw [hrest] at hcuts hend hsorted hboundary ⊢
  exact hstart.divides_runs hlt (Nat.le_refl 0) hcuts hsorted hend hboundary

/-- The runs of a text tile it, under any spans. -/
theorem tiles_ofSpans (text : Text) (spans : List Span) :
    text.Tiles 0 ((ofSpans text spans).map fun r => (r.start, r.stop)) :=
  (divides_ofSpans text spans).tiles

/-- The runs of a text are the one way to cut it into stretches of equal tags, where a byte has the
tags of all spans that cover it.  So an empty text has none, and neither the order of the spans
matters nor how often each is given. -/
theorem divides_iff_eq_ofSpans (text : Text) (spans : List Span) :
    (∀ rs, Divides text (fun i tag => ∃ s ∈ spans, s.Covers text i ∧ tag ∈ s.tags) 0 rs ↔
      rs = ofSpans text spans) ∧ ofSpans [] spans = [] ∧
    ∀ others : List Span, (∀ s, s ∈ others ↔ s ∈ spans) →
      ofSpans text others = ofSpans text spans := by
  refine ⟨fun rs => ⟨fun h => h.eq (divides_ofSpans text spans), ?_⟩, ?_, fun others h => ?_⟩
  · rintro rfl
    exact divides_ofSpans text spans
  · exact (divides_ofSpans [] spans).eq (divides_nil.mpr rfl)
  · have hothers := divides_ofSpans text others
    simp only [h] at hothers
    exact hothers.eq (divides_ofSpans text spans)

/-- The second span stops inside a character and the third starts inside it, so nothing is left of
the one, and the other starts behind that character. -/
theorem divides_iff_eq_ofSpans_reversed :
    let spans : List Span := [⟨1, 0, 9, .ofList ["x"]⟩, ⟨1, 1, 2, .ofList ["y"]⟩,
      ⟨1, 2, 4, .ofList ["x", "z"]⟩]
    (∀ s, s ∈ spans.reverse ↔ s ∈ spans) ∧
      ofSpans ['a', 'é', 'b'] spans = [⟨0, 3, .ofList ["x"]⟩, ⟨3, 4, .ofList ["x", "z"]⟩] ∧
      ofSpans ['a', 'é', 'b'] spans.reverse = ofSpans ['a', 'é', 'b'] spans := by
  intro spans
  refine ⟨fun _ => List.mem_reverse, ?_,
    (divides_iff_eq_ofSpans _ _).2.2 _ fun _ => List.mem_reverse⟩
  -- What is left of the spans is in order already.
  have hpieces : spans.filterMap (clamp? ['a', 'é', 'b']) =
      [⟨0, 4, .ofList ["x"]⟩, ⟨3, 4, .ofList ["x", "z"]⟩] := by decide
  rw [ofSpans, hpieces, List.mergeSort_of_pairwise (by decide),
    List.mergeSort_of_pairwise (by decide)]
  decide

end Run

end BlockNotes
