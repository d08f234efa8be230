import BlockNotes.Proofs.Autoformat.Advance
import BlockNotes.Proofs.Document.Cursor

/-!
# A fence becomes a code block

A block whose text is a fence becomes a code block.  Its text is deleted, the body of
the fence comes in, and it gets its kind, with one command for each of them
(`DraftM.checkFence_converts`).

After each command the block is at its path, with its identity and the cursor in it
(`Document.Reworked`), so the commands that follow have to do with the same block,
wherever the selection was and how far it went.  The language is made of word
characters, and none of these is blank (`Unicode.isWord_of_isBlank`).  So the code block
has it as it was written, unless there is none.
-/

namespace BlockNotes

/-! ## The language -/

namespace Unicode

/-- What a search finds lies in one of the ranges. -/
theorem CharSet.exists_of_search {ranges : Array (Nat × Nat)} {n fuel lo hi : Nat}
    (h : search ranges n fuel lo hi = true) : ∃ r ∈ ranges, r.1 ≤ n ∧ n ≤ r.2 := by
  fun_induction search ranges n fuel lo hi with
  | case1 => cases h
  | case2 lo hi fuel hlt mid first last hget hn ih => exact ih h
  | case3 lo hi fuel hlt mid first last hget hn hn' ih => exact ih h
  | case4 lo hi fuel hlt mid first last hget hn hn' =>
    exact ⟨_, Array.mem_of_getElem? hget, Nat.le_of_not_lt hn, Nat.le_of_not_lt hn'⟩
  | case5 => cases h
  | case6 => cases h

/-- No blank character is part of a word. -/
theorem isWord_of_isBlank {c : Char} (h : isBlank c = true) : isWord c = false := by
  obtain ⟨r, hr, hfirst, hlast⟩ := CharSet.exists_of_search h
  have hall : ∀ r ∈ blank.ranges.toList, ∀ n ∈ List.range' r.1 (r.2 + 1 - r.1),
      isWord (Char.ofNat n) = false := by decide +kernel
  have hc := hall r (Array.mem_toList_iff.mpr hr) c.toNat (List.mem_range'_1.mpr (by omega))
  rwa [Char.ofNat_toNat] at hc

end Unicode

namespace Fence

variable {t : Text} {fence : Fence}

theorem exists_word (h : ofText? t = some fence) :
    ∃ word : Text, (∀ c ∈ word, Unicode.isWord c = true) ∧ fence.language = String.ofList word := by
  obtain ⟨rest, -, h⟩ := Option.bind_eq_some_iff.mp h
  refine ⟨rest.takeWhile Unicode.isWord, List.all_eq_true.mp List.all_takeWhile, ?_⟩
  dsimp only at h
  split at h
  · cases h
    rfl
  · obtain ⟨body, -, rfl⟩ := Option.map_eq_some_iff.mp h
    rfl

/-- The language of a fence is kept as it is, unless there is none. -/
theorem codeOf_language (h : ofText? t = some fence) :
    Kind.codeOf fence.language = .code (if fence.language = "" then "text" else fence.language) := by
  obtain ⟨word, hword, hlanguage⟩ := exists_word h
  rw [hlanguage]
  cases word with
  | nil => rfl
  | cons c word =>
    have hc : Unicode.isBlank c = false := by
      by_contra hblank
      have hnot := Unicode.isWord_of_isBlank (Bool.eq_true_of_not_eq_false hblank)
      cases hnot.symm.trans (hword c List.mem_cons_self)
    have hname : Kind.isBlankName (String.ofList (c :: word)) = false := by
      simp [Kind.isBlankName, hc]
    have hne : String.ofList (c :: word) ≠ "" := by simp
    rw [Kind.codeOf, hname, if_neg Bool.false_ne_true, if_neg hne]

end Fence

/-! ## The commands -/

/-- The block at a path has become a code block with the language and the body of a fence, and the
cursor is at its end.  Every other block is where it was, with its identity, its kind and its
leaves. -/
structure Document.Fenced (d : Document) (path : Path) (b : Block) (fence : Fence) (d' : Document) :
    Prop where
  block : ∃ c, d'.blockAt? path = some c ∧ c.id = b.id ∧
    c.kind = .code (if fence.language = "" then "text" else fence.language) ∧ c.text = fence.body
  outside : ∀ q, q ≠ path → (d'.blockAt? q).map Block.own = (d.blockAt? q).map Block.own
  cursor : d'.CursorAt ⟨b.id, fence.body.bytes⟩

namespace DraftM

variable {s t : Draft} {path : Path} {b c : Block} {n : Nat}

/-- The whole text of a block is deleted. -/
theorem exists_cleared (hd : s.document.Regular) {p : Point} (hsite : s.document.Site p path b n) :
    ∃ first last d' c, s.document.startOf path = .ok first ∧
      s.document.endOf path = .ok last ∧
      perform (.deleteRange ⟨first, last⟩) s = .ok ⟨⟩ { s with document := d' } ∧
      s.document.Reworked path b c 0 d' ∧ c.kind = b.kind ∧ Node.marked c.children = [] := by
  obtain ⟨hfirst, hsite⟩ := hsite.startOf_eq
  obtain ⟨last, hlast, hsite'⟩ := hsite.exists_endOf
  obtain ⟨hstart, hstop⟩ := Document.site_start_stop hsite hsite' (Nat.zero_le _)
  obtain ⟨_, d', c, hdelete, hreworked, hkind, hmarked⟩ := hd.exists_deleteRange hstart hstop
  refine ⟨_, last, d', c, hfirst, hlast, perform_of_ok hdelete, hreworked, hkind, ?_⟩
  rw [hmarked, Text.charsBefore_zero, Text.charsBefore_bytes,
    ← Node.length_marked_of_areLeaves hsite.areLeaves]
  simp

/-- The body of a fence comes into an empty block. -/
theorem exists_filled (h : s.document.CursorIn path c 0) (hvoid : c.kind.isVoid = false)
    (hempty : Node.marked c.children = []) (body : Text) :
    ∃ d' c', perform (.insertText body) s = .ok ⟨⟩ { s with document := d' } ∧
      s.document.Reworked path c c' body.bytes d' ∧
      (Node.marked c'.children).map Prod.fst = body := by
  obtain ⟨_, d', c', hinsert, hreworked, -, marks, hmarked⟩ := h.exists_insertText hvoid body
  rw [Nat.zero_add] at hreworked
  refine ⟨d', c', perform_of_ok hinsert, hreworked, ?_⟩
  rw [hmarked, hempty]
  simp [Function.comp_def]

/-- A block with the body of a fence becomes a code block. -/
theorem exists_become {fence : Fence} {text : Text} (hfence : Fence.ofText? text = some fence)
    (hleaves : Node.AreLeaves b.children)
    (h : s.document.Reworked path b c fence.body.bytes t.document)
    (hbody : (Node.marked c.children).map Prod.fst = fence.body) :
    ∃ d', (do
      perform (.setKind path (.codeOf fence.language))
      later .refresh
      pure true) t = .ok true ⟨d', t.tasks ++ [.refresh]⟩ ∧
      s.document.Fenced path b fence d' := by
  obtain ⟨_, d', c', hset, hrebuilt, hrecast, -⟩ :=
    h.cursor.regular.exists_setKind h.cursor.blockAt? (.codeOf fence.language)
  have hswapped := h.swapped.trans_single hrebuilt.swapped
  have hleaves' : Node.AreLeaves c'.children := hrecast.areLeaves h.cursor.areLeaves
  have hcanonical : (Kind.codeOf fence.language).canonical = Kind.codeOf fence.language :=
    Kind.canonical_of_isCanonical (Kind.isCanonical_canonical (.code fence.language))
  refine ⟨d', (bind_of_ok (perform_of_ok hset)).trans rfl, ⟨c', hswapped.blockAt?_single,
    hrecast.id_eq.trans h.id_eq, ?_, ?_⟩, ?_, ?_⟩
  · rw [hrecast.kind_eq, hcanonical, Fence.codeOf_language hfence]
  · rw [← Block.map_fst_marked, hrecast.marked_eq, hbody]
  · exact fun q hq => hswapped.map_own_blockAt? hleaves hleaves' hq
  · rw [← h.id_eq]
    exact hrebuilt.cursor _ h.cursor.cursor

/-- A block with the text of a fence becomes a code block, if it can be edited and is none. -/
theorem exists_checkFence (hs : s.document.Ready) (hblock : s.document.currentBlock? = some (path, b))
    (hkind : (b.kind.isCode || b.kind.isVoid) = false) {fence : Fence}
    (hfence : Fence.ofText? b.text = some fence) :
    ∃ d', checkFence s = .ok true ⟨d', s.tasks ++ [.refresh]⟩ ∧
      s.document.Fenced path b fence d' := by
  obtain ⟨r, n, -, hsite⟩ := hs.exists_site hblock
  obtain ⟨first, last, d₁, c, hfirst, hlast, hclear, hreworked, hsame, hempty⟩ :=
    exists_cleared hs.regular hsite
  have hvoid : c.kind.isVoid = false := hsame ▸ (Bool.or_eq_false_iff.mp hkind).2
  rw [checkFence, get_bind]
  simp only [hblock, hkind, hfence, if_neg Bool.false_ne_true]
  rw [bind_of_ok (ofExcept_of_ok hfirst), bind_of_ok (ofExcept_of_ok hlast), bind_of_ok hclear]
  cases fence with
  | opened language =>
    exact exists_become (t := { s with document := d₁ }) hfence hsite.areLeaves hreworked
      (by rw [hempty]; rfl)
  | complete language body =>
    obtain ⟨d₂, c', hinsert, hreworked', hbody⟩ :=
      exists_filled (s := { s with document := d₁ }) hreworked.cursor hvoid hempty body
    dsimp only
    rw [bind_of_ok hinsert]
    exact exists_become (t := { s with document := d₂ }) hfence hsite.areLeaves
      (hreworked.trans hreworked') hbody

theorem checkFence_of_kind (hblock : s.document.currentBlock? = some (path, b))
    (hkind : (b.kind.isCode || b.kind.isVoid) = true) : checkFence s = .ok false s := by
  rw [checkFence, get_bind]
  simp only [hblock, hkind, if_true]
  rfl

theorem checkFence_of_text (hblock : s.document.currentBlock? = some (path, b))
    (hkind : (b.kind.isCode || b.kind.isVoid) = false) (hfence : Fence.ofText? b.text = none) :
    checkFence s = .ok false s := by
  rw [checkFence, get_bind]
  simp only [hblock, hkind, hfence, if_neg Bool.false_ne_true]
  rfl

/-- A block becomes a code block, or there is a reason why it does not, and nothing happens. -/
theorem checkFence_cases (hs : s.document.Ready) (hblock : s.document.currentBlock? = some (path, b)) :
    (checkFence s = .ok false s ∧
      ((b.kind.isCode || b.kind.isVoid) = true ∨ Fence.ofText? b.text = none)) ∨
    ∃ fence d', (b.kind.isCode || b.kind.isVoid) = false ∧ Fence.ofText? b.text = some fence ∧
      checkFence s = .ok true ⟨d', s.tasks ++ [.refresh]⟩ ∧ s.document.Fenced path b fence d' := by
  cases hkind : b.kind.isCode || b.kind.isVoid with
  | true => exact .inl ⟨checkFence_of_kind hblock hkind, .inl rfl⟩
  | false =>
    cases hfence : Fence.ofText? b.text with
    | none => exact .inl ⟨checkFence_of_text hblock hkind hfence, .inr rfl⟩
    | some fence =>
      obtain ⟨d', hrun, hfenced⟩ := exists_checkFence hs hblock hkind hfence
      exact .inr ⟨fence, d', rfl, rfl, hrun, hfenced⟩

/-- Looking for a fence never fails. -/
theorem exists_checkFence_ok (hs : s.document.Ready) : ∃ found t, checkFence s = .ok found t := by
  cases hblock : s.document.currentBlock? with
  | none =>
    refine ⟨false, s, ?_⟩
    rw [checkFence, get_bind]
    simp only [hblock]
    rfl
  | some place =>
    rcases checkFence_cases hs hblock with ⟨hfalse, -⟩ | ⟨_, _, -, -, htrue, -⟩
    · exact ⟨_, _, hfalse⟩
    · exact ⟨_, _, htrue⟩

/-- In a ready document with a selection, wherever it goes, the block that holds its anchor becomes a
code block exactly if it is neither a code block nor an image and its text is a fence.  Then one task
is put off.  Otherwise nothing happens, and either way there is an answer. -/
theorem checkFence_converts (hs : s.document.Ready) {r : Range}
    (hr : s.document.selection = some r) :
    ∃ path b, s.document.currentBlock? = some (path, b) ∧
      ((∃ t, checkFence s = .ok true t) ↔
        b.kind.isCode = false ∧ b.kind.isVoid = false ∧ (Fence.ofText? b.text).isSome = true) ∧
      (checkFence s = .ok false s ∨ ∃ fence d', Fence.ofText? b.text = some fence ∧
        checkFence s = .ok true ⟨d', s.tasks ++ [.refresh]⟩ ∧ s.document.Fenced path b fence d') := by
  obtain ⟨path, b, n, hsite⟩ := hs.regular.exists_site (hs.selection r hr).1
  have hblock := Document.currentBlock?_eq hr hsite
  refine ⟨path, b, hblock, ?_⟩
  rw [← and_assoc, ← Bool.or_eq_false_iff]
  rcases checkFence_cases hs hblock with ⟨hfalse, hno⟩ | ⟨fence, d', hkind, hfence, htrue, hfenced⟩
  · refine ⟨⟨?_, ?_⟩, .inl hfalse⟩
    · rintro ⟨t, htrue⟩
      cases hfalse.symm.trans htrue
    · rintro ⟨hkind, hfence⟩
      rcases hno with h | h
      · cases hkind.symm.trans h
      · rw [h] at hfence
        cases hfence
  · refine ⟨⟨fun _ => ⟨hkind, by rw [hfence]; rfl⟩, fun _ => ⟨_, htrue⟩⟩, .inr ?_⟩
    exact ⟨fence, d', hfence, htrue, hfenced⟩

/-- A quotation with a fence in two leaves, and a selection from there back into a paragraph. -/
theorem checkFence_converts_quote :
    let d := (Document.ofBlocks [.ofText .paragraph ['x'], .ofKind .quote
      [.leaf ⟨['`', '`', '`', 'r'], {}⟩,
        .leaf ⟨['s', '\n', 'é', '\n', '`', '`', '`', '\n'], { bold := true }⟩]]).run
          [.select ⟨⟨[1, 1], 2⟩, ⟨[0, 0], 1⟩⟩]
    let s : Draft := { document := d, tasks := [.checkFence] }
    ∃ b d', d.blockAt? [1] = some b ∧ b.id = 2 ∧
      checkFence s = .ok true ⟨d', [.checkFence, .refresh]⟩ ∧
      d.Fenced [1] b (.complete "rs" ['é']) d' := by
  intro d s
  have hsound : ∀ b ∈ [Block.ofText .paragraph ['x'], .ofKind .quote
      [.leaf ⟨['`', '`', '`', 'r'], {}⟩,
        .leaf ⟨['s', '\n', 'é', '\n', '`', '`', '`', '\n'], { bold := true }⟩]],
      b.Everywhere Block.Sound := by
    rw [List.forall_mem_cons, List.forall_mem_singleton]
    exact ⟨Block.everywhere_sound_ofText _ _,
      Block.everywhere_sound_ofKind _ (.inl (Node.areLeaves_iff.mpr rfl)) trivial⟩
  have hs : s.document.Ready := by
    refine ⟨Document.regular_run hsound (List.forall_mem_singleton.mpr trivial), by decide, ?_⟩
    rintro _ ⟨⟩
    exact ⟨Document.addresses_iff.mpr ⟨⟨2, 6⟩, by rfl⟩, Document.addresses_iff.mpr ⟨⟨1, 1⟩, by rfl⟩⟩
  obtain ⟨path, b, hblock, hiff, h⟩ := checkFence_converts hs (by rfl)
  cases hblock.symm.trans (show d.currentBlock? = some ([1], _) by rfl)
  rcases h with hfalse | ⟨fence, d', hfence, hrun, hfenced⟩
  · obtain ⟨t, ht⟩ := hiff.mpr ⟨rfl, rfl, by decide⟩
    cases hfalse.symm.trans ht
  · cases hfence.symm.trans (show _ = some (Fence.complete "rs" ['é']) by decide)
    exact ⟨_, d', rfl, rfl, hrun, hfenced⟩

end DraftM

end BlockNotes
