import BlockNotes.Autoformat.FencePattern
import BlockNotes.Proofs.Autoformat.Grammar
import BlockNotes.Proofs.Pattern.Instructions

/-!
# Fences are what their patterns match

`Fence.ofText?` reads a fence from both ends.  The two patterns do not say how a text is
read, but only which of several ways goes first: as many word characters as possible, then
as many blanks as possible before the line feed, then as short a body as possible.  Here
the reader is shown to come to the same as the patterns (`Fence.ofText?_eq_matched?`).

The order is that of the programs of the patterns.  The first way of which something comes
has a number of word characters, of blanks and of characters in the body, and this number
is found by trying (`Fence.wordAt?`).  The trying comes to what is read: blanks are no word
characters, a backtick is no blank, and so there is one word, one closing, and the last
line feed among the blanks in between.
-/

namespace BlockNotes

/-! ## Sets of characters -/

namespace Unicode

theorem CharSet.contains_single (c d : Char) : (CharSet.single c).contains d = (d == c) := by
  have hranges : (single c).ranges = #[(c.toNat, c.toNat)] := rfl
  have hsearch : search #[(c.toNat, c.toNat)] d.toNat 2 0 1 =
      if d.toNat < c.toNat then false else if c.toNat < d.toNat then false else true := rfl
  rw [contains, has, hranges]
  refine hsearch.trans ?_
  by_cases heq : d = c
  · subst heq
    rw [if_neg (Nat.lt_irrefl _), if_neg (Nat.lt_irrefl _), beq_self_eq_true]
  · rw [beq_eq_false_iff_ne.mpr heq]
    rcases Nat.lt_or_gt_of_ne fun h => heq (Char.toNat_inj.mp h) with hlt | hgt
    · rw [if_pos hlt]
    · rw [if_pos hgt, ite_self]

/-- The set leaves out the surrogates, and no character is one. -/
theorem CharSet.contains_full (c : Char) : CharSet.full.contains c = true := by
  have hvalid : c.toNat < 0xd800 ∨ 0xdfff < c.toNat ∧ c.toNat < 0x110000 := c.valid
  have hsearch : full.contains c =
      if c.toNat < 0xe000 then
        if c.toNat < 0 then false else if 0xd7ff < c.toNat then false else true
      else if 0x10ffff < c.toNat then false else true := rfl
  rw [hsearch]
  split
  next => rw [if_neg (Nat.not_lt_zero _), if_neg (by omega)]
  next => rw [if_neg (by omega)]

theorem contains_word (c : Char) : word.contains c = isWord c := by
  unfold isWord
  split
  next hlt =>
    have hall : ∀ n < 0x80, word.contains (Char.ofNat n) =
        ((Char.ofNat n).isAlphanum || Char.ofNat n == '_') := by decide +kernel
    have hc := hall c.toNat hlt
    rwa [Char.ofNat_toNat] at hc
  next => rfl

end Unicode

/-! ## The patterns -/

namespace Pattern

/-- What is read of a pattern, before it is looked at whether it is too large. -/
def Expr.part? (s : Text) : Option Part := do
  let start : ReadState := { frames := [{ outside := {}, isToken := false }] }
  let st ← start.run? (s.length + 1) s
  match st.frames with
  | [fr] => some fr.body
  | _ => none

theorem Expr.ofText?_of_part? {s : Text} {part : Part} (h : Expr.part? s = some part)
    (hsize : part.depth ≤ maxDepth ∧ part.expr.weight ≤ maxWeight) :
    Expr.ofText? s = some part.expr := by
  obtain ⟨st, hrun, hread⟩ := Option.bind_eq_some_iff.mp h
  have hframes : ∃ fr, st.frames = [fr] ∧ fr.body = part := by
    split at hread
    next fr hfr => exact ⟨fr, hfr, Option.some.inj hread⟩
    next => cases hread
  obtain ⟨fr, hfr, rfl⟩ := hframes
  refine Option.bind_eq_some_iff.mpr ⟨st, hrun, ?_⟩
  rw [hfr]
  exact if_pos hsize

end Pattern

namespace Fence

open Pattern

/-- Three backticks, as a pattern. -/
def ticksExpr : List Expr :=
  [.set (.single '`'), .set (.single '`'), .set (.single '`')]

/-- A word, as a pattern. -/
def wordExpr : Expr :=
  .rounds 0 none true (.set Unicode.word)

/-- Blanks, as a pattern. -/
def blankExpr : Expr :=
  .rounds 0 none true (.set Unicode.blank)

/-- The body, as a pattern. -/
def bodyExpr : Expr :=
  .rounds 0 none false (.set .full)

/-- What is read of the pattern of an open fence, with something for its group. -/
def openExpr (word : Expr) : Expr :=
  .ofSeq (.assert .textStart :: ticksExpr ++ [word, .assert .textEnd])

/-- What is read of the pattern of a complete fence, with something for its groups. -/
def completeExpr (word body : Expr) : Expr :=
  .ofSeq (.assert .textStart :: ticksExpr ++ [word, blankExpr, .set (.single '\n'), body,
    .set (.single '\n')] ++ ticksExpr ++ [blankExpr, .assert .textEnd])

theorem ofText?_openPattern : Expr.ofText? openPattern = some (openExpr wordExpr) :=
  Expr.ofText?_of_part? (show _ = some ⟨openExpr wordExpr, 3, true⟩ from rfl) (by decide +kernel)

theorem ofText?_openPattern_word :
    Expr.ofText? (nameGroup 1 openPattern) = some (openExpr (.token wordExpr)) :=
  Expr.ofText?_of_part? (show _ = some ⟨openExpr (.token wordExpr), 3, true⟩ from rfl)
    (by decide +kernel)

theorem ofText?_completePattern_word :
    Expr.ofText? (nameGroup 1 completePattern) = some (completeExpr (.token wordExpr) bodyExpr) :=
  Expr.ofText?_of_part? (show _ = some ⟨completeExpr (.token wordExpr) bodyExpr, 5, true⟩ from rfl)
    (by decide +kernel)

theorem ofText?_completePattern_body :
    Expr.ofText? (nameGroup 2 completePattern) = some (completeExpr wordExpr (.token bodyExpr)) :=
  Expr.ofText?_of_part? (show _ = some ⟨completeExpr wordExpr (.token bodyExpr), 5, true⟩ from rfl)
    (by decide +kernel)

/-! ## Trying numbers of characters -/

variable {rest more : Text} {c : Char}

/-- What follows a character at the start of a text. -/
def behind? (c : Char) : Text → Option Text
  | [] => none
  | d :: rest => if d = c then some rest else none

/-- Whether a text is a closing. -/
def closes (rest : Text) : Bool :=
  ((behind? '\n' rest).bind afterTicks?).any fun tail => tail.all Unicode.isBlank

/-- How many characters come before the closing, the fewest first. -/
def bodyAt? (rest : Text) : Option Nat :=
  lazily (fun _ => true) rest fun k => if closes (rest.drop k) then some k else none

/-- How many blanks come before the line feed of a body, the most first, and how long the body is. -/
def gapAt? (rest : Text) : Option (Nat × Nat) :=
  greedily Unicode.isBlank rest fun j =>
    (behind? '\n' (rest.drop j)).bind fun more => (bodyAt? more).map fun k => (j, k)

/-- How many word characters come before blanks and a body, the most first, and how long these
are. -/
def wordAt? (rest : Text) : Option (Nat × Nat × Nat) :=
  greedily Unicode.isWord rest fun i => (gapAt? (rest.drop i)).map fun x => (i, x)

theorem behind?_eq_some : behind? c rest = some more ↔ rest = c :: more := by
  cases rest with
  | nil => simp [behind?]
  | cons d rest =>
    rw [behind?]
    split
    next hd => simp [hd]
    next hd => simp [hd]

theorem afterTicks?_eq (t : Text) :
    afterTicks? t = ((behind? '`' t).bind (behind? '`')).bind (behind? '`') := by
  refine Option.ext fun rest => ?_
  rw [afterTicks?_eq_some]
  simp only [Option.bind_eq_some_iff, behind?_eq_some]
  constructor
  · rintro rfl
    exact ⟨_, ⟨_, rfl, rfl⟩, rfl⟩
  · rintro ⟨_, ⟨_, rfl, rfl⟩, rfl⟩
    rfl

/-! ## What the programs try -/

section

variable {p : Program} (hp : p.Falls) {t : Text} {w : Way} {l body line next : Nat}

include hp in
theorem prefer_single (h : p.code[w.label]? = some (.consume (.single c) next)) (position : Nat) :
    hp.prefer t.toArray position w = (behind? c (t.drop position)).bind fun _ =>
      hp.prefer t.toArray (position + 1) { w with label := next } := by
  rw [hp.prefer_consume h]
  cases t.drop position with
  | nil => rfl
  | cons d rest =>
    dsimp only
    rw [Unicode.CharSet.contains_single, behind?]
    simp only [beq_iff_eq]
    split <;> rfl

include hp in
theorem prefer_ticks {a b : Nat} (h₁ : p.code[w.label]? = some (.consume (.single '`') a))
    (h₂ : p.code[a]? = some (.consume (.single '`') b))
    (h₃ : p.code[b]? = some (.consume (.single '`') next)) (position : Nat) :
    hp.prefer t.toArray position w = (afterTicks? (t.drop position)).bind fun _ =>
      hp.prefer t.toArray (position + 3) { w with label := next } := by
  rw [afterTicks?_eq, Option.bind_assoc, Option.bind_assoc, prefer_single hp h₁]
  refine Option.bind_congr fun rest hrest => ?_
  have hdrop := drop_succ (behind?_eq_some.mp hrest)
  rw [prefer_single hp (w := { w with label := a }) h₂, hdrop]
  refine Option.bind_congr fun rest' hrest' => ?_
  have hdrop' := drop_succ (hdrop.trans (behind?_eq_some.mp hrest'))
  rw [prefer_single hp (w := { w with label := b }) h₃, hdrop']

/-- The instructions for the closing, which is the same in all programs of a complete fence. -/
structure HasClosing (p : Program) : Prop where
  accept : p.code[0]? = some .accept
  stop : p.code[1]? = some (.check .textEnd 0)
  blanks : p.code[2]? = some (.fork 3 1)
  blank : p.code[3]? = some (.consume Unicode.blank 2)
  thirdTick : p.code[4]? = some (.consume (.single '`') 2)
  secondTick : p.code[5]? = some (.consume (.single '`') 4)
  firstTick : p.code[6]? = some (.consume (.single '`') 5)
  line : p.code[7]? = some (.consume (.single '\n') 6)

include hp in
theorem prefer_stop (haccept : p.code[0]? = some .accept)
    (h : p.code[w.label]? = some (.check .textEnd 0)) (position : Nat) :
    hp.prefer t.toArray position w =
      if t.drop position = [] then some ({ w with label := 0 }, position) else none := by
  rw [hp.prefer_check h, hp.prefer_accept (w := { w with label := 0 }) haccept]
  cases t.drop position <;> rfl

include hp in
theorem HasClosing.prefer_blanks (h : HasClosing p) (position : Nat) :
    hp.prefer t.toArray position { w with label := 2 } =
      if (t.drop position).all Unicode.isBlank then
        some ({ w with label := 0 }, position + (t.drop position).length)
      else none :=
  hp.prefer_greedy_end (w := { w with label := 2 }) (f := fun n => ({ w with label := 0 }, n))
    h.blanks h.blank (prefer_stop hp (w := { w with label := 1 }) h.accept h.stop) position

include hp in
theorem HasClosing.prefer_closing (h : HasClosing p) (position : Nat) :
    hp.prefer t.toArray position { w with label := 7 } =
      if closes (t.drop position) then some ({ w with label := 0 }, t.length) else none := by
  rw [prefer_single hp (w := { w with label := 7 }) h.line, closes]
  cases hline : behind? '\n' (t.drop position) with
  | none => rfl
  | some rest =>
    have hdrop := drop_succ (behind?_eq_some.mp hline)
    rw [Option.bind_some, Option.bind_some, prefer_ticks hp (w := { w with label := 6 }) h.firstTick
      h.secondTick h.thirdTick, hdrop]
    cases hticks : afterTicks? rest with
    | none => rfl
    | some tail =>
      have htail : t.drop (position + 1 + 3) = tail := by
        rw [← List.drop_drop, hdrop, afterTicks?_eq_some.mp hticks]
        rfl
      have hlength : position + 1 + 3 + tail.length = t.length := by
        have hsize := congrArg List.length (behind?_eq_some.mp hline)
        rw [List.length_drop, List.length_cons, afterTicks?_eq_some.mp hticks] at hsize
        simp only [ticks, List.length_append, List.length_cons, List.length_nil] at hsize
        omega
      rw [Option.bind_some, h.prefer_blanks hp, htail, hlength]
      rfl

/-! ## Loops of the programs -/

variable {F : Nat → Way × Nat} {G : Nat → Nat → Way × Nat} {H : Nat → Nat × Nat → Way × Nat}

include hp in
theorem prefer_body (hfork : p.code[w.label]? = some (.fork next body))
    (hbody : p.code[body]? = some (.consume .full w.label))
    (hnext : ∀ position, hp.prefer t.toArray position { w with label := next } =
      if closes (t.drop position) then some (F position) else none) (position : Nat) :
    hp.prefer t.toArray position w = (bodyAt? (t.drop position)).map fun k => F (position + k) := by
  rw [hp.prefer_lazy hfork hbody, bodyAt?, map_lazily, funext Unicode.CharSet.contains_full]
  congr 1
  funext k
  rw [hnext, List.drop_drop]
  split <;> rfl

include hp in
theorem prefer_gap (hfork : p.code[w.label]? = some (.fork body line))
    (hbody : p.code[body]? = some (.consume Unicode.blank w.label))
    (hline : p.code[line]? = some (.consume (.single '\n') next))
    (hnext : ∀ position, hp.prefer t.toArray position { w with label := next } =
      (bodyAt? (t.drop position)).map (G position)) (position : Nat) :
    hp.prefer t.toArray position w =
      (gapAt? (t.drop position)).map fun x => G (position + x.1 + 1) x.2 := by
  rw [hp.prefer_greedy hfork hbody, gapAt?, map_greedily]
  congr 1
  funext j
  rw [prefer_single hp (w := { w with label := line }) hline, List.drop_drop]
  cases hmore : behind? '\n' (t.drop (position + j)) with
  | none => rfl
  | some more =>
    rw [Option.bind_some, Option.bind_some, hnext, drop_succ (behind?_eq_some.mp hmore),
      Option.map_map]
    rfl

include hp in
theorem prefer_word (hfork : p.code[w.label]? = some (.fork body next))
    (hbody : p.code[body]? = some (.consume Unicode.word w.label))
    (hnext : ∀ position, hp.prefer t.toArray position { w with label := next } =
      (gapAt? (t.drop position)).map (H position)) (position : Nat) :
    hp.prefer t.toArray position w =
      (wordAt? (t.drop position)).map fun x => H (position + x.1) x.2 := by
  rw [hp.prefer_greedy hfork hbody, wordAt?, map_greedily, funext Unicode.contains_word]
  congr 1
  funext i
  rw [hnext, List.drop_drop, Option.map_map]
  rfl

end

/-! ## The four programs -/

/-- The program of an open fence. -/
def openProgram : Program where
  code := #[.accept, .check .textEnd 0, .fork 3 1, .consume Unicode.word 2,
    .consume (.single '`') 2, .consume (.single '`') 4, .consume (.single '`') 5,
    .check .textStart 6]
  entry := 7

/-- The program of an open fence that notes its word. -/
def openWordProgram : Program where
  code := #[.accept, .check .textEnd 0, .mark false 1, .fork 4 2, .consume Unicode.word 3,
    .mark true 3, .consume (.single '`') 5, .consume (.single '`') 6, .consume (.single '`') 7,
    .check .textStart 8]
  entry := 9

/-- The program of a complete fence that notes its word. -/
def completeWordProgram : Program where
  code := #[.accept, .check .textEnd 0, .fork 3 1, .consume Unicode.blank 2,
    .consume (.single '`') 2, .consume (.single '`') 4, .consume (.single '`') 5,
    .consume (.single '\n') 6, .fork 7 9, .consume .full 8, .consume (.single '\n') 8, .fork 12 10,
    .consume Unicode.blank 11, .mark false 11, .fork 15 13, .consume Unicode.word 14,
    .mark true 14, .consume (.single '`') 16, .consume (.single '`') 17, .consume (.single '`') 18,
    .check .textStart 19]
  entry := 20

/-- The program of a complete fence that notes its body. -/
def completeBodyProgram : Program where
  code := #[.accept, .check .textEnd 0, .fork 3 1, .consume Unicode.blank 2,
    .consume (.single '`') 2, .consume (.single '`') 4, .consume (.single '`') 5,
    .consume (.single '\n') 6, .mark false 7, .fork 8 10, .consume .full 9, .mark true 9,
    .consume (.single '\n') 11, .fork 14 12, .consume Unicode.blank 13, .fork 16 13,
    .consume Unicode.word 15, .consume (.single '`') 15, .consume (.single '`') 17,
    .consume (.single '`') 18, .check .textStart 19]
  entry := 20

theorem ofExpr_open : Program.ofExpr (openExpr wordExpr) = openProgram := rfl

theorem ofExpr_openWord : Program.ofExpr (openExpr (.token wordExpr)) = openWordProgram := rfl

theorem ofExpr_completeWord :
    Program.ofExpr (completeExpr (.token wordExpr) bodyExpr) = completeWordProgram := rfl

theorem ofExpr_completeBody :
    Program.ofExpr (completeExpr wordExpr (.token bodyExpr)) = completeBodyProgram := rfl

theorem falls_open : openProgram.Falls := by decide +kernel

theorem falls_openWord : openWordProgram.Falls := by decide +kernel

theorem falls_completeWord : completeWordProgram.Falls := by decide +kernel

theorem falls_completeBody : completeBodyProgram.Falls := by decide +kernel

theorem hasClosing_completeWord : HasClosing completeWordProgram :=
  ⟨rfl, rfl, rfl, rfl, rfl, rfl, rfl, rfl⟩

theorem hasClosing_completeBody : HasClosing completeBodyProgram :=
  ⟨rfl, rfl, rfl, rfl, rfl, rfl, rfl, rfl⟩

section

variable (t : Text)

/-- A fence starts with backticks, and what comes of it is what comes of the text behind them. -/
theorem prefer_start {p : Program} (hp : p.Falls) {a b c next : Nat}
    (hstart : p.code[p.entry]? = some (.check .textStart a))
    (h₁ : p.code[a]? = some (.consume (.single '`') b))
    (h₂ : p.code[b]? = some (.consume (.single '`') c))
    (h₃ : p.code[c]? = some (.consume (.single '`') next)) :
    hp.prefer t.toArray 0 (p.entering 0) = (afterTicks? t).bind fun _ =>
      hp.prefer t.toArray 3 { label := next, start := 0 } := by
  rw [hp.prefer_check (w := p.entering 0) hstart]
  exact prefer_ticks hp (w := { label := a, start := 0 }) h₁ h₂ h₃ 0

theorem drop_three {rest : Text} (h : afterTicks? t = some rest) : t.drop 3 = rest := by
  rw [afterTicks?_eq_some.mp h]
  rfl

theorem prefer_completeWord :
    falls_completeWord.prefer t.toArray 0 (completeWordProgram.entering 0) =
      ((afterTicks? t).bind wordAt?).map fun x =>
        (⟨0, 0, some 3, some (3 + x.1)⟩, t.length) := by
  have hp := falls_completeWord
  have hbody : ∀ w : Way, ∀ n, hp.prefer t.toArray n { w with label := 8 } =
      (bodyAt? (t.drop n)).map fun _ => ({ w with label := 0 }, t.length) := fun w =>
    prefer_body hp (w := { w with label := 8 }) (F := fun _ => ({ w with label := 0 }, t.length))
      rfl rfl (hasClosing_completeWord.prefer_closing hp)
  have hgap : ∀ w : Way, ∀ n, hp.prefer t.toArray n { w with label := 11 } =
      (gapAt? (t.drop n)).map fun _ => ({ w with label := 0 }, t.length) := fun w =>
    prefer_gap hp (w := { w with label := 11 }) (G := fun _ _ => ({ w with label := 0 }, t.length))
      rfl rfl rfl (hbody w)
  have hclose : ∀ w : Way, ∀ n, hp.prefer t.toArray n { w with label := 13 } =
      (gapAt? (t.drop n)).map fun _ => ({ w with label := 0, closed := some n }, t.length) := by
    intro w n
    rw [hp.prefer_close (w := { w with label := 13 }) rfl]
    exact hgap { w with closed := some n } n
  have hword : ∀ w : Way, ∀ n, hp.prefer t.toArray n { w with label := 14 } =
      (wordAt? (t.drop n)).map fun x =>
        ({ w with label := 0, closed := some (n + x.1) }, t.length) := fun w =>
    prefer_word hp (w := { w with label := 14 })
      (H := fun n _ => ({ w with label := 0, closed := some n }, t.length)) rfl rfl (hclose w)
  rw [prefer_start t hp rfl rfl rfl rfl, Option.map_bind]
  refine Option.bind_congr fun rest hrest => ?_
  rw [hp.prefer_open (w := { label := 16, start := 0 }) rfl, ← drop_three t hrest]
  exact hword { label := 16, start := 0, opened := some 3 } 3

theorem prefer_completeBody :
    falls_completeBody.prefer t.toArray 0 (completeBodyProgram.entering 0) =
      ((afterTicks? t).bind wordAt?).map fun x =>
        (⟨0, 0, some (3 + x.1 + x.2.1 + 1), some (3 + x.1 + x.2.1 + 1 + x.2.2)⟩, t.length) := by
  have hp := falls_completeBody
  have hclose : ∀ w : Way, ∀ n, hp.prefer t.toArray n { w with label := 8 } =
      if closes (t.drop n) then some ({ w with label := 0, closed := some n }, t.length)
      else none := by
    intro w n
    rw [hp.prefer_close (w := { w with label := 8 }) rfl]
    exact hasClosing_completeBody.prefer_closing hp (w := { w with closed := some n }) n
  have hbody : ∀ w : Way, ∀ n, hp.prefer t.toArray n { w with label := 9 } =
      (bodyAt? (t.drop n)).map fun k =>
        ({ w with label := 0, closed := some (n + k) }, t.length) := fun w =>
    prefer_body hp (w := { w with label := 9 })
      (F := fun n => ({ w with label := 0, closed := some n }, t.length)) rfl rfl (hclose w)
  have hopen : ∀ w : Way, ∀ n, hp.prefer t.toArray n { w with label := 11 } =
      (bodyAt? (t.drop n)).map fun k =>
        ({ w with label := 0, opened := some n, closed := some (n + k) }, t.length) := by
    intro w n
    rw [hp.prefer_open (w := { w with label := 11 }) rfl]
    exact hbody { w with opened := some n } n
  have hgap : ∀ w : Way, ∀ n, hp.prefer t.toArray n { w with label := 13 } =
      (gapAt? (t.drop n)).map fun x =>
        ({ w with label := 0, opened := some (n + x.1 + 1), closed := some (n + x.1 + 1 + x.2) },
          t.length) := fun w =>
    prefer_gap hp (w := { w with label := 13 })
      (G := fun n k => ({ w with label := 0, opened := some n, closed := some (n + k) }, t.length))
      rfl rfl rfl (hopen w)
  rw [prefer_start t hp rfl rfl rfl rfl, Option.map_bind]
  refine Option.bind_congr fun rest hrest => ?_
  rw [← drop_three t hrest]
  exact prefer_word hp (w := { label := 15, start := 0 })
    (H := fun n x => (⟨0, 0, some (n + x.1 + 1), some (n + x.1 + 1 + x.2)⟩, t.length)) rfl rfl
    (hgap { label := 15, start := 0 }) 3

theorem prefer_openWord :
    falls_openWord.prefer t.toArray 0 (openWordProgram.entering 0) =
      ((afterTicks? t).filter fun rest => rest.all Unicode.isWord).map fun rest =>
        (⟨0, 0, some 3, some (3 + rest.length)⟩, 3 + rest.length) := by
  have hp := falls_openWord
  have hend : ∀ w : Way, ∀ n, hp.prefer t.toArray n { w with label := 2 } =
      if t.drop n = [] then some ({ w with label := 0, closed := some n }, n) else none := by
    intro w n
    rw [hp.prefer_close (w := { w with label := 2 }) rfl]
    exact prefer_stop hp (w := { w with label := 1, closed := some n }) rfl rfl n
  rw [prefer_start t hp rfl rfl rfl rfl]
  cases hticks : afterTicks? t with
  | none => rfl
  | some rest =>
    rw [Option.bind_some, hp.prefer_open (w := { label := 5, start := 0 }) rfl,
      hp.prefer_greedy_end (w := { label := 3, start := 0, opened := some 3 }) rfl rfl (hend _),
      drop_three t hticks, funext Unicode.contains_word, Option.filter_some]
    split <;> rfl

theorem prefer_open :
    falls_open.prefer t.toArray 0 (openProgram.entering 0) =
      ((afterTicks? t).filter fun rest => rest.all Unicode.isWord).map fun rest =>
        ({ label := 0, start := 0 }, 3 + rest.length) := by
  have hp := falls_open
  rw [prefer_start t hp rfl rfl rfl rfl]
  cases hticks : afterTicks? t with
  | none => rfl
  | some rest =>
    rw [Option.bind_some, hp.prefer_greedy_end (w := { label := 2, start := 0 }) rfl rfl
      (prefer_stop hp (w := { label := 1, start := 0 }) rfl rfl), drop_three t hticks,
      funext Unicode.contains_word, Option.filter_some]
    split <;> rfl

end

/-! ## What the patterns match -/

section

variable {α : Type} {t : Text} {r : Option α} {a b stop : α → Nat}

theorem exists_matchOf?_token {size a b stop : Nat} (hab : a ≤ b) (hstop : b ≤ stop)
    (hsize : stop ≤ size) :
    ∃ (m : Match size 0) (c : _), Program.matchOf? size 0 ⟨0, 0, some a, some b⟩ stop = some m ∧
      m.token = some c ∧ c.1.start = a ∧ c.1.stop = b := by
  rw [Program.matchOf?, dif_pos ⟨Nat.le_refl 0, Nat.zero_le _, hsize⟩]
  exact ⟨_, _, rfl, dif_pos ⟨Nat.zero_le a, hab, hstop⟩, rfl, rfl⟩

theorem captured?_eq {pattern : Text} {number next : Nat} {e : Expr} {p : Program}
    (he : Expr.ofText? (nameGroup number pattern) = some e) (hofExpr : Program.ofExpr e = p)
    (hp : p.Falls) (hstart : p.code[p.entry]? = some (.check .textStart next))
    (hprefer : hp.prefer t.toArray 0 (p.entering 0) =
      r.map fun x => (⟨0, 0, some (a x), some (b x)⟩, stop x))
    (hbounds : ∀ x, r = some x → a x ≤ b x ∧ b x ≤ stop x ∧ stop x ≤ t.length) :
    captured? pattern number t = r.map fun x => (t.drop (a x)).take (b x - a x) := by
  subst hofExpr
  unfold captured?
  rw [he]
  dsimp only [bind, Option.bind_some]
  rw [hp.find?_of_textStart hstart, hprefer]
  cases r with
  | none => rfl
  | some x =>
    obtain ⟨hab, hstop, hsize⟩ := hbounds x rfl
    have hsize : stop x ≤ t.toArray.size := hsize
    obtain ⟨m, c, hm, hc, ha, hb⟩ := exists_matchOf?_token hab hstop hsize
    rw [Option.map_some, Option.bind_some]
    dsimp only
    rw [hm, Option.bind_some, hc, Option.bind_some, ha, hb]
    rfl

end

/-! ## What is tried and what is read -/

theorem closes_iff {rest : Text} : closes rest = true ↔ beforeClosing? rest = some [] := by
  rw [beforeClosing?_eq_some, closes, Option.any_eq_true]
  simp only [Option.bind_eq_some_iff, behind?_eq_some, afterTicks?_eq_some, List.all_eq_true]
  constructor
  · rintro ⟨tail, ⟨_, rfl, rfl⟩, htail⟩
    exact ⟨tail, htail, rfl⟩
  · rintro ⟨tail, htail, rfl⟩
    exact ⟨tail, ⟨_, rfl, rfl⟩, htail⟩

theorem beforeClosing?_cons {c d : Char} {rest front : Text} :
    beforeClosing? (c :: rest) = some (d :: front) ↔ c = d ∧ beforeClosing? rest = some front := by
  simp only [beforeClosing?_eq_some, List.cons_append, List.cons.injEq]
  constructor
  · rintro ⟨tail, htail, hc, hrest⟩
    exact ⟨hc, tail, htail, hrest⟩
  · rintro ⟨hc, tail, htail, hrest⟩
    exact ⟨tail, htail, hc, hrest⟩

/-- Without a closing behind its first character a text has one at its start or none. -/
theorem beforeClosing?_cons_of_none {c : Char} {rest : Text} (h : beforeClosing? rest = none) :
    beforeClosing? (c :: rest) = none ∨ beforeClosing? (c :: rest) = some [] := by
  cases hfront : beforeClosing? (c :: rest) with
  | none => exact .inl rfl
  | some front =>
    cases front with
    | nil => exact .inr rfl
    | cons d front => cases h.symm.trans (beforeClosing?_cons.mp hfront).2

theorem bodyAt?_cons (c : Char) (rest : Text) :
    bodyAt? (c :: rest) =
      (if closes (c :: rest) then some 0 else none).or ((bodyAt? rest).map (· + 1)) := by
  rw [bodyAt?, bodyAt?, lazily, if_pos rfl, map_lazily]
  congr 2
  funext k
  rw [List.drop_succ_cons]
  split <;> rfl

/-- There is one closing, and the body goes up to it. -/
theorem bodyAt?_eq (rest : Text) : bodyAt? rest = (beforeClosing? rest).map List.length := by
  induction rest with
  | nil => rfl
  | cons c rest ih =>
    rw [bodyAt?_cons, ih]
    by_cases hcloses : closes (c :: rest) = true
    · rw [if_pos hcloses, closes_iff.mp hcloses]
      rfl
    · rw [if_neg hcloses, Option.none_or]
      cases hrest : beforeClosing? rest with
      | some front =>
        rw [beforeClosing?_cons.mpr ⟨rfl, hrest⟩]
        rfl
      | none =>
        rcases beforeClosing?_cons_of_none hrest with hnone | hnil
        · rw [hnone]
          rfl
        · exact absurd (closes_iff.mpr hnil) hcloses

theorem gapAt?_cons (c : Char) (rest : Text) :
    gapAt? (c :: rest) =
      if Unicode.isBlank c then
        ((gapAt? rest).map fun x => (x.1 + 1, x.2)).or
          (if c = '\n' then (bodyAt? rest).map fun k => (0, k) else none)
      else none := by
  have hline : ((behind? '\n' (c :: rest)).bind fun more => (bodyAt? more).map fun k => (0, k)) =
      if c = '\n' then (bodyAt? rest).map fun k => (0, k) else none := by
    rw [behind?]
    split <;> rfl
  rw [gapAt?, gapAt?, greedily, map_greedily]
  split
  next =>
    rw [← hline]
    congr 2
    funext j
    rw [List.drop_succ_cons]
    cases behind? '\n' (rest.drop j) with
    | none => rfl
    | some more => rw [Option.bind_some, Option.bind_some, Option.map_map]; rfl
  next hblank =>
    rw [List.drop_zero, hline, if_neg]
    rintro rfl
    exact hblank isBlank_newline

theorem afterBlankLines?_cons (c : Char) (rest : Text) :
    afterBlankLines? (c :: rest) =
      if Unicode.isBlank c then
        (afterBlankLines? rest).or (if c = '\n' then some rest else none)
      else none := by
  rw [afterBlankLines?]
  cases afterBlankLines? rest <;> rfl

theorem body?_cons (c : Char) (rest : Text) :
    body? (c :: rest) =
      if Unicode.isBlank c then (body? rest).or (if c = '\n' then beforeClosing? rest else none)
      else none := by
  rw [body?, body?]
  cases hrest : beforeClosing? rest with
  | some front =>
    rw [beforeClosing?_cons.mpr ⟨rfl, hrest⟩, Option.bind_some, Option.bind_some,
      afterBlankLines?_cons]
  | none =>
    have hnone : (beforeClosing? (c :: rest)).bind afterBlankLines? = none := by
      rcases beforeClosing?_cons_of_none hrest with hnone | hnil
      · rw [hnone]
        rfl
      · rw [hnil]
        rfl
    rw [hnone, Option.bind_none, Option.none_or, ite_self, ite_self]

/-- The gap that is tried first of those with a body behind them is the one with the most line feeds,
and behind it is the body that is read. -/
theorem gapAt?_cases (rest : Text) :
    (∃ x body, gapAt? rest = some x ∧ body? rest = some body ∧
        (rest.drop (x.1 + 1)).take x.2 = body ∧ x.1 + 1 + x.2 ≤ rest.length) ∨
      gapAt? rest = none ∧ body? rest = none := by
  induction rest with
  | nil => exact .inr ⟨rfl, rfl⟩
  | cons c rest ih =>
    rw [gapAt?_cons, body?_cons]
    split
    next =>
      rcases ih with ⟨x, body, hgap, hbody, htake, hle⟩ | ⟨hgap, hbody⟩
      · refine .inl ⟨(x.1 + 1, x.2), body, by rw [hgap]; rfl, by rw [hbody]; rfl, htake, ?_⟩
        rw [List.length_cons]
        omega
      · rw [hgap, hbody, Option.map_none, Option.none_or, Option.none_or, bodyAt?_eq]
        split
        next =>
          cases hfront : beforeClosing? rest with
          | none => exact .inr ⟨rfl, rfl⟩
          | some front =>
            obtain ⟨tail, -, htext⟩ := beforeClosing?_eq_some.mp hfront
            refine .inl ⟨(0, front.length), front, rfl, rfl, ?_, ?_⟩
            · rw [List.drop_succ_cons, List.drop_zero, htext, List.take_left]
            · rw [htext]
              simp only [List.length_cons, List.length_append]
              omega
        next => exact .inr ⟨rfl, rfl⟩
    next => exact .inr ⟨rfl, rfl⟩

theorem wordAt?_cons (c : Char) (rest : Text) :
    wordAt? (c :: rest) =
      if Unicode.isWord c then
        ((wordAt? rest).map fun x => (x.1 + 1, x.2)).or ((gapAt? (c :: rest)).map fun x => (0, x))
      else (gapAt? (c :: rest)).map fun x => (0, x) := by
  rw [wordAt?, wordAt?, greedily, map_greedily]
  split
  next =>
    congr 2
    funext i
    rw [List.drop_succ_cons, Option.map_map]
    rfl
  next => rfl

/-- The word takes all word characters, since none of them is blank. -/
theorem wordAt?_eq (rest : Text) :
    wordAt? rest = (gapAt? (rest.drop (rest.takeWhile Unicode.isWord).length)).map fun x =>
      ((rest.takeWhile Unicode.isWord).length, x) := by
  induction rest with
  | nil => rfl
  | cons c rest ih =>
    rw [wordAt?_cons]
    split
    next hword =>
      have hblank : ¬ Unicode.isBlank c = true := by
        intro hblank
        rw [Unicode.isWord_of_isBlank hblank] at hword
        cases hword
      rw [gapAt?_cons, if_neg hblank, Option.map_none, Option.or_none, ih, Option.map_map,
        List.takeWhile_cons_of_pos hword]
      rfl
    next hword =>
      rw [List.takeWhile_cons_of_neg hword]
      rfl

/-! ## The reader and the patterns -/

variable {t : Text}

theorem length_of_afterTicks? {rest : Text} (h : afterTicks? t = some rest) :
    t.length = 3 + rest.length := by
  rw [afterTicks?_eq_some.mp h, List.length_append]
  rfl

theorem le_of_wordAt? {rest : Text} {x : Nat × Nat × Nat} (h : wordAt? rest = some x) :
    x.1 + (x.2.1 + 1 + x.2.2) ≤ rest.length := by
  rw [wordAt?_eq] at h
  obtain ⟨y, hgap, rfl⟩ := Option.map_eq_some_iff.mp h
  rcases gapAt?_cases (rest.drop (rest.takeWhile Unicode.isWord).length) with
    ⟨_, _, hgap', -, -, hle⟩ | ⟨hnone, -⟩
  · cases hgap.symm.trans hgap'
    have hword := (List.takeWhile_prefix Unicode.isWord (l := rest)).length_le
    rw [List.length_drop] at hle
    dsimp only
    omega
  · cases hgap.symm.trans hnone

theorem le_length_of_wordAt? {x : Nat × Nat × Nat} (h : (afterTicks? t).bind wordAt? = some x) :
    3 + x.1 + x.2.1 + 1 + x.2.2 ≤ t.length := by
  obtain ⟨rest, hrest, hx⟩ := Option.bind_eq_some_iff.mp h
  have hlength := length_of_afterTicks? hrest
  have hle := le_of_wordAt? hx
  omega

theorem captured?_open :
    captured? openPattern 1 t = (afterTicks? t).filter fun rest => rest.all Unicode.isWord := by
  have hrest : ∀ rest, (afterTicks? t).filter (fun rest => rest.all Unicode.isWord) = some rest →
      afterTicks? t = some rest := fun rest h => (Option.filter_eq_some_iff.mp h).1
  rw [captured?_eq ofText?_openPattern_word ofExpr_openWord falls_openWord rfl (prefer_openWord t)]
  · refine (Option.map_congr fun rest h => ?_).trans Option.map_id_apply
    rw [drop_three t (hrest rest h), Nat.add_sub_cancel_left, List.take_length]
    rfl
  · intro rest h
    have hlength := length_of_afterTicks? (hrest rest h)
    omega

theorem captured?_word :
    captured? completePattern 1 t =
      ((afterTicks? t).bind wordAt?).map fun x => (t.drop 3).take x.1 := by
  rw [captured?_eq ofText?_completePattern_word ofExpr_completeWord falls_completeWord rfl
    (prefer_completeWord t)]
  · simp only [Nat.add_sub_cancel_left]
  · intro x h
    have hle := le_length_of_wordAt? h
    omega

theorem captured?_body :
    captured? completePattern 2 t = ((afterTicks? t).bind wordAt?).map fun x =>
      (t.drop (3 + x.1 + x.2.1 + 1)).take x.2.2 := by
  rw [captured?_eq ofText?_completePattern_body ofExpr_completeBody falls_completeBody rfl
    (prefer_completeBody t)]
  · simp only [Nat.add_sub_cancel_left]
  · intro x h
    have hle := le_length_of_wordAt? h
    omega

theorem take_takeWhile {s : Char → Bool} {rest : Text} :
    rest.take (rest.takeWhile s).length = rest.takeWhile s :=
  (List.prefix_iff_eq_take.mp (List.takeWhile_prefix s)).symm

theorem drop_takeWhile_eq_nil {s : Char → Bool} {rest : Text} :
    rest.drop (rest.takeWhile s).length = [] ↔ rest.all s = true := by
  rw [List.drop_eq_nil_iff, List.all_eq_true, ← List.takeWhile_eq_self_iff]
  constructor
  · exact (List.takeWhile_prefix s).eq_of_length_le
  · intro h
    rw [h]

/-- A text is read as a fence as its patterns match it. -/
theorem ofText?_eq_matched? (t : Text) : ofText? t = matched? t := by
  unfold ofText? matched?
  rw [captured?_open, captured?_word, captured?_body]
  cases hticks : afterTicks? t with
  | none => rfl
  | some rest =>
    dsimp only [bind, Option.bind_some]
    rw [Option.filter_some, wordAt?_eq, drop_three t hticks]
    simp only [← List.drop_drop, drop_three t hticks]
    split
    next hnil =>
      have hall := drop_takeWhile_eq_nil.mp hnil
      rw [if_pos hall, List.takeWhile_eq_self_iff.mpr (List.all_eq_true.mp hall)]
    next hcons =>
      rw [if_neg (fun h => hcons (drop_takeWhile_eq_nil.mpr h))]
      rcases gapAt?_cases (rest.drop (rest.takeWhile Unicode.isWord).length) with
        ⟨x, body, hgap, hbody, htake, -⟩ | ⟨hgap, hbody⟩
      · rw [hgap, hbody, Option.map_some, Option.map_some, Option.map_some, Option.map_some,
          List.drop_drop, List.drop_drop, ← htake, take_takeWhile, List.drop_drop]
        rfl
      · rw [hgap, hbody]
        rfl

/-- The test for an open fence is the test whether its pattern occurs. -/
theorem isOpener_eq_occurs (t : Text) : isOpener t = occurs openPattern t := by
  rw [occurs, ofText?_openPattern]
  dsimp only [Option.any_some]
  rw [ofExpr_open, falls_open.find?_of_textStart rfl, prefer_open]
  cases hticks : afterTicks? t with
  | none => rw [isOpener, hticks]; rfl
  | some rest =>
    rw [isOpener, hticks, Option.any_some, Option.filter_some]
    cases rest.all Unicode.isWord with
    | false => rfl
    | true =>
      have hsize : 3 + rest.length ≤ t.toArray.size := (length_of_afterTicks? hticks).ge
      obtain ⟨m, hm⟩ := Program.exists_matchOf? (w := { label := 0, start := 0 }) t.toArray.size
        ⟨Nat.le_refl 0, Nat.zero_le _, hsize⟩
      rw [if_pos rfl, Option.map_some, Option.bind_some]
      dsimp only
      rw [hm]
      rfl

end Fence

end BlockNotes
