import BlockNotes.Proofs.Highlight.Entries
import Mathlib.Data.List.Forall2

/-!
# Spans as an outline of tokens

Flattening gives an outline of a stream (`Token.flattenAll_outlines`).  Each token with a
kind and text has one span, a token comes before those inside of it, and its span stands
where the token stands in the text (`Span.Marks`).

How two spans lie to each other follows from where they come from.  Those of a token stay
in the text of the token, so the first one, which covers it, reaches around the others, and
those of the next token come behind them (`Span.Precedes`).
-/

namespace BlockNotes

/-! ## One span and its token -/

instance : DecidablePred Token.IsPiece := fun _ => inferInstanceAs (Decidable (_ ∧ _))

/-- A span of a block has the tags of a token and stands where the token stands in a text that
starts at an offset. -/
structure Span.Marks (block : BlockId) (offset : Nat) (t : Text) (s : Span) (p : Token) : Prop where
  block_eq : s.block = block
  tags_eq : s.tags = .ofList p.tags
  text_ne_nil : p.text ≠ []
  parts : ∃ a c, t = a ++ p.text ++ c ∧ s.start = offset + Text.bytes a ∧
    s.stop = offset + Text.bytes (a ++ p.text)

namespace Span.Marks

variable {block : BlockId} {offset : Nat} {t u : Text} {s : Span} {p : Token}

theorem append_right (h : Marks block offset t s p) (u : Text) :
    Marks block offset (t ++ u) s p := by
  obtain ⟨a, c, rfl, hstart, hstop⟩ := h.parts
  exact ⟨h.block_eq, h.tags_eq, h.text_ne_nil, a, c ++ u, by simp, hstart, hstop⟩

theorem append_left (h : Marks block (offset + Text.bytes u) t s p) :
    Marks block offset (u ++ t) s p := by
  obtain ⟨a, c, rfl, hstart, hstop⟩ := h.parts
  refine ⟨h.block_eq, h.tags_eq, h.text_ne_nil, u ++ a, c, by simp, ?_, ?_⟩
  · rw [hstart, Text.bytes_append, Nat.add_assoc]
  · rw [hstop, List.append_assoc, Text.bytes_append u, Nat.add_assoc]

theorem liesIn (h : Marks block offset t s p) : s.LiesIn block offset t := by
  obtain ⟨a, c, ht, hstart, hstop⟩ := h.parts
  have htext : Text.bytes p.text ≠ 0 := fun h0 => h.text_ne_nil (Text.bytes_eq_zero.mp h0)
  refine ⟨h.block_eq, ?_, a, p.text, c, ht, hstart, hstop⟩
  rw [hstart, hstop, Text.bytes_append]
  omega

/-- What a span cuts out of the text is the text of its token. -/
theorem slice?_eq (h : Marks block offset t s p) :
    t.slice? (s.start - offset) (s.stop - offset) = some p.text := by
  obtain ⟨a, c, rfl, hstart, hstop⟩ := h.parts
  rw [hstart, hstop, Nat.add_sub_cancel_left, Nat.add_sub_cancel_left, Text.slice?_append]

end Span.Marks

mutual

/-- The spans of a token mark the tokens with a kind and text in it, one each and in order. -/
theorem Token.forall₂_flatten (block : BlockId) (offset : Nat) : (t : Token) →
    List.Forall₂ (Span.Marks block offset t.text) (t.flatten block offset).1
      (t.within.filter fun p => p.IsPiece)
  | .plain _ => .nil
  | .typed kind extra content => by
    have hsize : content.size = 0 ↔ content.text = [] := by
      rw [content.size_eq_bytes, Text.bytes_eq_zero]
    rw [Token.flatten]
    split
    next hempty =>
      -- Nothing inside of a token without text has text.
      have hnone : (Token.typed kind extra content).within.filter (fun p => p.IsPiece) = [] := by
        rw [List.filter_eq_nil_iff]
        intro p hmem hp
        exact Token.text_ne_nil_of_mem_within (of_decide_eq_true hp).2 _ hmem (hsize.mp hempty)
      rw [hnone]
      exact .nil
    next htext =>
      have hpiece : (Token.typed kind extra content).IsPiece := ⟨rfl, fun h => htext (hsize.mpr h)⟩
      rw [Token.within, List.filter_cons, if_pos (decide_eq_true hpiece)]
      refine .cons ⟨rfl, rfl, hpiece.2, [], [], by simp, rfl, ?_⟩
        (Content.forall₂_flatten block offset content)
      rw [List.nil_append, Token.text, content.size_eq_bytes]

theorem Content.forall₂_flatten (block : BlockId) (offset : Nat) : (c : Content) →
    List.Forall₂ (Span.Marks block offset c.text) (c.flatten block offset)
      (c.within.filter fun p => p.IsPiece)
  | .leaf _ => .nil
  | .token t => Token.forall₂_flatten block offset t
  | .stream ts => Token.forall₂_flattenAll block offset ts

theorem Token.forall₂_flattenAll (block : BlockId) (offset : Nat) : (ts : List Token) →
    List.Forall₂ (Span.Marks block offset (Token.textOf ts)) (Token.flattenAll block offset ts).1
      ((Token.allWithin ts).filter fun p => p.IsPiece)
  | [] => .nil
  | t :: rest => by
    have hfirst := Token.forall₂_flatten block offset t
    have hrest := Token.forall₂_flattenAll block (offset + Text.bytes t.text) rest
    rw [Token.flattenAll, Token.allWithin, List.filter_append, Token.textOf]
    dsimp only
    rw [Token.snd_flatten, t.size_eq_bytes]
    exact List.rel_append (hfirst.imp fun _ _ h => h.append_right _)
      (hrest.imp fun _ _ h => h.append_left)

end

/-! ## Two spans -/

/-- A span is a part of another one. -/
def Span.Within (s t : Span) : Prop := t.start ≤ s.start ∧ s.stop ≤ t.stop

/-- Two spans have nothing in common. -/
def Span.Apart (s t : Span) : Prop := s.stop ≤ t.start ∨ t.stop ≤ s.start

/-- A span comes before another one in an outline: it does not start later, and it stops before the
other one starts or reaches around it. -/
def Span.Precedes (s t : Span) : Prop := s.start ≤ t.start ∧ (s.stop ≤ t.start ∨ t.Within s)

mutual

theorem Token.pairwise_flatten (block : BlockId) (offset : Nat) : (t : Token) →
    (t.flatten block offset).1.Pairwise Span.Precedes
  | .plain _ => .nil
  | .typed kind extra content => by
    rw [Token.flatten]
    split
    next => exact .nil
    next =>
      refine .cons (fun s hs => ?_) (Content.pairwise_flatten block offset content)
      have hlies := Content.liesIn_of_mem_flatten block offset content s hs
      have hstop := hlies.stop_le
      rw [← content.size_eq_bytes] at hstop
      exact ⟨hlies.le_start, .inr ⟨hlies.le_start, hstop⟩⟩

theorem Content.pairwise_flatten (block : BlockId) (offset : Nat) : (c : Content) →
    (c.flatten block offset).Pairwise Span.Precedes
  | .leaf _ => .nil
  | .token t => Token.pairwise_flatten block offset t
  | .stream ts => Token.pairwise_flattenAll block offset ts

theorem Token.pairwise_flattenAll (block : BlockId) (offset : Nat) : (ts : List Token) →
    (Token.flattenAll block offset ts).1.Pairwise Span.Precedes
  | [] => .nil
  | t :: rest => by
    refine List.pairwise_append.mpr ⟨Token.pairwise_flatten block offset t,
      Token.pairwise_flattenAll block _ rest, fun s hs s' hs' => ?_⟩
    have hlies := Token.liesIn_of_mem_flatten block offset t s hs
    have hlies' := Token.liesIn_of_mem_flattenAll block _ rest s' hs'
    -- The token ends where the rest of the stream begins.
    have hbetween : s.stop ≤ s'.start := by
      have hstart := hlies'.le_start
      rw [Token.snd_flatten, t.size_eq_bytes] at hstart
      exact hlies.stop_le.trans hstart
    exact ⟨(Nat.le_of_lt hlies.2.1).trans hbetween, .inl hbetween⟩

end

/-! ## The outline of a stream -/

/-- Flattening a stream that starts at an offset comes out behind its text, and the spans are an
outline of the tokens with a kind and text, at any depth and parents first.

* Each token has one span, in the same order.  The span starts and stops in the stream, cuts the
  text of the token out of that of the stream, and has the kind and the additional tag of the token.
* Two spans have nothing in common, or one is a part of the other.
* No span starts before an earlier one. -/
theorem Token.flattenAll_outlines (block : BlockId) (offset : Nat) (ts : List Token) :
    let spans := (flattenAll block offset ts).1
    (flattenAll block offset ts).2 = offset + Text.bytes (textOf ts) ∧
    List.Forall₂ (fun s p => s.block = block ∧ s.tags = .ofList p.tags ∧
        offset ≤ s.start ∧ s.start < s.stop ∧ s.stop ≤ offset + Text.bytes (textOf ts) ∧
        (textOf ts).slice? (s.start - offset) (s.stop - offset) = some p.text)
      spans ((allWithin ts).filter fun p => p.IsPiece) ∧
    (∀ s ∈ spans, ∀ t ∈ spans, s.Apart t ∨ s.Within t ∨ t.Within s) ∧
    spans.Pairwise fun s t => s.start ≤ t.start := by
  intro spans
  have hpairs : spans.Pairwise Span.Precedes := pairwise_flattenAll block offset ts
  refine ⟨?_, ?_, ?_, hpairs.imp And.left⟩
  · rw [snd_flattenAll, sizeOf_eq_bytes]
  · refine (forall₂_flattenAll block offset ts).imp fun s p h => ?_
    exact ⟨h.block_eq, h.tags_eq, h.liesIn.le_start, h.liesIn.2.1, h.liesIn.stop_le, h.slice?_eq⟩
  · have hself : ∀ s ∈ spans, s.Apart s ∨ s.Within s ∨ s.Within s :=
      fun s _ => .inr (.inl ⟨Nat.le_refl _, Nat.le_refl _⟩)
    have hordered : spans.Pairwise fun s t => s.Apart t ∨ s.Within t ∨ t.Within s :=
      hpairs.imp fun h => h.2.imp .inl .inr
    have hreversed : spans.Pairwise fun s t => t.Apart s ∨ t.Within s ∨ s.Within t :=
      hordered.imp fun h => h.imp Or.symm Or.symm
    exact fun s hs t ht => hordered.forall_of_forall_of_flip hself hreversed hs ht

example : (Token.flattenAll 1 2 [.plain ['é'],
    .typed "a" (some "b") (.token (.typed "c" none (.leaf ['x'])))]).1 =
      [⟨1, 4, 5, .ofList ["a", "b"]⟩, ⟨1, 4, 5, .ofList ["c"]⟩] := by decide

end BlockNotes
