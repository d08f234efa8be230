import BlockNotes.Editor.Motion
import BlockNotes.Proofs.Document.Deletion

/-!
# Motions find their place

A motion cuts the text of the block that it starts in.  That text counts the blocks
within the block as well, but where a cursor can stand there are none, so the offset
of a point in the block is where its text can be cut.
-/

namespace BlockNotes.Motion

variable {d : Document} {p : Point} {q : BlockPoint}

/-- Where identities are distinct, the surroundings of a point are never lost. -/
theorem surroundings_ne_lost (hd : d.ids.Nodup) (h : d.blockPoint p = .ok q) :
    surroundings d q ≠ .lost := by
  unfold surroundings
  dsimp only
  split
  next => exact nofun
  next index hindex =>
    split
    next => exact nofun
    next id text hentry =>
      obtain ⟨hlt, hid, -⟩ := List.findIdx?_eq_some_iff_getElem.mp hindex
      have hfound := Option.some.inj ((List.getElem?_eq_getElem hlt).symm.trans hentry)
      rw [hfound] at hid
      obtain ⟨⟨path, b⟩, hmem, heq⟩ := List.mem_map.mp (List.mem_of_getElem? hentry)
      cases heq
      obtain ⟨hb, htext, -⟩ := Document.mem_textBlocks.mp hmem
      have hin := Document.in_of_blockPoint hd h hb (eq_of_beq hid)
      obtain ⟨⟨before, after⟩, hcut⟩ := Option.isSome_iff_exists.mp hin.isBoundary
      rw [Block.text_eq_ownText htext, hcut]
      exact nofun

end BlockNotes.Motion
