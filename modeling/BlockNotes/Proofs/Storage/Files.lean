import BlockNotes.Proofs.Storage.Names

/-!
# What writing does to files

Where a file is put at a name, all that stood at other places still stands there, and
where it was put there was no directory (`FileSystem.Put`).  So every directory is
kept, names still lead where they led, and what is read at another place is the same
as before (`FileSystem.Put.read_of_ne`).
-/

namespace BlockNotes

namespace FileSystem

variable {fs fs' : FileSystem} {p q : Place} {x y : FileEntry} {name name' : Text}

/-! ## Entries -/

theorem lookup_filter_ne {entries : List (Place × FileEntry)} (h : q ≠ p) :
    (entries.filter fun old => old.1 ≠ p).lookup q = entries.lookup q := by
  induction entries with
  | nil => rfl
  | cons old entries ih =>
    obtain ⟨r, x⟩ := old
    by_cases hr : r = p
    · have hq : (q == r) = false := by
        rw [hr]
        exact beq_false_of_ne h
      rw [List.filter_cons_of_neg (by simpa using hr), ih, List.lookup_cons, hq]
    · rw [List.filter_cons_of_pos (by simpa using hr), List.lookup_cons, List.lookup_cons, ih]

theorem entry?_put_of_ne (h : q ≠ p) : FileSystem.entry? (fs.put p x) q = fs.entry? q := by
  unfold entry? put
  rw [List.lookup_cons, beq_false_of_ne h]
  dsimp only
  rw [lookup_filter_ne h]

theorem entry?_put_self (h : fs.entry? p ≠ some .directory) :
    FileSystem.entry? (fs.put p x) p = some x := by
  unfold entry? at h ⊢
  split
  next hall => exact absurd (if_pos hall) h
  next => simp [put]

/-! ## Places -/

/-- Every directory is still one. -/
def KeepsDirectories (fs fs' : FileSystem) : Prop :=
  ∀ q, fs.entry? q = some .directory → fs'.entry? q = some .directory

/-- A name that leads somewhere leads to its place. -/
theorem eq_of_follow {parts : List Text} (h : fs.follow p parts = .ok q) :
    q = parts.foldl enter p := by
  induction parts generalizing p with
  | nil =>
    cases h
    rfl
  | cons part parts ih =>
    rw [follow] at h
    split at h
    next => exact ih h
    next => cases h
    next => cases h

theorem KeepsDirectories.follow {parts : List Text} (hkeeps : fs.KeepsDirectories fs')
    (h : fs.follow p parts = .ok q) : fs'.follow p parts = .ok q := by
  induction parts generalizing p with
  | nil => exact h
  | cons part parts ih =>
    rw [FileSystem.follow] at h ⊢
    split at h
    next hdir =>
      rw [hkeeps _ hdir]
      exact ih h
    next => cases h
    next => cases h

theorem locate_cases (h : fs.locate name = .ok p) :
    checkName name = .ok ⟨⟩ ∧ fs.follow (origin name) (FileName.parts name) = .ok p := by
  unfold locate at h
  cases hcheck : checkName name with
  | error e =>
    rw [hcheck] at h
    cases h
  | ok u =>
    rw [hcheck] at h
    exact ⟨rfl, h⟩

theorem eq_placeOf_of_locate (h : fs.locate name = .ok p) : p = placeOf name :=
  eq_of_follow (locate_cases h).2

theorem KeepsDirectories.locate (hkeeps : fs.KeepsDirectories fs') (h : fs.locate name = .ok p) :
    fs'.locate name = .ok p := by
  obtain ⟨hcheck, hfollow⟩ := locate_cases h
  unfold FileSystem.locate
  rw [hcheck]
  exact hkeeps.follow hfollow

/-! ## Reading -/

/-- What is read stands at the place of the name, and the name is not one for a directory. -/
theorem read_iff {t : Text} : fs.read name = .ok t ↔
    fs.locate name = .ok (placeOf name) ∧ fs.entry? (placeOf name) = some (.text t) ∧
      FileName.isDirectoryName name = false := by
  unfold read find
  cases hlocate : fs.locate name with
  | error e => simp [bind, Except.bind]
  | ok p =>
    rw [← eq_placeOf_of_locate hlocate]
    cases hentry : fs.entry? p with
    | none => simp [bind, Except.bind, hentry]
    | some x =>
      cases hdir : FileName.isDirectoryName name <;> cases x <;>
        simp [bind, Except.bind, hentry]

/-! ## Writing -/

/-- A file was put at a name. -/
structure Put (fs : FileSystem) (name : Text) (x : FileEntry) (fs' : FileSystem) : Prop where
  /-- There was no directory. -/
  free : fs.entry? (placeOf name) ≠ some .directory
  /-- What stood elsewhere still stands there. -/
  other : ∀ q, q ≠ placeOf name → ∀ y, fs.entry? q = some y → fs'.entry? q = some y
  entry : fs'.entry? (placeOf name) = some x
  locate : fs'.locate name = .ok (placeOf name)
  file : FileName.isDirectoryName name = false

theorem Put.keepsDirectories (h : fs.Put name x fs') : fs.KeepsDirectories fs' := by
  intro q hq
  refine h.other q ?_ _ hq
  rintro rfl
  exact h.free hq

/-- What is read at another place is still read there. -/
theorem Put.read_of_ne (h : fs.Put name' x fs') (hne : placeOf name' ≠ placeOf name) {t : Text}
    (hread : fs.read name = .ok t) : fs'.read name = .ok t := by
  obtain ⟨hlocate, hentry, hfile⟩ := read_iff.mp hread
  exact read_iff.mpr ⟨h.keepsDirectories.locate hlocate, h.other _ hne.symm _ hentry, hfile⟩

theorem Put.read {t : Text} (h : fs.Put name (.text t) fs') : fs'.read name = .ok t :=
  read_iff.mpr ⟨h.locate, h.entry, h.file⟩

theorem contains_of_read {t : Text} (h : fs.read name = .ok t) : fs.contains name = true := by
  unfold contains
  cases hfind : fs.find name with
  | ok x => rfl
  | error e =>
    rw [read, hfind] at h
    cases h

/-- Making directories leaves all that stands somewhere alone. -/
theorem entry?_of_makeDirectories {parts : List Text} (h : fs.makeDirectories p parts = .ok fs')
    (hq : fs.entry? q = some y) : fs'.entry? q = some y := by
  induction parts generalizing fs p with
  | nil =>
    cases h
    exact hq
  | cons part parts ih =>
    rw [makeDirectories] at h
    split at h
    next => exact ih h hq
    next => cases h
    next hnone =>
      refine ih h ?_
      rw [entry?_put_of_ne, hq]
      rintro rfl
      cases hq.symm.trans hnone

/-- Storing makes the directories that are missing and then puts the file there. -/
theorem put_of_store (h : fs.store name x = .ok fs') : fs.Put name x fs' := by
  unfold store at h
  cases hcheck : checkName name with
  | error e =>
    rw [hcheck] at h
    cases h
  | ok u =>
    cases hmake : fs.makeDirectories (origin name) (FileName.parts name).dropLast with
    | error e =>
      rw [hcheck, hmake] at h
      cases h
    | ok made =>
      cases hlocate : made.locate name with
      | error e =>
        simp only [hcheck, hmake, hlocate, bind, Except.bind] at h
        cases h
      | ok p =>
        simp only [hcheck, hmake, hlocate, bind, Except.bind] at h
        cases eq_placeOf_of_locate hlocate
        have hmade : ∀ {q y}, fs.entry? q = some y → made.entry? q = some y :=
          entry?_of_makeDirectories hmake
        have hfile : FileName.isDirectoryName name = false ∧
            made.entry? (placeOf name) ≠ some .directory ∧ fs' = made.put (placeOf name) x := by
          cases hdir : FileName.isDirectoryName name with
          | true =>
            simp only [hdir, if_true] at h
            split at h <;> cases h
          | false =>
            simp only [hdir, Bool.false_eq_true, if_false] at h
            split at h
            next => cases h
            next hne hentry =>
              cases h
              refine ⟨rfl, ?_, rfl⟩
              rw [hentry]
              exact fun hsome => hne (Option.some.inj hsome)
            next hentry =>
              cases h
              refine ⟨rfl, ?_, rfl⟩
              rw [hentry]
              exact nofun
        obtain ⟨hfile, hfree, rfl⟩ := hfile
        refine ⟨fun hsome => hfree (hmade hsome), ?_, entry?_put_self hfree, ?_, hfile⟩
        · intro q hq y hy
          rw [entry?_put_of_ne hq]
          exact hmade hy
        · refine KeepsDirectories.locate ?_ hlocate
          intro q hq
          rw [entry?_put_of_ne, hq]
          rintro rfl
          exact hfree hq

theorem put_of_write {t : Text} (h : fs.write name t = .ok fs') : fs.Put name (.text t) fs' := by
  unfold write at h
  cases hstore : fs.store name (.text t) with
  | error e =>
    rw [hstore] at h
    cases h
  | ok written =>
    rw [hstore] at h
    cases hfault : fs.fault with
    | some e =>
      simp only [hfault, bind, Except.bind] at h
      cases h
    | none =>
      simp only [hfault, bind, Except.bind] at h
      cases h
      exact put_of_store hstore

/-- While there is a fault, nothing is written. -/
theorem write_of_fault {e : FileError} (h : fs.fault = some e) (name t : Text) :
    (fs.write name t).isOk = false := by
  unfold write
  cases fs.store name (.text t) with
  | error e' => rfl
  | ok written => simp only [h, bind, Except.bind]; rfl

/-- What is read is a matter of what stands at the places. -/
theorem read_setFault {t : Text} (h : fs.read name = .ok t) (fault : Option FileError) :
    FileSystem.read { fs with fault } name = .ok t := by
  obtain ⟨hlocate, hentry, hfile⟩ := read_iff.mp h
  have hkeeps : fs.KeepsDirectories { fs with fault } := fun _ hq => hq
  exact read_iff.mpr ⟨hkeeps.locate hlocate, hentry, hfile⟩

end FileSystem

end BlockNotes
