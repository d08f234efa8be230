import BlockNotes.App.Basic
import BlockNotes.Proofs.Editor.Saved
import BlockNotes.Proofs.Storage.Files

/-!
# A saved file stays saved

The program tells whether there are changes that are not saved by comparing two
versions.  This is right about the document because the tree never changes without the
version growing (`Document.RunsTo.since`).  And it is right about the file because
nothing but saving writes to it, with one exception: if the document is named as its
own markdown file, exporting it takes the place of what was saved.

Between any two keys the device may get a fault or lose it, so each save and each export
may fail, also after others have succeeded.  One that fails changes nothing but the
status.

What the program can come to in one step is said by one inductive type (`App.Went`),
and what a save is good for afterwards by `App.Kept`, which each step keeps.
-/

namespace BlockNotes

/-! ## Versions -/

namespace Document

variable {d d' : Document}

theorem RunsTo.since (hd : d.WellNumbered) (h : RunsTo d d') : Since d d' := by
  obtain ⟨cs, -, rfl⟩ := h
  exact since_run hd cs

/-- What is written for a document is a matter of its tree. -/
theorem toJson_eq_of_children (h : d'.children = d.children) : d'.toJson = d.toJson := by
  unfold toJson blocks
  rw [h]

end Document

/-! ## Steps of the program -/

namespace Editor

variable {τ : Type} [Tokenizer τ] {α : Type}

/-- What an operation is to an editor, if its answer is left out. -/
theorem act_eq {a : EditorAction} {m : EditorM τ α} (ha : a.steps = m >>= fun _ => pure ⟨⟩)
    {e e' : Editor τ} (h : (∃ x, m e = .ok x e') ∨ ∃ halt, m e = .error halt e') :
    e.act a = e' := by
  rw [act, ha]
  rcases h with ⟨x, hok⟩ | ⟨halt, herr⟩
  · rw [bind_of_ok hok]
    rfl
  · rw [bind_of_error herr]

/-- An editor in order stays so. -/
theorem good_act {e : Editor τ} (he : progress.Good e) {a : EditorAction}
    (ha : ∀ languages, a ≠ .setLanguages languages) : progress.Good (e.act a) := by
  by_cases htick : a = .tick
  · subst htick
    exact (advance_tick he).2.1
  · exact progress.good he (advance_act_of_ne htick ha he)

end Editor

/-- Something happens to the program. -/
inductive AppEvent where
  | key (action : Action)
  /-- What was put off is done. -/
  | tick
  /-- From now on nothing can be written, or writing goes on. -/
  | device (fault : Option FileError)
deriving DecidableEq

namespace App

/-- The program after something has happened, unless its editor is lost. -/
def after? (a : App) : AppEvent → Option App
  | .key action => (a.handle action).map Prod.snd
  | .tick => a.tick
  | .device fault => some (a.setFault fault)

/-- The program after many things have happened. -/
def afterAll? (a : App) : List AppEvent → Option App
  | [] => some a
  | event :: events => (a.after? event).bind fun a => a.afterAll? events

/-- Whether an event writes the document as markdown. -/
def exports (a : App) (event : AppEvent) : Bool :=
  event = .key .exportMarkdown && (a.document.exportMarkdown a.files a.name).isOk

/-- Whether one of many events writes the document as markdown. -/
def exportsIn (a : App) : List AppEvent → Bool
  | [] => false
  | event :: events => a.exports event || (a.after? event).any fun a => a.exportsIn events

/-- What the program comes to. -/
inductive Went (a : App) : AppEvent → App → Prop where
  /-- Only the status is another one. -/
  | stayed (event : AppEvent) (status : Text) : Went a event { a with status }
  /-- The editor has done something. -/
  | edited (event : AppEvent) (x : EditorAction) (hx : ∀ languages, x ≠ .setLanguages languages)
      (status : Text) : Went a event { a with editor := a.editor.act x, status }
  | saved (files : FileSystem) (h : a.document.save a.files a.name = .ok files) (status : Text) :
      Went a (.key .save) { a with files, savedVersion := a.document.version, status }
  | exported (target : Text) (files : FileSystem)
      (h : a.document.exportMarkdown a.files a.name = .ok (target, files)) (status : Text) :
      Went a (.key .exportMarkdown) { a with files, status }
  | device (fault : Option FileError) : Went a (.device fault) (a.setFault fault)

variable {a a' : App}

theorem exists_of_withEditor {α : Type} {m : EditorM Registry α}
    {next : App → Except DocumentError α → App} (h : a.withEditor m next = some a')
    {x : EditorAction} (hx : x.steps = m >>= fun _ => pure ⟨⟩) :
    ∃ result, a' = next { a with editor := a.editor.act x } result := by
  unfold withEditor at h
  split at h
  next y editor hok =>
    cases h
    exact ⟨_, by rw [Editor.act_eq hx (.inl ⟨y, hok⟩)]⟩
  next e editor herr =>
    cases h
    exact ⟨_, by rw [Editor.act_eq hx (.inr ⟨_, herr⟩)]⟩
  next => cases h

theorem went_of_handle {action : Action} {goesOn : Bool}
    (h : a.handle action = some (goesOn, a')) : a.Went (.key action) a' := by
  cases action with
  | quit =>
    cases h
    exact .stayed _ a.status
  | ignore =>
    cases h
    exact .stayed _ a.status
  | save =>
    cases h
    unfold save
    split
    next files hsave => exact .saved files hsave _
    next => exact .stayed _ _
  | exportMarkdown =>
    cases h
    unfold exportMarkdown
    split
    next target files hexport => exact .exported target files hexport _
    next => exact .stayed _ _
  | toggleBlock kind =>
    obtain ⟨_, hsteps, heq⟩ := Option.map_eq_some_iff.mp h
    cases heq
    obtain ⟨result, rfl⟩ := exists_of_withEditor hsteps (x := .toggleBlock kind) (bind_pure _).symm
    cases result with
    | ok u => exact .edited _ (.toggleBlock kind) nofun a.status
    | error e => exact .edited _ (.toggleBlock kind) nofun _
  | edit press =>
    obtain ⟨_, hsteps, heq⟩ := Option.map_eq_some_iff.mp h
    cases heq
    obtain ⟨result, rfl⟩ := exists_of_withEditor hsteps (x := .press press) rfl
    split
    next => exact .edited _ (.press press) nofun []
    next => exact .edited _ (.press press) nofun a.status

theorem went_of_tick (h : a.tick = some a') : a.Went .tick a' := by
  unfold tick at h
  obtain ⟨_, rfl⟩ := exists_of_withEditor h (x := .tick) rfl
  exact .edited _ .tick nofun a.status

theorem went_of_after? {event : AppEvent} (h : a.after? event = some a') : a.Went event a' := by
  cases event with
  | tick => exact went_of_tick h
  | device fault =>
    cases h
    exact .device fault
  | key action =>
    obtain ⟨⟨goesOn, _⟩, hhandle, rfl⟩ := Option.map_eq_some_iff.mp h
    exact went_of_handle hhandle

theorem Went.good {event : AppEvent} (h : a.Went event a') (ha : Editor.progress.Good a.editor) :
    Editor.progress.Good a'.editor := by
  cases h with
  | edited event x hx status => exact Editor.good_act ha hx
  | _ => exact ha

theorem Went.name_eq {event : AppEvent} (h : a.Went event a') : a'.name = a.name := by
  cases h <;> rfl

/-- While there is a fault, saving changes nothing but the status. -/
theorem save_of_fault {e : FileError} (h : a.files.fault = some e) :
    ∃ status, a.save = { a with status } := by
  have hfails := FileSystem.write_of_fault h a.name a.document.toJson
  unfold save Document.save
  split
  next files hwrite =>
    rw [hwrite] at hfails
    cases hfails
  next => exact ⟨_, rfl⟩

/-! ## What is kept of a save -/

/-- The file holds a document that the one of the program has come from, and its version is the one
that is remembered. -/
structure Kept (a : App) : Prop where
  good : Editor.progress.Good a.editor
  saved : ∃ d : Document, a.files.read a.name = .ok d.toJson ∧ d.version = a.savedVersion ∧
    d.Since a.document

/-- After a save the file holds the document. -/
theorem kept_of_save {files : FileSystem} (ha : Editor.progress.Good a.editor)
    (h : a.document.save a.files a.name = .ok files) (status : Text) :
    Kept { a with files, savedVersion := a.document.version, status } :=
  ⟨ha, a.document, (FileSystem.put_of_write h).read, rfl, .refl _⟩

theorem Kept.went {event : AppEvent} (h : a.Kept) (hwent : a.Went event a')
    (hevent : FileName.markdown a.name = a.name → a.exports event = false) : a'.Kept := by
  obtain ⟨d, hread, hversion, hsince⟩ := h.saved
  refine ⟨hwent.good h.good, ?_⟩
  cases hwent with
  | stayed event status => exact ⟨d, hread, hversion, hsince⟩
  | edited event x hx status =>
    exact ⟨d, hread, hversion, hsince.trans ((Editor.runsTo_act h.good x).since h.good.1)⟩
  | saved files hsave status => exact (kept_of_save h.good hsave status).saved
  | exported target files hexport status =>
    -- The export goes to another place, so what is read is what was read before.
    refine ⟨d, ?_, hversion, hsince⟩
    have hname : FileName.markdown a.name ≠ a.name := by
      intro heq
      have hnone := hevent heq
      rw [exports, hexport] at hnone
      cases hnone
    have hfile := (FileSystem.read_iff.mp hread).2.2
    unfold Document.exportMarkdown at hexport
    dsimp only at hexport
    cases hwrite : a.files.write (FileName.markdown a.name) a.document.toMarkdown with
    | error e =>
      rw [hwrite] at hexport
      cases hexport
    | ok files' =>
      rw [hwrite] at hexport
      cases hexport
      exact (FileSystem.put_of_write hwrite).read_of_ne
        (FileSystem.placeOf_markdown_ne hfile hname) hread
  | device fault => exact ⟨d, FileSystem.read_setFault hread fault, hversion, hsince⟩

theorem Kept.afterAll {events : List AppEvent} (h : a.Kept) (hafter : a.afterAll? events = some a')
    (hevents : FileName.markdown a.name = a.name → a.exportsIn events = false) :
    a'.Kept ∧ a'.name = a.name := by
  induction events generalizing a with
  | nil =>
    cases hafter
    exact ⟨h, rfl⟩
  | cons event events ih =>
    obtain ⟨a₁, hevent, hafter⟩ := Option.bind_eq_some_iff.mp hafter
    have hwent := went_of_after? hevent
    have hsplit : FileName.markdown a.name = a.name →
        a.exports event = false ∧ a₁.exportsIn events = false := by
      intro heq
      have hnone := hevents heq
      rwa [exportsIn, hevent, Option.any_some, Bool.or_eq_false_iff] at hnone
    have hkept := h.went hwent fun heq => (hsplit heq).1
    obtain ⟨hkept', hname⟩ := ih hkept hafter (by
      rw [hwent.name_eq]
      exact fun heq => (hsplit heq).2)
    exact ⟨hkept', hname.trans hwent.name_eq⟩

/-- Where nothing has changed since the file was kept, it holds the document. -/
theorem Kept.read_eq (h : a.Kept) (hmodified : a.isModified = false) :
    a.files.read a.name = .ok a.document.toJson := by
  obtain ⟨d, hread, hversion, hsince⟩ := h.saved
  have hsame : a.document.version = d.version := by
    rw [hversion]
    simpa [isModified] using hmodified
  rw [hread, Document.toJson_eq_of_children (hsince.same hsame)]

/-! ## Runs -/

theorem good_of_open? {files : FileSystem} {grammars : Registry} {name : Text}
    {options : EditorOptions} (h : open? files grammars name options = .ok a) :
    Editor.progress.Good a.editor ∧ a.name = name := by
  have hstart : ∀ bs : List Block, Editor.progress.Good
      (Editor.ofDocument (Document.ofBlocks bs) grammars options) := fun bs =>
    (Editor.good_ofDocument (Document.wellNumbered_ofBlocks bs) grammars options).1
  unfold open? at h
  dsimp only at h
  split at h
  next d hload =>
    cases h
    unfold Document.load at hload
    split at hload
    next =>
      split at hload
      next content _ =>
        cases hload
        obtain ⟨bs, heq, -⟩ := Document.exists_of_ofContent content
        rw [heq]
        exact ⟨hstart bs, rfl⟩
      next => cases hload
    next => cases hload
  next =>
    cases h
    exact ⟨hstart [], rfl⟩
  next => cases h

theorem good_afterAll {events : List AppEvent} (ha : Editor.progress.Good a.editor)
    (hafter : a.afterAll? events = some a') :
    Editor.progress.Good a'.editor ∧ a'.name = a.name := by
  induction events generalizing a with
  | nil =>
    cases hafter
    exact ⟨ha, rfl⟩
  | cons event events ih =>
    obtain ⟨a₁, hevent, hafter⟩ := Option.bind_eq_some_iff.mp hafter
    have hwent := went_of_after? hevent
    obtain ⟨hgood, hname⟩ := ih (hwent.good ha) hafter
    exact ⟨hgood, hname.trans hwent.name_eq⟩

/-- Whatever happens to the program after the document was saved, writes that fail included: as long
as it says that nothing is modified, the file holds the document.  Only if the document is named as
its own markdown file, no export must have succeeded since. -/
theorem read_of_saved {files : FileSystem} {grammars : Registry} {name : Text}
    {options : EditorOptions} {start b a : App} {before after : List AppEvent} {saved : FileSystem}
    (hopen : open? files grammars name options = .ok start)
    (hbefore : start.afterAll? before = some b)
    (hsave : b.document.save b.files b.name = .ok saved)
    (hafter : b.afterAll? (.key .save :: after) = some a)
    (hexport : FileName.markdown name = name → b.save.exportsIn after = false)
    (hmodified : a.isModified = false) :
    a.files.read name = .ok a.document.toJson := by
  obtain ⟨hgood, rfl⟩ := good_of_open? hopen
  obtain ⟨hgood', hname⟩ := good_afterAll hgood hbefore
  obtain ⟨b', hevent, hafter⟩ := Option.bind_eq_some_iff.mp hafter
  have hb' : b' = b.save := (Option.some.inj hevent).symm
  have hkept : b'.Kept ∧ b'.name = b.name := by
    rw [hb', save, hsave]
    exact ⟨kept_of_save hgood' hsave _, rfl⟩
  obtain ⟨hkept', hname'⟩ := hkept.1.afterAll hafter (by rwa [hkept.2, hname, hb'])
  have hread := hkept'.read_eq hmodified
  rwa [hname', hkept.2, hname] at hread

/-- A document that is named as its own markdown file is saved.  Then the disk is full, so that
neither exporting nor saving it once more succeeds. -/
theorem read_of_saved_full :
    ∃ start b a saved, open? {} Registry.empty "n.md".toList {} = .ok start ∧
      start.afterAll? [.key (.edit ⟨.char 'é', {}⟩), .tick] = some b ∧
      b.document.save b.files b.name = .ok saved ∧
      b.afterAll? [.key .save, .device (some (.device "No space left on device (os error 28)")),
        .key .exportMarkdown, .key .save, .tick] = some a ∧
      a.status = "Save failed: IO error: No space left on device (os error 28)".toList ∧
      a.isModified = false ∧ a.files.read "n.md".toList = .ok a.document.toJson :=
  ⟨_, _, _, _, rfl, rfl, rfl, rfl, rfl, rfl,
    @read_of_saved {} Registry.empty _ {} _ _ _ [.key (.edit ⟨.char 'é', {}⟩), .tick]
      [.device (some (.device "No space left on device (os error 28)")), .key .exportMarkdown,
        .key .save, .tick] _ rfl rfl rfl rfl (fun _ => rfl) rfl⟩

/-- A document that is named as its own markdown file is saved and exported.  The program does not
say that it is modified, but the file does not hold it. -/
theorem exists_read_ne_of_saved :
    ∃ start b a saved, open? {} Registry.empty "n.md".toList {} = .ok start ∧
      start.afterAll? [.key (.edit ⟨.char 'a', {}⟩), .tick] = some b ∧
      b.document.save b.files b.name = .ok saved ∧
      b.afterAll? [.key .save, .key .exportMarkdown, .tick] = some a ∧ a.isModified = false ∧
      a.files.read "n.md".toList ≠ .ok a.document.toJson := by
  refine ⟨_, _, _, _, rfl, rfl, rfl, rfl, rfl, ?_⟩
  decide

end App

end BlockNotes
