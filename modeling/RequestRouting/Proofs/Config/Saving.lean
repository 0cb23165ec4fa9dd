import RequestRouting.Proofs.Config.Failure
import RequestRouting.Proofs.Files.Replace

/-!
# Saving configurations

What a successful saving has done, when a new file can be made, and where both are possible.

## Main definitions

* `ConfigFile.Free` — a disk on which `config.toml` can be saved in the root directory.

## Main results

* `ConfigFile.save_eq_ok` — a saving succeeds if and only if each of its steps does.
* `ConfigFile.create_eq_ok` — when a new file is made.
* `ConfigFile.Free.exists_save` — saving succeeds over and over again on a free disk.
-/

set_option autoImplicit false

namespace RequestRouting

/-- Contents that a text spells are read as that text. -/
lemma textOf_toUTF8 (text : String) : textOf text.toUTF8 = .ok text := by
  unfold textOf String.fromUTF8?
  rw [dif_pos (show text.toUTF8.IsValidUTF8 from text.isValidUTF8)]
  rfl

namespace Disk

variable {disk : Disk} {path text : String} {place : Location} {mode : Nat}

/-- What there is to see of a file, unless that is refused. -/
lemma inspect_file (hlocate : disk.tree.locate path = .ok (place, .file text.toUTF8 mode))
    (hfree : disk.refusal .inspect path = none) :
    (FileAccess.inspect path : StateM Disk (Except FileError FileKind)) disk =
      (.ok (.file text.toUTF8.size), disk) := by
  change look .inspect path (fun tree => tree.inspect path) disk = _
  simp only [look, hfree, FileTree.inspect, hlocate]
  rfl

/-- What there is to read in a file, unless that is refused. -/
lemma read_file (hlocate : disk.tree.locate path = .ok (place, .file text.toUTF8 mode))
    (hfree : disk.refusal .read path = none) :
    (FileAccess.read path : StateM Disk (Except FileError ByteArray)) disk =
      (.ok text.toUTF8, disk) := by
  change look .read path (fun tree => tree.read path) disk = _
  simp only [look, hfree, FileTree.read, hlocate]
  rfl

/-- A change of the tree is made if and only if it is neither refused nor fails. -/
lemma change_eq_ok {operation : FileOperation} {path : String}
    {edit : FileTree → Except FileError FileTree} {disk later : Disk} :
    change operation path edit disk = (.ok (), later) ↔ disk.refusal operation path = none ∧
      ∃ tree, edit disk.tree = .ok tree ∧ later = { disk with tree := tree } := by
  unfold change
  constructor
  · intro h
    split at h
    · cases h
    · next hfree =>
      split at h
      · next tree hedit =>
        cases h
        exact ⟨hfree, tree, hedit, rfl⟩
      · cases h
  · rintro ⟨hfree, tree, hedit, rfl⟩
    simp only [hfree, hedit]

end Disk

namespace ConfigFile

open Disk

/-- A step that is followed by others succeeds with them or not at all. -/
lemma andThen_eq_ok {α : Type} {step : StateM Disk (Except FileError α)}
    {next : α → StateM Disk (Except ConfigError Unit)} {disk later : Disk} :
    andThen step next disk = (.ok (), later) ↔
      ∃ value between, step disk = (.ok value, between) ∧ next value between = (.ok (), later) := by
  constructor
  · intro h
    rcases hstep : step disk with ⟨outcome, between⟩
    cases outcome with
    | error e =>
      rw [andThen_error hstep] at h
      cases h
    | ok value =>
      rw [andThen_ok hstep] at h
      exact ⟨value, between, rfl, h⟩
  · rintro ⟨value, between, hstep, hnext⟩
    rw [andThen_ok hstep, hnext]

/-- A saving succeeds if and only if each of its steps does. -/
theorem save_eq_ok {file : ConfigFile} {disk later : Disk} :
    (file.save : StateM Disk (Except ConfigError Unit)) disk = (.ok (), later) ↔
      (disk.refusal .write (draftPath file.path) = none ∧
        disk.refusal .protect (draftPath file.path) = none ∧
        disk.refusal .rename (draftPath file.path) = none) ∧
      ∃ written guarded moved,
        disk.tree.write (draftPath file.path) file.config.toText.toUTF8 = .ok written ∧
        written.protect (draftPath file.path) = .ok guarded ∧
        guarded.rename (draftPath file.path) file.path = .ok moved ∧
        later = { disk with tree := moved } := by
  unfold save
  rw [write_eq, protect_eq, rename_eq]
  constructor
  · intro h
    obtain ⟨_, between, hfirst, h⟩ := andThen_eq_ok.1 h
    obtain ⟨hwrite, written, hwritten, rfl⟩ := change_eq_ok.1 hfirst
    obtain ⟨_, between, hsecond, h⟩ := andThen_eq_ok.1 h
    obtain ⟨hprotect, guarded, hguarded, rfl⟩ := change_eq_ok.1 hsecond
    obtain ⟨_, between, hthird, h⟩ := andThen_eq_ok.1 h
    obtain ⟨hrename, moved, hmoved, rfl⟩ := change_eq_ok.1 hthird
    cases h
    exact ⟨⟨hwrite, hprotect, hrename⟩, written, guarded, moved, hwritten, hguarded, hmoved, rfl⟩
  · rintro ⟨⟨hwrite, hprotect, hrename⟩, written, guarded, moved, hwritten, hguarded, hmoved, rfl⟩
    refine andThen_eq_ok.2 ⟨(), _, change_eq_ok.2 ⟨hwrite, written, hwritten, rfl⟩, ?_⟩
    refine andThen_eq_ok.2 ⟨(), _, change_eq_ok.2 ⟨hprotect, guarded, hguarded, rfl⟩, ?_⟩
    exact andThen_eq_ok.2 ⟨(), _, change_eq_ok.2 ⟨hrename, moved, hmoved, rfl⟩, rfl⟩

/-- Looking whether anything is at a path leaves the disk as it is. -/
lemma leaves_pathExists (path : String) : Leaves (pathExists path : StateM Disk Bool) := by
  refine .bind (leaves_inspect path) fun kind => ?_
  cases kind <;> exact leaves_pure _

/-- A new file is made if and only if nothing is at its path, its directory can be made, and the
configuration of new files can be saved. -/
theorem create_eq_ok {path : String} {file : ConfigFile} {disk later : Disk} :
    (create path : StateM Disk (Except ConfigError ConfigFile)) disk = (.ok file, later) ↔
      ((pathExists path : StateM Disk Bool) disk).1 = false ∧ file = ⟨path, .byDefault⟩ ∧
      ∃ made, (makeParent path : StateM Disk (Except FileError Unit)) disk = (.ok (), made) ∧
        (file.save : StateM Disk (Except ConfigError Unit)) made = (.ok (), later) := by
  unfold create
  rw [bind_apply, leaves_pathExists path disk]
  cases ((pathExists path : StateM Disk Bool) disk).1 with
  | true =>
    constructor
    · rintro ⟨⟩
    · rintro ⟨⟨⟩, -⟩
  | false =>
    rw [if_neg Bool.false_ne_true, bind_apply]
    constructor
    · intro h
      rcases hsaved : (andThen (makeParent path) fun () => save ⟨path, .byDefault⟩ :
        StateM Disk (Except ConfigError Unit)) disk with ⟨outcome, reached⟩
      rw [hsaved] at h
      cases outcome with
      | error e => cases h
      | ok done =>
        cases h
        obtain ⟨_, made, hmade, hsave⟩ := andThen_eq_ok.1 hsaved
        exact ⟨rfl, rfl, made, hmade, hsave⟩
    · rintro ⟨-, rfl, made, hmade, hsave⟩
      rw [andThen_ok hmade, hsave]
      rfl

/-! ## In the root directory -/

/-- A disk that refuses nothing, where paths begin at the root and nothing but files is in the place
of `config.toml` and of its draft. -/
structure Free (disk : Disk) : Prop where
  refusal_eq : ∀ operation path, disk.refusal operation path = none
  root : disk.tree.workingDirectory = []
  draft : disk.tree.Fits ["config.toml.tmp"]
  file : disk.tree.Fits ["config.toml"]

/-- The path of the draft leads to its name. -/
lemma Free.follow_draft {disk : Disk} (h : Free disk) (through : Bool) :
    disk.tree.follow through "config.toml.tmp" = .ok ["config.toml.tmp"] :=
  FileTree.follow_name (.inl (by decide)) h.root (by decide) (by decide) (by decide) (by decide)
    fun target hlink => absurd hlink ((FileTree.fits_iff.1 h.draft).2 target)

/-- The path of the file leads to its name. -/
lemma Free.follow_file {disk : Disk} (h : Free disk) (through : Bool) :
    disk.tree.follow through "config.toml" = .ok ["config.toml"] :=
  FileTree.follow_name (.inl (by decide)) h.root (by decide) (by decide) (by decide) (by decide)
    fun target hlink => absurd hlink ((FileTree.fits_iff.1 h.file).2 target)

/-- Neither the file nor its draft is a link there. -/
lemma Free.clear {disk : Disk} (h : Free disk) :
    disk.tree.Clear (draftPath "config.toml") "config.toml" := by
  have hdraft : draftPath "config.toml" = "config.toml.tmp" := by decide
  rw [hdraft]
  refine FileTree.clear_of_no_links (fun place target hplace => ?_) fun place target hplace => ?_
  · obtain rfl := Except.ok.inj ((h.follow_draft false).symm.trans hplace)
    exact (FileTree.fits_iff.1 h.draft).2 target
  · obtain rfl := Except.ok.inj ((h.follow_file false).symm.trans hplace)
    exact (FileTree.fits_iff.1 h.file).2 target

/-- A configuration can be saved there, over and over again. -/
lemma Free.exists_save {disk : Disk} (h : Free disk) (config : Config) :
    ∃ later, (save ⟨"config.toml", config⟩ : StateM Disk (Except ConfigError Unit)) disk =
      (.ok (), later) ∧ Free later := by
  have hdraft : draftPath "config.toml" = "config.toml.tmp" := by decide
  obtain ⟨mode, hwrite⟩ := FileTree.exists_write config.toText.toUTF8 (h.follow_draft true) h.draft
  have hsame := FileTree.sameWays_put config.toText.toUTF8 FileTree.privateMode h.draft
  have hmoved := FileTree.rename_eq_ok.2 ⟨by decide, _, _, _, hsame.follow (h.follow_draft false),
    FileTree.entry?_put_self h.draft.ne_nil, by simp, hsame.follow (h.follow_file false),
    (FileTree.fits_iff.1 (hsame.fits h.file)).1, rfl⟩
  have hsave : (save ⟨"config.toml", config⟩ : StateM Disk (Except ConfigError Unit)) disk =
      (.ok (), _) := save_eq_ok.2
    ⟨⟨h.refusal_eq _ _, h.refusal_eq _ _, h.refusal_eq _ _⟩, _, _, _, hdraft.symm ▸ hwrite,
      hdraft.symm ▸ FileTree.protect_put (h.follow_draft true) h.draft, hdraft.symm ▸ hmoved, rfl⟩
  refine ⟨_, hsave, h.refusal_eq, h.root, .inl ?_, .inr ⟨config.toText.toUTF8, FileTree.privateMode,
    FileTree.entry?_put_self (by decide)⟩⟩
  rw [hdraft, FileTree.entry?_put_of_ne (by decide), FileTree.entry?_erase_self (by decide)]

/-- The directory without a name is there already. -/
lemma makeDirectories_empty :
    (makeDirectories "" : StateM Disk (Except FileError Unit)) = pure (.ok ()) := by
  have hempty : "".isEmpty = true := by decide
  -- no equation is generated for the recursion, which looks at its fuel and at its outcome at once
  delta makeDirectories makeDirectoriesWithin
  exact if_pos hempty

/-- A file in the directory where paths begin needs no other one. -/
lemma makeParent_root (disk : Disk) :
    (makeParent "config.toml" : StateM Disk (Except FileError Unit)) disk = (.ok (), disk) := by
  have hsome : Path.parent? "config.toml" = some "" := by decide
  simp only [makeParent, hsome, makeDirectories_empty]
  rfl

/-- Nothing is found at a path that leads nowhere. -/
lemma pathExists_of_locate {path : String} {disk : Disk} {e : FileError}
    (h : disk.tree.locate path = .error e) :
    ((pathExists path : StateM Disk Bool) disk).1 = false := by
  have hinspect : disk.tree.inspect path = .error e := by
    simp only [FileTree.inspect, h, bind, Except.bind]
  have hlook : ∃ cause, (FileAccess.inspect path : StateM Disk (Except FileError FileKind)) disk =
      (.error cause, disk) := by
    change ∃ cause, look .inspect path (fun tree => tree.inspect path) disk = (.error cause, disk)
    unfold look
    dsimp only
    rw [hinspect]
    cases disk.refusal .inspect path with
    | none => exact ⟨e, rfl⟩
    | some refused => exact ⟨refused, rfl⟩
  obtain ⟨cause, hlook⟩ := hlook
  unfold pathExists
  rw [bind_apply, hlook]
  rfl

/-- A disk with nothing on it. -/
def emptyDisk : Disk := .plain ⟨[], []⟩

/-- A file can be saved there. -/
lemma free_emptyDisk : Free emptyDisk := ⟨fun _ _ => rfl, rfl, .inl rfl, .inl rfl⟩

/-- A new file can be made there. -/
lemma exists_create_emptyDisk : ∃ later,
    (create "config.toml" : StateM Disk (Except ConfigError ConfigFile)) emptyDisk =
      (.ok Change.newFile, later) ∧ Free later := by
  obtain ⟨later, hsave, hlater⟩ := free_emptyDisk.exists_save .byDefault
  have hnothing : emptyDisk.tree.locate "config.toml" = .error .notFound := by
    unfold FileTree.locate
    rw [free_emptyDisk.follow_file true]
    rfl
  exact ⟨later, create_eq_ok.2 ⟨pathExists_of_locate hnothing, rfl, emptyDisk,
    makeParent_root emptyDisk, hsave⟩, hlater⟩

end ConfigFile

end RequestRouting
