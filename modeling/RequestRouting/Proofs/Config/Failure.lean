import RequestRouting.Config.File
import RequestRouting.Files.Disk
import RequestRouting.Proofs.Files.Tree

/-!
# Changes of a configuration that fail

A change that is not allowed changes nothing.  A change that is allowed but cannot be saved is there
in memory all the same: the configuration that the manager holds is no longer the one in its file.
The file itself keeps its contents, since only a draft beside it has been written.

## Main definitions

* `Disk.Leaves` — a computation leaves every disk as it is.
* `Disk.Drafted` — a disk on which at most a draft has been written.
* `ConfigFile.Change` — the changes, and `ConfigFile.Change.Edits` for what they make of a
  configuration.

## Main results

* `ConfigFile.drafted_save` — a configuration that cannot be saved leaves at most a draft.
* `ConfigFile.Change.run_failed` — the two ways in which a change fails.
* `ConfigFile.Change.addResource_again` — a resource that could not be saved cannot be added again.
-/

set_option autoImplicit false

namespace RequestRouting

/-! ## Disks -/

namespace Disk

/-- What a computation on a disk answers and leaves, if another follows. -/
lemma bind_apply {α β : Type} (first : StateM Disk α) (next : α → StateM Disk β) (disk : Disk) :
    (first >>= next) disk = next (first disk).1 (first disk).2 := rfl

/-- A computation that leaves every disk as it is. -/
def Leaves {α : Type} (computation : StateM Disk α) : Prop :=
  ∀ disk, (computation disk).2 = disk

/-- A value leaves the disk as it is. -/
lemma leaves_pure {α : Type} (value : α) : Leaves (pure value) := fun _ => rfl

/-- Computations that leave the disk as it is do so one after the other. -/
lemma Leaves.bind {α β : Type} {first : StateM Disk α} {next : α → StateM Disk β}
    (hfirst : Leaves first) (hnext : ∀ value, Leaves (next value)) : Leaves (first >>= next) := by
  intro disk
  rw [bind_apply, hnext, hfirst]

/-- Looking at the tree leaves the disk as it is. -/
lemma leaves_look {α : Type} (operation : FileOperation) (path : String)
    (see : FileTree → Except FileError α) : Leaves (look operation path see) := by
  intro disk
  unfold look
  split <;> rfl

/-- Seeing what a path leads to leaves the disk as it is. -/
lemma leaves_inspect (path : String) :
    Leaves (FileAccess.inspect path : StateM Disk (Except FileError FileKind)) :=
  leaves_look _ _ _

/-- Looking for the canonical form of a path leaves the disk as it is. -/
lemma leaves_canonical (path : String) :
    Leaves (FileAccess.canonical path : StateM Disk (Except FileError String)) :=
  leaves_look _ _ _

/-- Listing a directory leaves the disk as it is. -/
lemma leaves_list (path : String) :
    Leaves (FileAccess.list path : StateM Disk (Except FileError (List (String × EntryKind)))) :=
  leaves_look _ _ _

/-- Reading a file leaves the disk as it is. -/
lemma leaves_read (path : String) :
    Leaves (FileAccess.read path : StateM Disk (Except FileError ByteArray)) :=
  leaves_look _ _ _

/-- The canonical form of a path is that of the tree. -/
lemma canonical_eq_ok {path canonical : String} {disk : Disk}
    (h : ((FileAccess.canonical path : StateM Disk (Except FileError String)) disk).1 =
      .ok canonical) : disk.tree.canonical path = .ok canonical := by
  change (look .canonical path (fun tree => tree.canonical path) disk).1 = _ at h
  unfold look at h
  split at h
  · cases h
  · exact h

/-- Writing changes the tree. -/
lemma write_eq (path : String) (contents : ByteArray) :
    (FileAccess.write path contents : StateM Disk (Except FileError Unit)) =
      change .write path fun tree => tree.write path contents := rfl

/-- Protecting changes the tree. -/
lemma protect_eq (path : String) :
    (FileAccess.protect path : StateM Disk (Except FileError Unit)) =
      change .protect path fun tree => tree.protect path := rfl

/-- Moving changes the tree. -/
lemma rename_eq (source target : String) :
    (FileAccess.rename source target : StateM Disk (Except FileError Unit)) =
      change .rename source fun tree => tree.rename source target := rfl

/-- A change of the tree fails and changes nothing, or it is made. -/
lemma change_cases (operation : FileOperation) (path : String)
    (edit : FileTree → Except FileError FileTree) (disk : Disk) :
    (∃ e, change operation path edit disk = (.error e, disk)) ∨
      ∃ tree, edit disk.tree = .ok tree ∧
        change operation path edit disk = (.ok (), { disk with tree := tree }) := by
  unfold change
  split
  · exact .inl ⟨_, rfl⟩
  · split
    · next tree hedit => exact .inr ⟨tree, hedit, rfl⟩
    · exact .inl ⟨_, rfl⟩

/-- A disk on which at most a draft has been written: new contents for the file that a path leads
to. -/
structure Drafted (path : String) (contents : ByteArray) (disk later : Disk) : Prop where
  refusal_eq : later.refusal = disk.refusal
  tree_cases : later.tree = disk.tree ∨ ∃ place mode, disk.tree.follow true path = .ok place ∧
    disk.tree.Fits place ∧ later.tree = disk.tree.put place (.file contents mode)

/-- Nothing has been written. -/
lemma Drafted.refl (path : String) (contents : ByteArray) (disk : Disk) :
    Drafted path contents disk disk := ⟨rfl, .inl rfl⟩

/-- Files elsewhere have the contents that they had before a draft was written. -/
lemma Drafted.read_eq {draft path : String} {contents kept : ByteArray} {disk later : Disk}
    (h : Drafted draft contents disk later)
    (helsewhere : ∀ place, disk.tree.follow true draft = .ok place →
      disk.tree.follow true path ≠ .ok place)
    (hread : disk.tree.read path = .ok kept) : later.tree.read path = .ok kept := by
  obtain htree | ⟨place, mode, hfollow, hfits, htree⟩ := h.tree_cases
  · rw [htree, hread]
  · rw [htree]
    exact FileTree.read_put hfits (helsewhere place hfollow) hread

end Disk

/-! ## Saving -/

namespace ConfigFile

open Disk

/-- A step that fails is the end. -/
lemma andThen_error {α : Type} {step : StateM Disk (Except FileError α)}
    {next : α → StateM Disk (Except ConfigError Unit)} {disk later : Disk} {e : FileError}
    (h : step disk = (.error e, later)) :
    andThen step next disk = (.error (.file e), later) := by
  rw [andThen, bind_apply, h]
  rfl

/-- After a step that does not fail the next one is taken. -/
lemma andThen_ok {α : Type} {step : StateM Disk (Except FileError α)}
    {next : α → StateM Disk (Except ConfigError Unit)} {disk later : Disk} {value : α}
    (h : step disk = (.ok value, later)) : andThen step next disk = next value later := by
  rw [andThen, bind_apply, h]

/-- **A configuration that cannot be saved leaves at most a draft**, wherever the saving fails.

**Proof sketch.** The draft is written, protected and moved.  If the first of these fails nothing is
written; if the second or the third fails the draft is there, and nothing else has changed. -/
theorem drafted_save {file : ConfigFile} {disk later : Disk} {e : ConfigError}
    (h : (file.save : StateM Disk (Except ConfigError Unit)) disk = (.error e, later)) :
    (∃ cause, e = .file cause) ∧
      Drafted (draftPath file.path) file.config.toText.toUTF8 disk later := by
  unfold save at h
  rw [write_eq, protect_eq, rename_eq] at h
  obtain ⟨cause, hwrite⟩ | ⟨written, hedit, hwrite⟩ := change_cases .write (draftPath file.path)
    (fun tree => tree.write (draftPath file.path) file.config.toText.toUTF8) disk
  · rw [andThen_error hwrite] at h
    cases h
    exact ⟨⟨cause, rfl⟩, .refl ..⟩
  rw [andThen_ok hwrite] at h
  obtain ⟨place, mode, hfollow, hfits, rfl⟩ := FileTree.exists_put_of_write hedit
  obtain ⟨cause, hprotect⟩ | ⟨guarded, hedit, hprotect⟩ := change_cases .protect
    (draftPath file.path) (fun tree => tree.protect (draftPath file.path))
    { disk with tree := disk.tree.put place (.file file.config.toText.toUTF8 mode) }
  · rw [andThen_error hprotect] at h
    cases h
    exact ⟨⟨cause, rfl⟩, rfl, .inr ⟨place, mode, hfollow, hfits, rfl⟩⟩
  rw [andThen_ok hprotect] at h
  obtain rfl := Except.ok.inj ((FileTree.protect_put hfollow hfits).symm.trans hedit)
  obtain ⟨cause, hrename⟩ | ⟨moved, -, hrename⟩ := change_cases .rename (draftPath file.path)
    (fun tree => tree.rename (draftPath file.path) file.path)
    { disk with tree := disk.tree.put place (.file file.config.toText.toUTF8
      FileTree.privateMode) }
  · rw [andThen_error hrename] at h
    cases h
    exact ⟨⟨cause, rfl⟩, rfl, .inr ⟨place, _, hfollow, hfits, rfl⟩⟩
  · rw [andThen_ok hrename] at h
    cases h

/-! ## Changes -/

/-- The changes of a configuration. -/
inductive Change where
  | addResource (entry : ResourceEntry)
  | removeResource (name : String)
  | addTable (path : String)

namespace Change

/-- Makes a change. -/
def run {m : Type → Type} [Monad m] [FileAccess m] (change : Change) (file : ConfigFile) :
    m (ConfigFile × Except ConfigError Unit) :=
  match change with
  | .addResource entry => file.addResource entry
  | .removeResource name => file.removeResource name
  | .addTable path => file.addTable path

/-- What a change makes of a configuration, given the files around it. -/
def Edits (tree : FileTree) (config edited : Config) : Change → Prop
  | .addResource entry => edited = { config with resources := config.resources ++ [entry] }
  | .removeResource name => (config.resource? name).isSome = true ∧
    edited = { config with resources := config.resources.eraseP fun entry => entry.name = name }
  | .addTable path => ∃ canonical, tree.canonical path = .ok canonical ∧
    edited = { config with tables := config.tables ++ [canonical] }

/-- No change leaves a configuration as it is. -/
lemma Edits.ne {change : Change} {tree : FileTree} {config edited : Config}
    (h : change.Edits tree config edited) : edited ≠ config := by
  cases change with
  | addResource entry =>
    obtain rfl := h
    intro heq
    simpa using congrArg Config.resources heq
  | removeResource name =>
    obtain ⟨hfound, rfl⟩ := h
    intro heq
    obtain ⟨entry, hentry⟩ := Option.isSome_iff_exists.1 hfound
    have hmem := List.mem_of_find?_eq_some hentry
    unfold Config.resource? at hentry
    have hlength := List.length_eraseP_of_mem hmem (List.find?_some hentry)
    have hpos := List.length_pos_of_mem hmem
    have hsame := congrArg (fun config : Config => config.resources.length) heq
    dsimp only at hsame
    omega
  | addTable path =>
    obtain ⟨canonical, -, rfl⟩ := h
    intro heq
    simpa using congrArg Config.tables heq

/-- What is read of a tree to see whether a path is readable leaves the disk as it is. -/
lemma leaves_isReadable (path : String) : Leaves (isReadable path : StateM Disk Bool) := by
  unfold isReadable isDirectory
  refine .bind (.bind (leaves_inspect path) fun kind => ?_) fun listable => ?_
  · cases kind with
    | error e => exact leaves_pure _
    | ok kind => cases kind <;> exact leaves_pure _
  · cases listable
    · exact .bind (leaves_read path) fun _ => leaves_pure _
    · exact .bind (leaves_list path) fun _ => leaves_pure _

/-- Checking the path of a rule table leaves the disk as it is. -/
lemma leaves_checkTablePath (path : String) :
    Leaves (checkTablePath path : StateM Disk (Except SecurityFault String)) := by
  unfold checkTablePath
  refine .bind (leaves_canonical path) fun canonical => ?_
  cases canonical with
  | error e => exact leaves_pure _
  | ok canonical => exact .bind (leaves_isReadable canonical) fun _ => leaves_pure _

/-- The path of a rule table that passes the check is canonical. -/
lemma canonical_of_checkTablePath {path canonical : String} {disk : Disk}
    (h : ((checkTablePath path : StateM Disk (Except SecurityFault String)) disk).1 =
      .ok canonical) : disk.tree.canonical path = .ok canonical := by
  refine canonical_eq_ok ?_
  unfold checkTablePath at h
  rw [bind_apply] at h
  cases hcanonical :
      ((FileAccess.canonical path : StateM Disk (Except FileError String)) disk).1 with
  | error e =>
    rw [hcanonical] at h
    cases h
  | ok found =>
    rw [hcanonical] at h
    dsimp only at h
    rw [bind_apply] at h
    split at h
    · cases h
      rfl
    · cases h

/-- The new configuration takes the place of the old one, whatever comes of the saving. -/
lemma change_apply (file : ConfigFile) (config : Config) (disk : Disk) :
    (file.change config : StateM Disk (ConfigFile × Except ConfigError Unit)) disk =
      (({ file with config := config },
        ((save { file with config := config } : StateM Disk (Except ConfigError Unit)) disk).1),
        ((save { file with config := config } : StateM Disk (Except ConfigError Unit)) disk).2) :=
  rfl

/-- Replacing the configuration fails only if the new one cannot be saved. -/
lemma change_failed {file reached : ConfigFile} {config : Config} {disk later : Disk}
    {e : ConfigError}
    (h : (file.change config : StateM Disk (ConfigFile × Except ConfigError Unit)) disk =
      ((reached, .error e), later)) :
    reached = { file with config := config } ∧ (∃ cause, e = .file cause) ∧
      Drafted (draftPath file.path) config.toText.toUTF8 disk later := by
  rw [change_apply] at h
  obtain ⟨hreached, hsave⟩ := Prod.mk.inj h
  obtain ⟨rfl, herror⟩ := Prod.mk.inj hreached
  obtain ⟨hcause, hdraft⟩ := drafted_save (Prod.ext herror hsave)
  exact ⟨rfl, hcause, hdraft⟩

/-- A change of a file has failed with an error: it is not allowed and nothing has changed, or the
new configuration cannot be saved. -/
def FailsWith (change : Change) (file reached : ConfigFile) (disk later : Disk) (e : ConfigError) :
    Prop :=
  (reached = file ∧ later = disk ∧ ∀ cause, e ≠ .file cause) ∨
    ((∃ cause, e = .file cause) ∧ reached.path = file.path ∧
      change.Edits disk.tree file.config reached.config ∧
      Drafted (draftPath file.path) reached.config.toText.toUTF8 disk later)

/-- Adding a resource fails since it is not fit or not new, or since it cannot be saved. -/
lemma failsWith_addResource {file reached : ConfigFile} {entry : ResourceEntry}
    {disk later : Disk} {e : ConfigError}
    (h : (file.addResource entry : StateM Disk (ConfigFile × Except ConfigError Unit)) disk =
      ((reached, .error e), later)) :
    (Change.addResource entry).FailsWith file reached disk later e := by
  unfold ConfigFile.addResource at h
  cases hcheck : checkEntry entry with
  | error fault =>
    rw [hcheck] at h
    cases h
    exact .inl ⟨rfl, rfl, by simp⟩
  | ok done =>
    rw [hcheck] at h
    dsimp only at h
    by_cases hknown : (file.config.resource? entry.name).isSome = true
    · rw [if_pos hknown] at h
      cases h
      exact .inl ⟨rfl, rfl, by simp⟩
    · rw [if_neg hknown] at h
      obtain ⟨rfl, hcause, hdraft⟩ := change_failed h
      exact .inr ⟨hcause, rfl, rfl, hdraft⟩

/-- Removing a resource fails since it is not there, or since the others cannot be saved. -/
lemma failsWith_removeResource {file reached : ConfigFile} {name : String} {disk later : Disk}
    {e : ConfigError}
    (h : (file.removeResource name : StateM Disk (ConfigFile × Except ConfigError Unit)) disk =
      ((reached, .error e), later)) :
    (Change.removeResource name).FailsWith file reached disk later e := by
  unfold ConfigFile.removeResource at h
  dsimp only at h
  by_cases hfound : (file.config.resource? name).isSome = true
  · rw [if_pos hfound] at h
    obtain ⟨rfl, hcause, hdraft⟩ := change_failed h
    exact .inr ⟨hcause, rfl, ⟨hfound, rfl⟩, hdraft⟩
  · rw [if_neg hfound] at h
    cases h
    exact .inl ⟨rfl, rfl, by simp⟩

/-- Adding a rule table fails since its path is not fit or not new, or since it cannot be saved. -/
lemma failsWith_addTable {file reached : ConfigFile} {path : String} {disk later : Disk}
    {e : ConfigError}
    (h : (file.addTable path : StateM Disk (ConfigFile × Except ConfigError Unit)) disk =
      ((reached, .error e), later)) :
    (Change.addTable path).FailsWith file reached disk later e := by
  unfold ConfigFile.addTable at h
  -- the checks look at the disk, but leave it as it is
  rw [bind_apply, leaves_checkTablePath path disk] at h
  cases hcheck : ((checkTablePath path : StateM Disk (Except SecurityFault String)) disk).1 with
  | error fault =>
    rw [hcheck] at h
    cases h
    exact .inl ⟨rfl, rfl, by simp⟩
  | ok canonical =>
    rw [hcheck] at h
    dsimp only at h
    by_cases hknown : file.config.tables.any (Path.same canonical) = true
    · rw [if_pos hknown] at h
      cases h
      exact .inl ⟨rfl, rfl, by simp⟩
    · rw [if_neg hknown] at h
      obtain ⟨rfl, hcause, hdraft⟩ := change_failed h
      exact .inr ⟨hcause, rfl, ⟨canonical, canonical_of_checkTablePath hcheck, rfl⟩, hdraft⟩

/-- A change fails since it is not allowed, or since the new configuration cannot be saved. -/
lemma failsWith_run {change : Change} {file reached : ConfigFile} {disk later : Disk}
    {e : ConfigError}
    (h : (change.run file : StateM Disk (ConfigFile × Except ConfigError Unit)) disk =
      ((reached, .error e), later)) :
    change.FailsWith file reached disk later e := by
  cases change with
  | addResource entry => exact failsWith_addResource h
  | removeResource name => exact failsWith_removeResource h
  | addTable path => exact failsWith_addTable h

/-- **The two ways in which a change fails**, whatever the files and whatever operation is refused.
If the change is not allowed, then nothing changes, in memory or on the disk.  If it cannot be
saved, then it is made in memory nevertheless, where the configuration is another one than before;
on the disk there is at most a draft, and the file of the configuration keeps its contents unless
the draft was written into it.

**Proof sketch.** The new configuration takes the place of the old one before it is saved.  The
saving touches the file only in its last step. -/
theorem run_failed {change : Change} {file reached : ConfigFile} {disk later : Disk}
    {e : ConfigError}
    (h : (change.run file : StateM Disk (ConfigFile × Except ConfigError Unit)) disk =
      ((reached, .error e), later)) :
    (reached = file ∧ later = disk ∧ ∀ cause, e ≠ .file cause) ∨
      ((∃ cause, e = .file cause) ∧
        reached.path = file.path ∧ change.Edits disk.tree file.config reached.config ∧
        reached.config ≠ file.config ∧
        Drafted (draftPath file.path) reached.config.toText.toUTF8 disk later ∧
        ∀ kept, disk.tree.read file.path = .ok kept →
          (∀ place, disk.tree.follow true (draftPath file.path) = .ok place →
            disk.tree.follow true file.path ≠ .ok place) →
          later.tree.read file.path = .ok kept) := by
  obtain hrefused | ⟨hcause, hpath, hedits, hdraft⟩ := failsWith_run h
  · exact .inl hrefused
  · exact .inr ⟨hcause, hpath, hedits, hedits.ne, hdraft,
      fun kept hread helsewhere => hdraft.read_eq helsewhere hread⟩

/-- **A resource that could not be saved cannot be added again**, even if nothing stands in the way
of the saving any more: it is taken for one that is there. -/
theorem addResource_again {file reached : ConfigFile} {entry : ResourceEntry}
    {disk later : Disk} {cause : FileError}
    (h : (file.addResource entry : StateM Disk (ConfigFile × Except ConfigError Unit)) disk =
      ((reached, .error (.file cause)), later)) (again : Disk) :
    (reached.addResource entry : StateM Disk (ConfigFile × Except ConfigError Unit)) again =
      ((reached, .error (.resourceExists entry.name)), again) := by
  obtain ⟨-, -, hnofile⟩ | ⟨-, -, hedits, -⟩ := failsWith_addResource h
  · exact absurd rfl (hnofile cause)
  have hknown : (reached.config.resource? entry.name).isSome = true := by
    have hconfig : reached.config =
        { file.config with resources := file.config.resources ++ [entry] } := hedits
    rw [hconfig, Config.resource?, List.find?_isSome]
    exact ⟨entry, List.mem_append_right _ (List.mem_singleton_self entry),
      decide_eq_true rfl⟩
  unfold ConfigFile.addResource at h ⊢
  cases hcheck : checkEntry entry with
  | error fault =>
    rw [hcheck] at h
    cases h
  | ok done =>
    simp only [hknown, if_pos]
    rfl

/-! ## A draft that cannot be written -/

/-- A file with the configuration of a new one. -/
def newFile : ConfigFile := ⟨"config.toml", .byDefault⟩

/-- A disk with that file, and with a directory in the place of its draft. -/
def blockedDisk : Disk :=
  .plain ⟨[(["config.toml"], .file newFile.config.toText.toUTF8 FileTree.privateMode),
    (["config.toml.tmp"], .directory)], []⟩

/-- A resource that is fit to be added. -/
def userEntry : ResourceEntry := ⟨"user", "/users/\x7bid\x7d", none⟩

/-- The file with the resource, which is not saved. -/
def unsavedFile : ConfigFile :=
  { newFile with config := { newFile.config with resources := [userEntry] } }

/-- The path of the draft leads to the directory. -/
lemma follow_blockedDisk :
    blockedDisk.tree.follow true "config.toml.tmp" = .ok ["config.toml.tmp"] := by
  have hparts : Path.parts "config.toml.tmp" = ["config.toml.tmp"] := by decide
  have hstart :
      FileTree.start "config.toml.tmp" blockedDisk.tree.workingDirectory = [] := rfl
  have hroot : blockedDisk.tree.entry? [] = some .directory := rfl
  have hentry : blockedDisk.tree.entry? ["config.toml.tmp"] = some .directory := rfl
  have hlong : ¬ FileTree.maxNameSize < "config.toml.tmp".utf8ByteSize := by decide
  unfold FileTree.follow
  rw [if_neg (by decide), if_neg (by decide), hparts, hstart]
  simp [FileTree.walk, hroot, hentry, hlong]

/-- The draft cannot be written. -/
lemma save_unsavedFile :
    (unsavedFile.save : StateM Disk (Except ConfigError Unit)) blockedDisk =
      (.error (.file .isADirectory), blockedDisk) := by
  have hdraft : draftPath unsavedFile.path = "config.toml.tmp" := by decide
  have hdirectory : blockedDisk.tree.write "config.toml.tmp" unsavedFile.config.toText.toUTF8 =
      .error .isADirectory := by
    unfold FileTree.write
    rw [follow_blockedDisk]
    rfl
  have hfree : blockedDisk.refusal .write "config.toml.tmp" = none := rfl
  have hwrite : (FileAccess.write (draftPath unsavedFile.path) unsavedFile.config.toText.toUTF8 :
      StateM Disk (Except FileError Unit)) blockedDisk = (.error .isADirectory, blockedDisk) := by
    rw [write_eq, hdraft]
    unfold Disk.change
    simp only [hfree, hdirectory]
  exact andThen_error hwrite

/-- The resource is in memory, but not on the disk. -/
lemma run_blockedDisk :
    ((Change.addResource userEntry).run newFile :
      StateM Disk (ConfigFile × Except ConfigError Unit)) blockedDisk =
      ((unsavedFile, .error (.file .isADirectory)), blockedDisk) := by
  have hcheck : checkEntry userEntry = .ok () := by rfl
  have hchange : (newFile.change unsavedFile.config :
      StateM Disk (ConfigFile × Except ConfigError Unit)) blockedDisk =
      ((unsavedFile, .error (.file .isADirectory)), blockedDisk) := by
    rw [change_apply]
    exact congrArg (fun saved => ((unsavedFile, saved.1), saved.2)) save_unsavedFile
  unfold run ConfigFile.addResource
  simp only [hcheck]
  rw [if_neg (by decide)]
  exact hchange

/-- The failed change of `newFile` is of the second kind. -/
theorem run_failed_blockedDisk :
    ((Change.addResource userEntry).run newFile :
      StateM Disk (ConfigFile × Except ConfigError Unit)) blockedDisk =
      ((unsavedFile, .error (.file .isADirectory)), blockedDisk) ∧
    (Change.addResource userEntry).Edits blockedDisk.tree newFile.config unsavedFile.config ∧
    unsavedFile.config ≠ newFile.config ∧
    ∀ kept, blockedDisk.tree.read newFile.path = .ok kept →
      (∀ place, blockedDisk.tree.follow true (draftPath newFile.path) = .ok place →
        blockedDisk.tree.follow true newFile.path ≠ .ok place) →
      blockedDisk.tree.read newFile.path = .ok kept := by
  obtain ⟨-, -, hnofile⟩ | ⟨-, -, hedits, hne, -, hread⟩ := run_failed run_blockedDisk
  · exact absurd rfl (hnofile .isADirectory)
  · exact ⟨run_blockedDisk, hedits, hne, hread⟩

/-- **Not every change that fails leaves everything as it was**: the one of `newFile` does not. -/
theorem not_unchanged_of_failed :
    ¬ ∀ (change : Change) (file reached : ConfigFile) (disk later : Disk) (e : ConfigError),
      (change.run file : StateM Disk (ConfigFile × Except ConfigError Unit)) disk =
        ((reached, .error e), later) →
      reached.config = file.config ∧
        later.tree.read file.path = disk.tree.read file.path := by
  intro hunchanged
  have hresources := congrArg Config.resources (hunchanged _ _ _ _ _ _ run_blockedDisk).1
  cases hresources

end Change

end ConfigFile

end RequestRouting
