import RequestRouting.Proofs.Config.RoundTrip
import RequestRouting.Proofs.Config.Saving

/-!
# What is saved is what is loaded

A configuration that has been saved is the one that is loaded next, as long as no link lies in the
place of the draft when the file is created.  If one does, then the draft is written through the
link, and it is the link that takes the place of the file.

## Main definitions

* `ConfigFile.Saved` — a file that has been created and changed with success, and its disk.
* `Disk.withParent` — a disk on which the directory of a path has been made.

## Main results

* `ConfigFile.Saved.load_eq` — what has been saved is loaded.
* `ConfigFile.Saved.not_load_linkedDisk` — it need not be loaded if a link lies where the draft is
  written.
-/

set_option autoImplicit false

namespace RequestRouting

/-- A disk on which the directory of a path has been made. -/
def Disk.withParent (disk : Disk) (path : String) : Disk :=
  ((ConfigFile.makeParent path : StateM Disk (Except FileError Unit)) disk).2

namespace ConfigFile

open Disk Change

variable {path : String} {start disk later : Disk} {file reached : ConfigFile}

/-- A file that has been created at a path, and has since then been changed through its operations
or edited and saved, always with success, together with the disk that this has led to. -/
inductive Saved (path : String) (start : Disk) : ConfigFile → Disk → Prop where
  | created {file : ConfigFile} {later : Disk}
      (h : (create path : StateM Disk (Except ConfigError ConfigFile)) start =
        (.ok file, later)) : Saved path start file later
  | changed {file reached : ConfigFile} {disk later : Disk} (hfile : Saved path start file disk)
      (change : Change)
      (h : (change.run file : StateM Disk (ConfigFile × Except ConfigError Unit)) disk =
        ((reached, .ok ()), later)) : Saved path start reached later
  | edited {file reached : ConfigFile} {disk later : Disk} (hfile : Saved path start file disk)
      (config : Config)
      (h : (file.change config : StateM Disk (ConfigFile × Except ConfigError Unit)) disk =
        ((reached, .ok ()), later)) : Saved path start reached later

/-! ## Saving -/

/-- Replacing the configuration succeeds if the new one is saved. -/
lemma save_of_change {config : Config}
    (h : (file.change config : StateM Disk (ConfigFile × Except ConfigError Unit)) disk =
      ((reached, .ok ()), later)) :
    reached.path = file.path ∧
      (reached.save : StateM Disk (Except ConfigError Unit)) disk = (.ok (), later) := by
  rw [change_apply] at h
  obtain ⟨hreached, hsave⟩ := Prod.mk.inj h
  obtain ⟨rfl, hok⟩ := Prod.mk.inj hreached
  exact ⟨rfl, Prod.ext hok hsave⟩

/-- A change succeeds if its outcome is saved. -/
lemma save_of_run {change : Change}
    (h : (change.run file : StateM Disk (ConfigFile × Except ConfigError Unit)) disk =
      ((reached, .ok ()), later)) :
    reached.path = file.path ∧
      (reached.save : StateM Disk (Except ConfigError Unit)) disk = (.ok (), later) := by
  cases change with
  | addResource entry =>
    change (file.addResource entry : StateM Disk (ConfigFile × Except ConfigError Unit)) disk = _
      at h
    unfold ConfigFile.addResource at h
    cases hcheck : checkEntry entry with
    | error fault =>
      rw [hcheck] at h
      cases h
    | ok done =>
      rw [hcheck] at h
      dsimp only at h
      split at h
      · cases h
      · exact save_of_change h
  | removeResource name =>
    change (file.removeResource name : StateM Disk (ConfigFile × Except ConfigError Unit)) disk = _
      at h
    unfold ConfigFile.removeResource at h
    split at h
    · exact save_of_change h
    · cases h
  | addTable path =>
    change (file.addTable path : StateM Disk (ConfigFile × Except ConfigError Unit)) disk = _ at h
    unfold ConfigFile.addTable at h
    rw [bind_apply, leaves_checkTablePath path disk] at h
    cases hcheck : ((checkTablePath path : StateM Disk (Except SecurityFault String)) disk).1 with
    | error fault =>
      rw [hcheck] at h
      cases h
    | ok canonical =>
      rw [hcheck] at h
      dsimp only at h
      split at h
      · cases h
      · exact save_of_change h

/-- What holds after a saving: the file has the text of the configuration, and can be replaced
again. -/
structure Settled (path : String) (made later : Disk) (file : ConfigFile) : Prop where
  path_eq : file.path = path
  refusal_eq : later.refusal = made.refusal
  clear : later.tree.Clear (draftPath path) path
  read_eq : later.tree.read path = .ok file.config.toText.toUTF8

/-- A saving settles a file whose draft is no link. -/
lemma settled_of_save {made : Disk} (hpath : file.path = path)
    (hrefusal : disk.refusal = made.refusal) (hclear : disk.tree.Clear (draftPath path) path)
    (h : (file.save : StateM Disk (Except ConfigError Unit)) disk = (.ok (), later)) :
    Settled path made later file := by
  subst hpath
  obtain ⟨-, written, guarded, moved, hwrite, hprotect, hrename, rfl⟩ := save_eq_ok.1 h
  obtain ⟨hagain, hread⟩ := hclear.replace hwrite hprotect hrename
  exact ⟨rfl, hrefusal, hagain, hread⟩

/-- Every saving settles the file, the first as well as the later ones. -/
lemma Saved.settled (h : Saved path start file later)
    (hclear : (start.withParent path).tree.Clear (draftPath path) path) :
    Settled path (start.withParent path) later file := by
  induction h with
  | created h =>
    obtain ⟨-, rfl, made, hmade, hsave⟩ := create_eq_ok.1 h
    obtain rfl : start.withParent path = made := congrArg Prod.snd hmade
    exact settled_of_save rfl rfl hclear hsave
  | changed hfile change h ih =>
    obtain ⟨hpath, hsave⟩ := save_of_run h
    exact settled_of_save (hpath.trans ih.path_eq) ih.refusal_eq ih.clear hsave
  | edited hfile config h ih =>
    obtain ⟨hpath, hsave⟩ := save_of_change h
    exact settled_of_save (hpath.trans ih.path_eq) ih.refusal_eq ih.clear hsave

/-! ## Loading -/

/-- A file with a text that spells a configuration is loaded. -/
lemma load_file {text : String} {config : Config} (hconfig : Config.ofText? text = some config)
    (hread : disk.tree.read path = .ok text.toUTF8)
    (hinspect : disk.refusal .inspect path = none) (hfree : disk.refusal .read path = none) :
    (load path : StateM Disk (Except ConfigError ConfigFile)) disk =
      (.ok ⟨path, config⟩, disk) := by
  obtain ⟨place, mode, hfollow, hentry⟩ := FileTree.read_eq_ok.1 hread
  have hlocate := FileTree.locate_eq_ok.2 ⟨hfollow, hentry⟩
  have hexists : (pathExists path : StateM Disk Bool) disk = (true, disk) := by
    unfold pathExists
    rw [bind_apply, inspect_file hlocate hinspect]
    rfl
  have htext : (readText path : StateM Disk (Except FileError String)) disk =
      (.ok text, disk) := by
    unfold readText
    rw [bind_apply, read_file hlocate hfree]
    exact congrArg (·, disk) (textOf_toUTF8 text)
  unfold load
  rw [bind_apply, hexists, if_pos rfl, bind_apply, htext]
  simp only [hconfig]
  rfl

/-- **What has been saved is what is loaded**: after each successful operation on a file that has
been created, its path gives back the configuration in memory, whatever texts are in it.  No link
may lie in the place of the draft when the first one is written, the path must not lead over the
place where it ends, and looking at the file must not be refused.

**Proof sketch.** Each saving moves its draft to where the path ends, so that the text of the
configuration is read there; and neither of the two is a link afterwards.  The text is read as the
configuration that it was written from. -/
theorem Saved.load_eq (h : Saved path start file later)
    (hclear : (start.withParent path).tree.Clear (draftPath path) path)
    (hinspect : (start.withParent path).refusal .inspect path = none)
    (hread : (start.withParent path).refusal .read path = none) :
    (load path : StateM Disk (Except ConfigError ConfigFile)) later = (.ok file, later) := by
  have hsettled := h.settled hclear
  rw [← hsettled.refusal_eq] at hinspect hread
  obtain ⟨own, config⟩ := file
  obtain rfl : own = path := hsettled.path_eq
  exact load_file config.ofText?_toText hsettled.read_eq hinspect hread

/-- A resource with texts that need every form of string. -/
def oddEntry : ResourceEntry :=
  ⟨"odd", "/\x01\"\"\"\x27\x27\x27\\\n/\x7bid\x7d",
    some "It\x27s a \"path\"\nwith\ttabs and \\"⟩

/-- A file with that resource and with an origin. -/
def oddFile : ConfigFile :=
  ⟨"config.toml", { Config.byDefault with
    origin := some "https://example.com", resources := [oddEntry] }⟩

/-- The file is created on an empty disk, the resource is added, the origin is set, and all of it is
loaded again. -/
theorem Saved.load_oddFile : ∃ later, Saved "config.toml" emptyDisk oddFile later ∧
    (load "config.toml" : StateM Disk (Except ConfigError ConfigFile)) later =
      (.ok oddFile, later) := by
  have hmade : emptyDisk.withParent "config.toml" = emptyDisk :=
    congrArg Prod.snd (makeParent_root emptyDisk)
  obtain ⟨first, hcreate, hfirst⟩ := exists_create_emptyDisk
  obtain ⟨second, hadd, hsecond⟩ :=
    hfirst.exists_save { Config.byDefault with resources := [oddEntry] }
  obtain ⟨third, hedit, -⟩ := hsecond.exists_save oddFile.config
  have hcheck : checkEntry oddEntry = .ok () := by decide
  have hrun : ((Change.addResource oddEntry).run newFile :
      StateM Disk (ConfigFile × Except ConfigError Unit)) first =
      ((⟨"config.toml", { Config.byDefault with resources := [oddEntry] }⟩, .ok ()), second) := by
    unfold Change.run ConfigFile.addResource
    simp only [hcheck]
    rw [if_neg (by decide), change_apply]
    exact congrArg (fun saved => ((_, saved.1), saved.2)) hadd
  have hsaved : Saved "config.toml" emptyDisk oddFile third := by
    refine .edited (.changed (.created hcreate) (.addResource oddEntry) hrun) oddFile.config ?_
    rw [change_apply]
    exact congrArg (fun saved => ((_, saved.1), saved.2)) hedit
  refine ⟨third, hsaved, hsaved.load_eq ?_ ?_ ?_⟩ <;> rw [hmade]
  · exact free_emptyDisk.clear
  · rfl
  · rfl

/-! ## A link in the place of the draft -/

/-- A disk with a link from the draft to the file. -/
def linkedDisk : Disk := .plain ⟨[(["config.toml.tmp"], .link "config.toml")], []⟩

/-- What is left of it by the saving: a link to itself. -/
def loopedDisk : Disk := .plain ⟨[(["config.toml"], .link "config.toml")], []⟩

/-- The link to itself is followed until no more links may be followed. -/
lemma walk_loopedDisk (links : Nat) :
    loopedDisk.tree.walk true links [] ["config.toml"] = .error .linkLoop := by
  have hroot : loopedDisk.tree.entry? [] = some .directory := rfl
  have hlink : loopedDisk.tree.entry? ["config.toml"] = some (.link "config.toml") := rfl
  have hsize : ¬ FileTree.maxNameSize < "config.toml".utf8ByteSize := by decide
  have hstart : FileTree.start "config.toml" [] = [] := by decide
  have hparts : Path.parts "config.toml" = ["config.toml"] := by decide
  induction links with
  | zero => simp [FileTree.walk, hroot, hlink, hsize]
  | succ links ih => simp [FileTree.walk, hroot, hlink, hsize, hstart, hparts, ih]

/-- Nothing is found behind the link to itself. -/
lemma locate_loopedDisk : loopedDisk.tree.locate "config.toml" = .error .linkLoop := by
  have hparts : Path.parts "config.toml" = ["config.toml"] := by decide
  have hstart : FileTree.start "config.toml" loopedDisk.tree.workingDirectory = [] := rfl
  unfold FileTree.locate FileTree.follow
  rw [if_neg (by decide), if_neg (by decide), hparts, hstart, walk_loopedDisk]
  rfl

/-- The draft is written through the link. -/
lemma follow_linkedDisk :
    linkedDisk.tree.follow true "config.toml.tmp" = .ok ["config.toml"] := by
  have hroot : linkedDisk.tree.entry? [] = some .directory := rfl
  have hlink : linkedDisk.tree.entry? ["config.toml.tmp"] = some (.link "config.toml") := rfl
  have hnone : linkedDisk.tree.entry? ["config.toml"] = none := rfl
  have hlong : ¬ FileTree.maxNameSize < "config.toml.tmp".utf8ByteSize := by decide
  have hsize : ¬ FileTree.maxNameSize < "config.toml".utf8ByteSize := by decide
  have hparts : Path.parts "config.toml.tmp" = ["config.toml.tmp"] := by decide
  have htarget : Path.parts "config.toml" = ["config.toml"] := by decide
  have hbegin : FileTree.start "config.toml.tmp" linkedDisk.tree.workingDirectory = [] := rfl
  have hstart : FileTree.start "config.toml" [] = [] := by decide
  unfold FileTree.follow
  rw [if_neg (by decide), if_neg (by decide), hparts, hbegin]
  simp [FileTree.walk, FileTree.maxLinks, hroot, hlink, hnone, hlong, hsize, htarget, hstart]

/-- A new file can be made on the disk with the link, which is what remains. -/
lemma create_linkedDisk :
    (create "config.toml" : StateM Disk (Except ConfigError ConfigFile)) linkedDisk =
      (.ok newFile, loopedDisk) := by
  have hdraft : draftPath "config.toml" = "config.toml.tmp" := by decide
  have hfits : linkedDisk.tree.Fits ["config.toml"] := .inl rfl
  have hpath (through : Bool) :
      linkedDisk.tree.follow through "config.toml" = .ok ["config.toml"] :=
    FileTree.follow_name (.inl (by decide)) rfl (by decide) (by decide) (by decide) (by decide)
      fun target hlink => absurd hlink ((FileTree.fits_iff.1 hfits).2 target)
  have hsource : linkedDisk.tree.follow false "config.toml.tmp" = .ok ["config.toml.tmp"] :=
    FileTree.follow_name (.inl (by decide)) rfl (by decide) (by decide) (by decide) (by decide)
      fun _ _ => rfl
  have hnothing : linkedDisk.tree.locate "config.toml" = .error .notFound := by
    unfold FileTree.locate
    rw [hpath]
    rfl
  obtain ⟨mode, hwrite⟩ :=
    FileTree.exists_write newFile.config.toText.toUTF8 follow_linkedDisk hfits
  have hsame := FileTree.sameWays_put newFile.config.toText.toUTF8 FileTree.privateMode hfits
  have hmoved := FileTree.rename_eq_ok.2 ⟨by decide, _, _, .link "config.toml",
    hsame.follow hsource, rfl, by simp, hsame.follow (hpath false),
    (FileTree.fits_iff.1 (hsame.fits hfits)).1, rfl⟩
  have hsave : (newFile.save : StateM Disk (Except ConfigError Unit)) linkedDisk = (.ok (), _) :=
    save_eq_ok.2 ⟨⟨rfl, rfl, rfl⟩, _, _, _, hdraft.symm ▸ hwrite,
      hdraft.symm ▸ FileTree.protect_put follow_linkedDisk hfits, hdraft.symm ▸ hmoved, rfl⟩
  -- what has been written lies where the link is moved to, and is lost
  have hlooped : Disk.mk (((linkedDisk.tree.put ["config.toml"] (.file
      newFile.config.toText.toUTF8 FileTree.privateMode)).erase ["config.toml.tmp"]).put
      ["config.toml"] (.link "config.toml")) linkedDisk.refusal = loopedDisk := rfl
  rw [hdraft, hlooped] at hsave
  exact create_eq_ok.2 ⟨pathExists_of_locate hnothing, rfl, linkedDisk,
    makeParent_root linkedDisk, hsave⟩

/-- **What has been saved need not be what is loaded** if a link lies in the place of the first
draft: then not even the configuration of a new file is loaded, although nothing is refused. -/
theorem Saved.not_load_linkedDisk :
    ¬ ∀ (path : String) (start later : Disk) (file : ConfigFile),
      (∀ operation path, start.refusal operation path = none) → Saved path start file later →
      ((load path : StateM Disk (Except ConfigError ConfigFile)) later).1 = .ok file := by
  intro hloads
  have hload := hloads _ linkedDisk _ _ (fun _ _ => rfl) (.created create_linkedDisk)
  unfold load at hload
  rw [bind_apply, pathExists_of_locate locate_loopedDisk] at hload
  cases hload

end ConfigFile

end RequestRouting
