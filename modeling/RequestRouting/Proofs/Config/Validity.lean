import RequestRouting.Proofs.Config.Saving
import RequestRouting.Proofs.Fields

/-!
# Valid configurations

What is demanded of a configuration is checked in three places: when something is put into it, when
it is checked as a whole, and when its resources are compiled, which is where repeated names come to
light.  The three agree.  A configuration that has only been changed through its file is valid at
every moment, whatever has failed on the way.

## Main definitions

* `ValidName` — the names that a resource may have.
* `Config.Valid` — what is demanded of a configuration, apart from the files around it.
* `Disk.Readable` — a path that leads to something that can be listed or read.
* `ConfigFile.Managed` — a file that has only been changed through its operations.

## Main results

* `Config.check_eq_ok` — a whole configuration passes the check if and only if it is valid and its
  rule tables are readable.
* `Config.urlFor_compile` — the compiled resources build the URLs of the single patterns.
* `ConfigFile.Managed.valid_and_check_iff` — both, and the validity of managed configurations.
-/

set_option autoImplicit false

namespace RequestRouting

/-! ## Names and patterns -/

/-- The names that a resource may have: 1 to 64 lower-case letters, digits, underscores, points and
hyphens. -/
structure ValidName (name : String) : Prop where
  one_le_length : 1 ≤ name.length
  length_le : name.length ≤ 64
  chars : ∀ c ∈ name.toList,
    ('a' ≤ c ∧ c ≤ 'z') ∨ ('0' ≤ c ∧ c ≤ '9') ∨ c = '_' ∨ c = '.' ∨ c = '-'

/-- The characters that may occur in a name. -/
lemma isResourceNameChar_iff {c : Char} : isResourceNameChar c = true ↔
    ('a' ≤ c ∧ c ≤ 'z') ∨ ('0' ≤ c ∧ c ≤ '9') ∨ c = '_' ∨ c = '.' ∨ c = '-' := by
  have hlower : c.isLower = (decide ('a' ≤ c) && decide (c ≤ 'z')) := rfl
  simp [isResourceNameChar, hlower, Char.isDigit, Char.le_def, or_assoc]

/-- A character that may occur in a name takes one octet. -/
lemma utf8Size_of_isResourceNameChar {c : Char} (h : isResourceNameChar c = true) :
    c.utf8Size = 1 := by
  rw [Char.utf8Size_eq_one_iff, UInt32.le_iff_toNat_le]
  obtain ⟨-, h⟩ | ⟨-, h⟩ | rfl | rfl | rfl := isResourceNameChar_iff.1 h
  · exact Nat.le_trans (UInt32.le_iff_toNat_le.1 h) (by decide)
  · exact Nat.le_trans (UInt32.le_iff_toNat_le.1 h) (by decide)
  all_goals decide

/-- A text of characters that take one octet has as many octets as characters. -/
lemma utf8ByteSize_eq_length {text : String} (h : ∀ c ∈ text.toList, c.utf8Size = 1) :
    text.utf8ByteSize = text.length := by
  obtain ⟨chars, rfl⟩ : ∃ chars, text = String.ofList chars :=
    ⟨text.toList, String.ofList_toList.symm⟩
  rw [String.toList_ofList] at h
  rw [String.length_ofList]
  induction chars with
  | nil => rfl
  | cons c rest ih =>
    obtain ⟨hc, hrest⟩ := List.forall_mem_cons.1 h
    have hcons : String.ofList (c :: rest) = String.singleton c ++ String.ofList rest := by
      rw [String.singleton_eq_ofList, ← String.ofList_append, List.singleton_append]
    rw [hcons, String.utf8ByteSize_append, String.utf8ByteSize_singleton, hc, ih hrest,
      List.length_cons, Nat.add_comm]

/-- The check of a name counts octets, of which each character that may occur takes one. -/
lemma isResourceName_iff {name : String} : isResourceName name = true ↔ ValidName name := by
  have hsize (hchars : ∀ c ∈ name.toList, isResourceNameChar c = true) :
      name.utf8ByteSize = name.length :=
    utf8ByteSize_eq_length fun c hc => utf8Size_of_isResourceNameChar (hchars c hc)
  have hpos : name ≠ "" ↔ 1 ≤ name.length := by
    rw [Nat.one_le_iff_ne_zero, ne_eq, ne_eq, String.length_eq_zero_iff]
  simp only [isResourceName, maxResourceName, Bool.and_eq_true, Bool.not_eq_true',
    List.all_eq_true, String.isEmpty_eq_false_iff, hpos]
  constructor
  · rintro ⟨⟨hone, hlong⟩, hchars⟩
    exact ⟨hone, hsize hchars ▸ of_decide_eq_true hlong,
      fun c hc => isResourceNameChar_iff.1 (hchars c hc)⟩
  · rintro ⟨hone, hlong, hchars⟩
    have hchars : ∀ c ∈ name.toList, isResourceNameChar c = true :=
      fun c hc => isResourceNameChar_iff.2 (hchars c hc)
    exact ⟨⟨hone, decide_eq_true ((hsize hchars).symm ▸ hlong)⟩, hchars⟩

/-- A pattern that compiles. -/
def Compiles (pattern : String) : Prop := ∃ template, Template.compile pattern = .ok template

/-- A resource passes the check if and only if its name and its pattern are fit. -/
lemma checkEntry_eq_ok {entry : ResourceEntry} :
    checkEntry entry = .ok () ↔ ValidName entry.name ∧ Compiles entry.pattern := by
  unfold checkEntry checkName checkPatternOf UrlPattern.parse Compiles
  rw [← isResourceName_iff]
  cases isResourceName entry.name <;>
    cases Template.compile entry.pattern <;> simp [bind, Except.bind]

/-- Resources pass the check if and only if each of them does. -/
lemma checkEntries_eq_ok {entries : List ResourceEntry} :
    checkEntries entries = .ok () ↔
      ∀ entry ∈ entries, ValidName entry.name ∧ Compiles entry.pattern := by
  induction entries with
  | nil => simp [checkEntries]
  | cons entry rest ih =>
    rw [List.forall_mem_cons, ← ih, ← checkEntry_eq_ok, checkEntries]
    cases checkEntry entry <;> simp [bind, Except.bind]

/-- An origin passes the check if and only if it can be read. -/
lemma checkOrigin_eq_ok {text : String} :
    checkOrigin text = .ok () ↔ ∃ origin, Origin.parse text = .ok origin := by
  unfold checkOrigin
  cases Origin.parse text <;> simp

/-! ## Compiled resources -/

/-- The URL of a pattern that no operation has used is that of the pattern. -/
lemma CachedPattern.build_new (name text : String) (params : Json) (escape : Bool) :
    ((CachedPattern.new name text).build params escape).1 =
      (⟨name, text⟩ : UrlPattern).build params escape := by
  unfold CachedPattern.build CachedPattern.use CachedPattern.new UrlPattern.build
    UrlPattern.template
  cases Template.compile text <;> rfl

namespace Resources

/-- A pattern is added if and only if its name is new and it compiles. -/
lemma insert_eq_ok {resources later : Resources} {name pattern : String} :
    resources.insert name pattern = .ok later ↔ resources.get? name = none ∧ Compiles pattern ∧
      later = { resources with patterns := resources.patterns.insert name ⟨name, pattern⟩ } := by
  unfold insert UrlPattern.parse Compiles get? Dict.has
  cases resources.patterns.get? name <;> cases Template.compile pattern <;>
    simp [bind, Except.bind, Except.map, eq_comm]

/-- What is found after a pattern has been added. -/
lemma get?_of_insert {resources later : Resources} {name pattern : String}
    (h : resources.insert name pattern = .ok later) (other : String) :
    later.get? other = if name = other then some ⟨name, pattern⟩ else resources.get? other := by
  obtain ⟨-, -, rfl⟩ := insert_eq_ok.1 h
  exact Fields.get?_insert other name _ _

/-- Patterns can be added one after another if and only if all of them compile and their names are
new and distinct. -/
lemma exists_insertAll {resources : Resources} {entries : List ResourceEntry} :
    (∃ later, Config.insertAll resources entries = .ok later) ↔
      (∀ entry ∈ entries, resources.get? entry.name = none) ∧
      (∀ entry ∈ entries, Compiles entry.pattern) ∧ (entries.map ResourceEntry.name).Nodup := by
  induction entries generalizing resources with
  | nil => simp [Config.insertAll]
  | cons entry rest ih =>
    simp only [List.forall_mem_cons, List.map_cons, List.nodup_cons, List.mem_map, not_exists,
      not_and, Config.insertAll]
    cases hinsert : resources.insert entry.name entry.pattern with
    | error e =>
      have hrefused : ¬ (resources.get? entry.name = none ∧ Compiles entry.pattern) := by
        rintro ⟨hnew, hcompiles⟩
        cases hinsert.symm.trans (insert_eq_ok.2 ⟨hnew, hcompiles, rfl⟩)
      simp only [bind, Except.bind, reduceCtorEq, exists_false, false_iff]
      rintro ⟨⟨hnew, -⟩, ⟨hcompiles, -⟩, -⟩
      exact hrefused ⟨hnew, hcompiles⟩
    | ok next =>
      obtain ⟨hnew, hcompiles, -⟩ := insert_eq_ok.1 hinsert
      simp only [bind, Except.bind, ih, get?_of_insert hinsert]
      constructor
      · rintro ⟨hfresh, hrest, hnodup⟩
        have hsplit (other : ResourceEntry) (hother : other ∈ rest) :
            entry.name ≠ other.name ∧ resources.get? other.name = none := by
          have hother := hfresh other hother
          split at hother
          · cases hother
          · next hne => exact ⟨hne, hother⟩
        exact ⟨⟨hnew, fun other hother => (hsplit other hother).2⟩, ⟨hcompiles, hrest⟩,
          fun other hother => (hsplit other hother).1.symm, hnodup⟩
      · rintro ⟨⟨-, hfresh⟩, ⟨-, hrest⟩, hdistinct, hnodup⟩
        refine ⟨fun other hother => ?_, hrest, hnodup⟩
        rw [if_neg fun heq => hdistinct other hother heq.symm]
        exact hfresh other hother

/-- All patterns that have been added are there, and those that were there are still there. -/
lemma get?_of_insertAll {resources later : Resources} {entries : List ResourceEntry}
    (h : Config.insertAll resources entries = .ok later) :
    (∀ name pattern, resources.get? name = some pattern → later.get? name = some pattern) ∧
      ∀ entry ∈ entries, later.get? entry.name = some ⟨entry.name, entry.pattern⟩ := by
  induction entries generalizing resources with
  | nil =>
    cases h
    exact ⟨fun _ _ hget => hget, by simp⟩
  | cons entry rest ih =>
    simp only [Config.insertAll] at h
    cases hinsert : resources.insert entry.name entry.pattern with
    | error e =>
      rw [hinsert] at h
      cases h
    | ok next =>
      rw [hinsert] at h
      obtain ⟨hkeep, hrest⟩ := ih h
      refine ⟨fun name pattern hget => hkeep name pattern ?_,
        List.forall_mem_cons.2 ⟨hkeep _ _ ?_, hrest⟩⟩
      · have hne : entry.name ≠ name := by
          rintro rfl
          cases (insert_eq_ok.1 hinsert).1.symm.trans hget
        rw [get?_of_insert hinsert, if_neg hne, hget]
      · rw [get?_of_insert hinsert, if_pos rfl]

end Resources

namespace Config

/-- What is demanded of a configuration, apart from the files around it. -/
structure Valid (config : Config) : Prop where
  origin : ∀ text, config.origin = some text → ∃ origin, Origin.parse text = .ok origin
  names : ∀ entry ∈ config.resources, ValidName entry.name
  patterns : ∀ entry ∈ config.resources, Compiles entry.pattern
  nodup : (config.resources.map ResourceEntry.name).Nodup

/-- The resources of a configuration compile if its origin can be read, its patterns compile and
its names are distinct, and not otherwise. -/
lemma exists_compile {config : Config} : (∃ resources, config.compile = .ok resources) ↔
    (∀ text, config.origin = some text → ∃ origin, Origin.parse text = .ok origin) ∧
      (∀ entry ∈ config.resources, Compiles entry.pattern) ∧
      (config.resources.map ResourceEntry.name).Nodup := by
  have hnew (start : Resources) (hstart : ∀ name, start.get? name = none) :
      (∃ resources, insertAll start config.resources = .ok resources) ↔
        (∀ entry ∈ config.resources, Compiles entry.pattern) ∧
          (config.resources.map ResourceEntry.name).Nodup := by
    rw [Resources.exists_insertAll]
    exact and_iff_right fun entry _ => hstart entry.name
  unfold compile
  cases horigin : config.origin with
  | none => simpa [bind, Except.bind] using hnew .empty fun name => rfl
  | some text =>
    cases hparse : Origin.parse text with
    | error e => simp [hparse, Except.map, bind, Except.bind]
    | ok origin =>
      simpa [hparse, Except.map, bind, Except.bind] using hnew _ fun name => rfl

/-- The compiled resources have the patterns of all entries. -/
lemma get?_of_compile {config : Config} {resources : Resources}
    (h : config.compile = .ok resources) {entry : ResourceEntry}
    (hentry : entry ∈ config.resources) :
    resources.get? entry.name = some ⟨entry.name, entry.pattern⟩ := by
  unfold compile at h
  cases horigin : config.origin with
  | none =>
    simp only [horigin] at h
    exact (Resources.get?_of_insertAll h).2 entry hentry
  | some text =>
    cases hparse : Origin.parse text with
    | error e => simp [horigin, hparse, Except.map, bind, Except.bind] at h
    | ok origin =>
      simp only [horigin, hparse] at h
      exact (Resources.get?_of_insertAll h).2 entry hentry

/-- **The compiled resources build the URLs of the single patterns.** -/
theorem urlFor_compile {config : Config} {resources : Resources}
    (h : config.compile = .ok resources) {entry : ResourceEntry} (hentry : entry ∈ config.resources)
    (params : Json) (escape : Bool) :
    resources.urlFor entry.name params escape =
      ((CachedPattern.new entry.name entry.pattern).build params escape).1 := by
  rw [CachedPattern.build_new, Resources.urlFor, get?_of_compile h hentry]

end Config

/-! ## Rule tables -/

namespace Disk

/-- What a computation on a disk answers. -/
def answer {α : Type} (disk : Disk) (computation : StateM Disk α) : α := (computation disk).1

/-- A value that is returned is answered. -/
@[simp] lemma answer_pure {α : Type} (value : α) (disk : Disk) :
    disk.answer (pure value) = value := rfl

/-- What is answered after a computation that leaves the disk as it is. -/
lemma answer_bind {α β : Type} {first : StateM Disk α} (hfirst : Leaves first)
    (next : α → StateM Disk β) (disk : Disk) :
    disk.answer (first >>= next) = disk.answer (next (disk.answer first)) := by
  unfold answer
  rw [bind_apply, hfirst]

/-- A path leads to a directory that can be listed, or to something else that can be read. -/
def Readable (disk : Disk) (path : String) : Prop :=
  ∃ canonical, disk.answer (FileAccess.canonical path) = .ok canonical ∧
    ((disk.answer (FileAccess.inspect canonical) = .ok FileKind.directory ∧
        ∃ names, disk.answer (FileAccess.list canonical) = .ok names) ∨
      (disk.answer (FileAccess.inspect canonical) ≠ .ok FileKind.directory ∧
        ∃ contents, disk.answer (FileAccess.read canonical) = .ok contents))

/-- An answer is a success if there is a value. -/
lemma isOk_iff {ε α : Type} {result : Except ε α} :
    result.isOk = true ↔ ∃ value, result = .ok value := by
  cases result <;> simp [Except.isOk, Except.toBool]

/-- Whether a path leads to a directory. -/
lemma answer_isDirectory (disk : Disk) (path : String) :
    disk.answer (isDirectory path) = true ↔
      disk.answer (FileAccess.inspect path) = .ok FileKind.directory := by
  unfold isDirectory
  rw [answer_bind (leaves_inspect path)]
  rcases disk.answer (FileAccess.inspect path) with _ | _ | _ <;> simp

/-- Looking whether a path leads to a directory leaves the disk as it is. -/
lemma leaves_isDirectory (path : String) : Leaves (isDirectory path : StateM Disk Bool) := by
  refine .bind (leaves_inspect path) fun kind => ?_
  cases kind with
  | error e => exact leaves_pure _
  | ok kind => cases kind <;> exact leaves_pure _

/-- Whether a path can be listed or read. -/
lemma answer_isReadable (disk : Disk) (path : String) :
    disk.answer (isReadable path) = true ↔
      (disk.answer (FileAccess.inspect path) = .ok FileKind.directory ∧
        ∃ names, disk.answer (FileAccess.list path) = .ok names) ∨
      (disk.answer (FileAccess.inspect path) ≠ .ok FileKind.directory ∧
        ∃ contents, disk.answer (FileAccess.read path) = .ok contents) := by
  unfold isReadable
  rw [answer_bind (leaves_isDirectory path), ne_eq, ← answer_isDirectory, ← isOk_iff, ← isOk_iff]
  cases disk.answer (isDirectory path)
  · rw [if_neg Bool.false_ne_true, answer_bind (leaves_read path)]
    simp
  · rw [if_pos rfl, answer_bind (leaves_list path)]
    simp

/-- The path of a rule table passes the check if and only if it is readable. -/
lemma answer_checkTablePath (disk : Disk) (path : String) :
    (∃ canonical, disk.answer (checkTablePath path) = .ok canonical) ↔ disk.Readable path := by
  unfold checkTablePath Readable
  rw [answer_bind (leaves_canonical path)]
  cases hcanonical : disk.answer (FileAccess.canonical path) with
  | error e => simp
  | ok canonical =>
    simp only [answer_bind (ConfigFile.Change.leaves_isReadable canonical), Except.ok.injEq,
      exists_eq_left', ← answer_isReadable]
    cases disk.answer (isReadable canonical) <;> simp

/-- The paths of rule tables pass the check if and only if all of them are readable. -/
lemma answer_checkTablePaths (disk : Disk) (paths : List String) :
    disk.answer (checkTablePaths paths) = .ok () ↔ ∀ path ∈ paths, disk.Readable path := by
  induction paths with
  | nil => simp [checkTablePaths]
  | cons path rest ih =>
    rw [List.forall_mem_cons, ← ih, ← answer_checkTablePath, checkTablePaths,
      answer_bind (ConfigFile.Change.leaves_checkTablePath path)]
    cases disk.answer (checkTablePath path) <;> simp

end Disk

/-- Checking the paths of rule tables leaves the disk as it is. -/
lemma leaves_checkTablePaths (paths : List String) :
    Disk.Leaves (checkTablePaths paths : StateM Disk (Except SecurityFault Unit)) := by
  induction paths with
  | nil => exact Disk.leaves_pure _
  | cons path rest ih =>
    refine .bind (ConfigFile.Change.leaves_checkTablePath path) fun canonical => ?_
    cases canonical with
    | error e => exact Disk.leaves_pure _
    | ok canonical => exact ih

namespace Config

/-- The part of the check that looks at files: the rule tables are looked at, and then the resources
are compiled. -/
lemma answer_checkFiles (config : Config)
    {next : Except SecurityFault Unit → StateM Disk (Except ConfigError Unit)}
    (herror : ∀ fault, next (.error fault) = pure (.error (.security fault)))
    (hok : next (.ok ()) = pure ((config.compile.mapError .url).map fun _ => ())) (disk : Disk) :
    disk.answer (checkTablePaths config.tables >>= next) = .ok () ↔
      disk.answer (checkTablePaths config.tables) = .ok () ∧
        ∃ resources, config.compile = .ok resources := by
  rw [Disk.answer_bind (leaves_checkTablePaths config.tables)]
  cases disk.answer (checkTablePaths config.tables) with
  | error fault => simp [herror]
  | ok done => cases hcompile : config.compile <;> simp [hok, hcompile, Except.map, Except.mapError]

/-- What has to succeed in the check of a whole configuration. -/
lemma answer_check (config : Config) (disk : Disk) :
    disk.answer config.check = .ok () ↔
      (∀ text, config.origin = some text → checkOrigin text = .ok ()) ∧
      checkEntries config.resources = .ok () ∧
      disk.answer (checkTablePaths config.tables) = .ok () ∧
      ∃ resources, config.compile = .ok resources := by
  -- the files are looked at only if everything in front of them has passed
  unfold check
  cases config.origin with
  | none =>
    cases checkEntries config.resources with
    | error fault => simp [bind, Except.bind]
    | ok done =>
      refine (answer_checkFiles config (fun _ => rfl) rfl disk).trans ?_
      simp
  | some text =>
    simp only [Option.some.injEq, forall_eq']
    cases checkOrigin text with
    | error fault => simp [bind, Except.bind]
    | ok done =>
      cases checkEntries config.resources with
      | error fault => simp [bind, Except.bind]
      | ok done =>
        refine (answer_checkFiles config (fun _ => rfl) rfl disk).trans ?_
        simp

/-- **A whole configuration passes the check if and only if it is valid and its rule tables are
readable.**

**Proof sketch.** Origin, names, patterns and paths are checked one by one; that the names are
distinct is only found out by compiling the resources, which cannot fail for another reason by
then. -/
theorem check_eq_ok (config : Config) (disk : Disk) :
    disk.answer config.check = .ok () ↔
      config.Valid ∧ ∀ path ∈ config.tables, disk.Readable path := by
  simp only [answer_check, checkOrigin_eq_ok, checkEntries_eq_ok, Disk.answer_checkTablePaths,
    exists_compile]
  constructor
  · rintro ⟨horigin, hentries, htables, -, hpatterns, hnodup⟩
    exact ⟨⟨horigin, fun entry hentry => (hentries entry hentry).1, hpatterns, hnodup⟩, htables⟩
  · rintro ⟨hvalid, htables⟩
    exact ⟨hvalid.origin,
      fun entry hentry => ⟨hvalid.names entry hentry, hvalid.patterns entry hentry⟩,
      htables, hvalid.origin, hvalid.patterns, hvalid.nodup⟩

end Config

/-! ## Managed configurations -/

/-- Whether two paths are written alike does not depend on their order. -/
lemma Path.same_comm (first second : String) : same first second = same second first := by
  simp only [same, BEq.comm]

namespace ConfigFile

open Disk Change

/-- A file that has been created and has since then only been changed through its operations.  The
disk may be another one every time, and a change may have succeeded or failed. -/
inductive Managed : ConfigFile → Prop where
  | created {path : String} {file : ConfigFile} (disk : Disk)
      (h : disk.answer (create path) = .ok file) : Managed file
  | changed {file : ConfigFile} (hfile : Managed file) (change : Change) (disk : Disk) :
    Managed (disk.answer (change.run file)).1

/-- What holds of a managed configuration: it is valid, without an origin, and no rule table is
there twice. -/
structure Kept (config : Config) : Prop where
  valid : config.Valid
  origin_eq : config.origin = none
  tables : config.tables.Pairwise fun first second => Path.same first second = false

/-- A new file has the configuration of new files. -/
lemma config_of_create {path : String} {file : ConfigFile} {disk : Disk}
    (h : disk.answer (create path) = .ok file) : file.config = .byDefault := by
  rcases hcreate : (create path : StateM Disk (Except ConfigError ConfigFile)) disk with
    ⟨outcome, later⟩
  unfold answer at h
  rw [hcreate] at h
  obtain rfl : outcome = .ok file := h
  rw [(create_eq_ok.1 hcreate).2.1]

/-- The configuration of a new file is kept. -/
lemma kept_byDefault : Kept .byDefault :=
  ⟨⟨by rintro text ⟨⟩, List.forall_mem_nil _, List.forall_mem_nil _, List.nodup_nil⟩, rfl,
    List.Pairwise.nil⟩

/-- What a change makes of a configuration: nothing at all, or what it is there for. -/
inductive Outcome (config : Config) : Change → Config → Prop where
  | same (change : Change) : Outcome config change config
  | addResource {entry : ResourceEntry} (hname : ValidName entry.name)
      (hpattern : Compiles entry.pattern) (hnew : config.resource? entry.name = none) :
    Outcome config (.addResource entry)
      { config with resources := config.resources ++ [entry] }
  | removeResource (name : String) : Outcome config (.removeResource name)
      { config with resources := config.resources.eraseP fun entry => entry.name = name }
  | addTable (path : String) {canonical : String}
      (hnew : ∀ table ∈ config.tables, Path.same canonical table = false) :
    Outcome config (.addTable path) { config with tables := config.tables ++ [canonical] }

/-- A change makes nothing of a configuration, or what it is there for. -/
lemma outcome_run (file : ConfigFile) (change : Change) (disk : Disk) :
    Outcome file.config change (disk.answer (change.run file)).1.config := by
  cases change with
  | addResource entry =>
    change Outcome _ _ (disk.answer (file.addResource entry)).1.config
    unfold ConfigFile.addResource
    cases hcheck : checkEntry entry with
    | error fault => exact .same _
    | ok done =>
      obtain ⟨hname, hpattern⟩ := checkEntry_eq_ok.1 hcheck
      dsimp only
      split
      · exact .same _
      · next hnew => exact .addResource hname hpattern (Option.not_isSome_iff_eq_none.1 hnew)
  | removeResource name =>
    change Outcome _ _ (disk.answer (file.removeResource name)).1.config
    unfold ConfigFile.removeResource
    split
    · exact .removeResource name
    · exact .same _
  | addTable path =>
    change Outcome _ _ (disk.answer (file.addTable path)).1.config
    unfold ConfigFile.addTable
    rw [answer_bind (leaves_checkTablePath path)]
    cases disk.answer (checkTablePath path) with
    | error fault => exact .same _
    | ok canonical =>
      dsimp only
      split
      · exact .same _
      · next hnew =>
        refine .addTable path fun table htable => ?_
        rw [Bool.not_eq_true, List.any_eq_false] at hnew
        exact Bool.not_eq_true _ ▸ hnew table htable

/-- Every change keeps what holds of a managed configuration.

**Proof sketch.** A resource comes in under a name that is new, a rule table under a path that is
new, and what remains after a removal was there before. -/
lemma Kept.outcome {config later : Config} {change : Change} (h : Kept config)
    (houtcome : Outcome config change later) : Kept later := by
  cases houtcome with
  | same => exact h
  | @addResource entry hname hpattern hnew =>
    have hnames : ∀ other ∈ config.resources.map ResourceEntry.name, other ≠ entry.name := by
      intro other hother
      obtain ⟨found, hfound, rfl⟩ := List.mem_map.1 hother
      simpa using List.find?_eq_none.1 hnew found hfound
    refine ⟨⟨h.valid.origin, ?_, ?_, ?_⟩, h.origin_eq, h.tables⟩
    · exact List.forall_mem_append.2 ⟨h.valid.names, List.forall_mem_singleton.2 hname⟩
    · exact List.forall_mem_append.2 ⟨h.valid.patterns, List.forall_mem_singleton.2 hpattern⟩
    · rw [List.map_append, List.nodup_append]
      refine ⟨h.valid.nodup, List.pairwise_singleton _ _, fun other hother last hlast => ?_⟩
      obtain rfl := List.mem_singleton.1 hlast
      exact hnames other hother
  | removeResource name =>
    have hsublist : (config.resources.eraseP fun entry => entry.name = name).Sublist
        config.resources := List.eraseP_sublist
    exact ⟨⟨h.valid.origin, fun entry hentry => h.valid.names entry (hsublist.subset hentry),
      fun entry hentry => h.valid.patterns entry (hsublist.subset hentry),
      h.valid.nodup.sublist (hsublist.map _)⟩, h.origin_eq, h.tables⟩
  | @addTable path canonical hnew =>
    refine ⟨⟨h.valid.origin, h.valid.names, h.valid.patterns, h.valid.nodup⟩, h.origin_eq, ?_⟩
    refine List.pairwise_append.2
      ⟨h.tables, List.pairwise_singleton _ _, fun table htable last hlast => ?_⟩
    obtain rfl := List.mem_singleton.1 hlast
    rw [Path.same_comm]
    exact hnew table htable

/-- What holds of every managed configuration. -/
lemma Managed.kept {file : ConfigFile} (h : Managed file) : Kept file.config := by
  induction h with
  | created disk h => exact config_of_create h ▸ kept_byDefault
  | changed hfile change disk ih => exact ih.outcome (outcome_run _ change disk)

/-- **Managed configurations are always valid**, whatever has been changed and whatever has failed
on the way; so they pass the check as long as their rule tables are readable, and their resources
compile.  **Of any configuration whatsoever the check finds out whether it is valid**, and of one
that passes it the compiled resources build the same URLs as the single patterns.

**Proof sketch.** A new configuration is valid, and each change keeps it so.  The check looks at the
same things as the changes do, apart from repeated names, which are left to the compilation. -/
theorem Managed.valid_and_check_iff :
    (∀ file, Managed file →
      file.config.Valid ∧
      (file.config.tables.Pairwise fun first second => Path.same first second = false) ∧
      (∃ resources, file.config.compile = .ok resources) ∧
      ∀ disk : Disk, (∀ path ∈ file.config.tables, disk.Readable path) →
        disk.answer file.config.check = .ok ()) ∧
    ∀ (config : Config) (disk : Disk),
      (disk.answer config.check = .ok () ↔
        config.Valid ∧ ∀ path ∈ config.tables, disk.Readable path) ∧
      (disk.answer config.check = .ok () →
        ∃ resources, config.compile = .ok resources ∧
          ∀ entry ∈ config.resources, ∀ (params : Json) (escape : Bool),
            resources.urlFor entry.name params escape =
              ((CachedPattern.new entry.name entry.pattern).build params escape).1) := by
  have hcompile {config : Config} (hvalid : config.Valid) :
      ∃ resources, config.compile = .ok resources :=
    Config.exists_compile.2 ⟨hvalid.origin, hvalid.patterns, hvalid.nodup⟩
  refine ⟨fun file hfile => ?_, fun config disk => ⟨config.check_eq_ok disk, fun hcheck => ?_⟩⟩
  · have hkept := hfile.kept
    exact ⟨hkept.valid, hkept.tables, hcompile hkept.valid,
      fun disk htables => (file.config.check_eq_ok disk).2 ⟨hkept.valid, htables⟩⟩
  · obtain ⟨resources, hresources⟩ := hcompile ((config.check_eq_ok disk).1 hcheck).1
    exact ⟨resources, hresources,
      fun entry hentry params escape => Config.urlFor_compile hresources hentry params escape⟩

/-- The path of the directory on `blockedDisk`. -/
def directoryPath : String := "/config.toml.tmp"

/-- The directory on `blockedDisk` is where its path says. -/
lemma locate_blockedDisk :
    blockedDisk.tree.locate directoryPath = .ok (["config.toml.tmp"], .directory) :=
  FileTree.locate_eq_ok.2 ⟨FileTree.follow_name (.inr (by decide)) rfl (by decide) (by decide)
    (by decide) (by decide) (by rintro target ⟨⟩), rfl⟩

/-- The path of the directory is canonical. -/
lemma canonical_blockedDisk : blockedDisk.tree.canonical directoryPath = .ok directoryPath := by
  unfold FileTree.canonical
  rw [locate_blockedDisk]
  decide

/-- The directory on `blockedDisk` can be listed. -/
lemma readable_blockedDisk : blockedDisk.Readable directoryPath := by
  have hinspect : blockedDisk.tree.inspect directoryPath = .ok .directory := by
    unfold FileTree.inspect
    rw [locate_blockedDisk]
    rfl
  have hlist : ∃ names, blockedDisk.tree.list directoryPath = .ok names := by
    unfold FileTree.list
    rw [locate_blockedDisk]
    exact ⟨_, rfl⟩
  exact ⟨directoryPath, canonical_blockedDisk, .inl ⟨hinspect, hlist⟩⟩

/-- The file with the resource that is not saved, and with the directory as a rule table. -/
def tableFile : ConfigFile :=
  { unsavedFile with config := { unsavedFile.config with tables := [directoryPath] } }

/-- That file is managed: it has been created on an empty disk, and the resource and the rule table
have been added on another one, where neither could be saved. -/
lemma managed_tableFile : Managed tableFile := by
  obtain ⟨later, hcreate, -⟩ := exists_create_emptyDisk
  have hnew : Managed newFile := .created emptyDisk (congrArg Prod.fst hcreate)
  have hunsaved : Managed unsavedFile := by
    have hrun := hnew.changed (.addResource userEntry) blockedDisk
    unfold answer at hrun
    rwa [run_blockedDisk] at hrun
  have htable := hunsaved.changed (.addTable directoryPath) blockedDisk
  obtain ⟨canonical, hcheck⟩ :=
    (answer_checkTablePath blockedDisk directoryPath).2 readable_blockedDisk
  obtain rfl : directoryPath = canonical :=
    Except.ok.inj (canonical_blockedDisk.symm.trans (canonical_of_checkTablePath hcheck))
  change Managed (blockedDisk.answer (unsavedFile.addTable directoryPath)).1 at htable
  unfold ConfigFile.addTable at htable
  rw [answer_bind (leaves_checkTablePath directoryPath), hcheck] at htable
  exact htable

/-- The check of the configuration of `tableFile` passes on `blockedDisk`, and its resource builds
the URL of its pattern. -/
theorem Managed.check_tableFile :
    blockedDisk.answer tableFile.config.check = .ok () ∧
      ∃ resources, tableFile.config.compile = .ok resources ∧
        resources.urlFor "user" (.object [("id", .string "7")]) true = .ok "/users/7" := by
  obtain ⟨hmanaged, hany⟩ := Managed.valid_and_check_iff
  have hcheck := (hmanaged tableFile managed_tableFile).2.2.2 blockedDisk
    (List.forall_mem_singleton.2 readable_blockedDisk)
  obtain ⟨resources, hcompile, hurl⟩ := (hany tableFile.config blockedDisk).2 hcheck
  refine ⟨hcheck, resources, hcompile, ?_⟩
  exact (hurl userEntry (List.mem_singleton_self _) _ _).trans (by decide)

end ConfigFile

end RequestRouting
