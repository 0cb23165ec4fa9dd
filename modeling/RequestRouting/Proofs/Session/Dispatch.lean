import RequestRouting.Proofs.Condition.Soundness
import RequestRouting.Proofs.Config.Saving
import RequestRouting.Proofs.Session.Setup
import RequestRouting.Session.Check

/-!
# Errors are found early

What is wrong with a configuration is found when it is checked.  Conditions that have been built
fail only over the facts of a request, and of these the command line leaves out one at most: the
extra path.  So once the tables have been accepted, the extra path is the only thing over which the
dispatch of a well described request can fail.

## Main definitions

* `RequestSpec.Admits` — what a dispatch over checked tables may come to.

## Main results

* `dispatchOver_of_checkOver` — a dispatch over checked tables comes to nothing else.
* `Session.errors_are_early` — neither does the dispatch of a session, and neither conditions nor
  their patterns fail over anything but facts.
-/

set_option autoImplicit false

namespace RequestRouting

/-- What a dispatch may come to: it succeeds, or a condition needs the extra path, which is not
given. -/
inductive RequestSpec.Admits (spec : RequestSpec) : Except SessionError DispatchResult → Prop where
  | result (result : DispatchResult) : Admits spec (.ok result)
  | noExtraPath (h : ¬ spec.GivesExtraPath) :
    Admits spec (.error (.dispatch spec.method spec.path (.missingFact Knowledge.extraPathFact)))

/-- **A dispatch over checked tables fails only for want of the extra path.**

**Proof sketch.** The rules that have been compiled are harmless, so a run over them fails only over
a fact that conditions need and that is lacking; and of those only the extra path can be lacking. -/
theorem dispatchOver_of_checkOver {settings : Settings} {tables : List LoadedTable}
    {report : CheckReport} (hcheck : checkOver settings tables = .ok report) {spec : RequestSpec}
    (hspec : spec.Acceptable) (mode : DispatchMode) :
    spec.Admits (dispatchOver { settings with mode := mode } tables spec) := by
  obtain ⟨dispatcher, hdispatcher, -⟩ := bind_eq_ok.1 hcheck
  obtain ⟨knowledge, hknowledge, hsettled, hlacks⟩ := hspec.exists_knowledge
  have hrun : ((dispatcher.withMode mode).run knowledge).Expected knowledge.evidence :=
    Engine.attemptAll_expected (harmless_of_buildDispatcher hdispatcher) _ hsettled _
  unfold dispatchOver
  simp only [buildDispatcher_withMode hdispatcher mode, hknowledge, bind, Except.bind]
  cases hresult : ((dispatcher.withMode mode).run knowledge).result with
  | ok report => exact .result _
  | error e =>
    obtain ⟨name, needed, hlack⟩ := hrun.error e hresult
    obtain ⟨rfl, hnone⟩ := hlacks name needed e hlack
    exact .noExtraPath hnone

namespace Session

/-- A session checks the tables that it has loaded. -/
lemma check_apply (session : Session) (disk : Disk) (tables : List String) :
    ((session.check tables : StateM Disk (Except SessionError CheckReport)) disk).1 =
      ((session.tables tables : StateM Disk (Except SessionError (List LoadedTable))) disk).1 >>=
        fun loaded => checkOver (dispatchSettings session.settings loaded false) loaded := by
  unfold check
  rw [Disk.bind_apply]
  generalize (session.tables tables : StateM Disk (Except SessionError _)) disk = loaded
  obtain ⟨_ | _, _⟩ := loaded <;> rfl

/-- A session dispatches a request over the tables that it has loaded. -/
lemma dispatch_apply (session : Session) (disk : Disk) (request : DispatchRequest) :
    ((session.dispatch request : StateM Disk (Except SessionError DispatchResult)) disk).1 =
      ((session.tables request.tables :
        StateM Disk (Except SessionError (List LoadedTable))) disk).1 >>=
        fun loaded => dispatchOver (dispatchSettings session.settings loaded request.all) loaded
          request.request := by
  unfold dispatch
  rw [Disk.bind_apply]
  generalize (session.tables request.tables : StateM Disk (Except SessionError _)) disk = loaded
  obtain ⟨_ | _, _⟩ := loaded <;> rfl

/-- **Errors of a configuration are found before anything is evaluated.**  Nothing is wrong with a
condition that the registry has built; evaluation on any knowledge, inside of a transaction or
outside, answers a verdict, or fails over the method, the path or the extra path, which is absent,
null, an array or an object.  That the pattern of a path may be compiled only then makes no
difference.  If a session accepts rule tables, then the dispatch of an acceptable request over them
succeeds, or it fails for want of the extra path, which is given neither as such nor as a fact.

**Proof sketch.** Whatever a condition is made of has been compiled and checked by the constructors;
its evaluation answers what its reading says, which fails only over facts.  A dispatch is a run over
rules of such conditions, whose actions cannot fail. -/
theorem errors_are_early :
    (∀ condition : Condition, condition.Registered →
      condition.Sound ∧
        ∀ knowledge : Knowledge, knowledge.Permits (condition.evaluate knowledge).1) ∧
    (∀ (condition : RequestCondition) (path : PathTemplate) (cached : CachedPattern),
      condition.Sound → condition.path = some path →
      cached.Faithful → cached.pattern.text = path.text →
      ∀ knowledge,
        RequestCondition.evaluatePathWith cached knowledge = condition.evaluatePath knowledge) ∧
    ∀ (session : Session) (disk : Disk) (tables : List String) (report : CheckReport),
      ((session.check tables : StateM Disk (Except SessionError CheckReport)) disk).1 =
        .ok report →
      ∀ (spec : RequestSpec) (all : Bool), spec.Acceptable →
        spec.Admits ((session.dispatch ⟨spec, tables, all⟩ :
          StateM Disk (Except SessionError DispatchResult)) disk).1 := by
  refine ⟨fun condition h => ⟨h.sound, h.native.permits⟩,
    fun condition path cached h hpath hcached htext => h.evaluatePathWith_eq hpath hcached htext,
    ?_⟩
  intro session disk tables report hcheck spec all hspec
  rw [check_apply] at hcheck
  rw [dispatch_apply]
  obtain ⟨loaded, hloaded, hcheck⟩ := bind_eq_ok.1 hcheck
  rw [hloaded]
  exact dispatchOver_of_checkOver hcheck hspec _

end Session

/-! ## A session with one table -/

section Loading

variable {disk : Disk} {path text : String} {place : Location} {mode : Nat}

/-- A file that is not too large holds the rule table that its text holds. -/
lemma readTable_file (hlocate : disk.tree.locate path = .ok (place, .file text.toUTF8 mode))
    (hfree : ∀ operation, disk.refusal operation path = none)
    (hsize : text.toUTF8.size ≤ maxTableSize) :
    (readTable path : StateM Disk (Except LoadFault RuleTable)) disk =
      (RuleTable.ofText text, disk) := by
  unfold readTable readText
  have hlarge : ¬ maxTableSize < (FileKind.file text.toUTF8.size).size := Nat.not_lt.2 hsize
  simp only [Disk.bind_apply, Disk.inspect_file hlocate (hfree _)]
  rw [if_neg hlarge]
  simp only [Disk.bind_apply, Disk.read_file hlocate (hfree _)]
  have htext : (pure ((Except.ok text.toUTF8).bind textOf) : StateM Disk (Except FileError String))
      disk = (.ok text, disk) := congrArg (·, disk) (textOf_toUTF8 text)
  simp only [htext]
  rfl

/-- A session without a configuration loads the rule table of a file. -/
lemma Session.tables_file {table : RuleTable}
    (hlocate : disk.tree.locate path = .ok (place, .file text.toUTF8 mode))
    (hfree : ∀ operation, disk.refusal operation path = none)
    (hsize : text.toUTF8.size ≤ maxTableSize) (h : RuleTable.ofText text = .ok table) :
    ((Session.tables ⟨none, ⟨none, none, none⟩⟩ [path] :
      StateM Disk (Except SessionError (List LoadedTable))) disk).1 = .ok [⟨path, table⟩] := by
  have hdirectory : (isDirectory path : StateM Disk Bool) disk = (false, disk) := by
    unfold isDirectory
    simp only [Disk.bind_apply, Disk.inspect_file hlocate (hfree _)]
    rfl
  have hload : (loadTable path : StateM Disk (Except RuleError LoadedTable)) disk =
      (.ok ⟨path, table⟩, disk) := by
    unfold loadTable
    simp only [Disk.bind_apply, readTable_file hlocate hfree hsize, h]
    rfl
  have hsource : (loadSource path : StateM Disk (Except RuleError (List LoadedTable))) disk =
      (.ok [⟨path, table⟩], disk) := by
    unfold loadSource
    simp only [Disk.bind_apply, hdirectory]
    rw [if_neg Bool.false_ne_true, Disk.bind_apply, hload]
    rfl
  have htables : (loadTables [path] : StateM Disk (Except RuleError (List LoadedTable))) disk =
      (.ok [⟨path, table⟩], disk) := by
    unfold loadTables collect
    simp only [Disk.bind_apply, hsource]
    rfl
  change (((loadTables [path] : StateM Disk (Except RuleError (List LoadedTable))) disk).1.mapError
    SessionError.tables) = _
  rw [htables]
  rfl
end Loading

/-- A table with a rule for an extra path, which calls a handler. -/
def doorText : String :=
  "[[rules]]\nname='door'\n[[rules.conditions]]\ntype='url_path'\nsource='extra'\n" ++
    "pattern='^open$'\n[[rules.actions]]\nhandler='enter'\n"

/-- A disk with this table. -/
def doorDisk : Disk := .plain ⟨[(["door.toml"], .file doorText.toUTF8 FileTree.newMode)], []⟩

/-- A session without a configuration. -/
def doorSession : Session := ⟨none, ⟨none, none, none⟩⟩

/-- A request with or without an extra path. -/
def knock (extra : Option String) : RequestSpec :=
  ⟨"GET", "/", extra, ["polite=1"], [], ["hour=noon"], some "ada", ["guests"]⟩

/-- The condition of the rule, as a table. -/
def doorTable : Table :=
  [("pattern", .string "^open$"), ("source", .string "extra"), ("type", .string "url_path")]

/-- A condition on the path of a request. -/
def pageCondition : RequestCondition :=
  ⟨[], some ⟨"/{page}", ⟨[⟨1, ⟨["page"]⟩⟩], [.literal "/", .slot 0], "/%1$s"⟩⟩⟩

/-- Nothing is wrong with the condition. -/
lemma sound_pageCondition : pageCondition.Sound := by
  refine ⟨fun path hpath => ?_, .inr (by simp [pageCondition])⟩
  cases hpath
  rfl

/-- The request is well described. -/
lemma acceptable_knock (extra : Option String) : (knock extra).Acceptable :=
  ⟨List.forall_mem_singleton.2 ⟨_, rfl⟩, List.forall_mem_nil _,
    List.forall_mem_singleton.2 ⟨_, rfl⟩, fun h => by cases h⟩

/-- The path of the table leads to it. -/
lemma locate_doorDisk : doorDisk.tree.locate "door.toml" =
    .ok (["door.toml"], .file doorText.toUTF8 FileTree.newMode) := by
  have hparts : Path.parts "door.toml" = ["door.toml"] := by decide
  have hstart : FileTree.start "door.toml" doorDisk.tree.workingDirectory = [] := rfl
  have hroot : doorDisk.tree.entry? [] = some .directory := rfl
  have hentry : doorDisk.tree.entry? ["door.toml"] =
      some (.file doorText.toUTF8 FileTree.newMode) := rfl
  have hlong : ¬ FileTree.maxNameSize < "door.toml".utf8ByteSize := by decide
  have hfollow : doorDisk.tree.follow true "door.toml" = .ok ["door.toml"] := by
    unfold FileTree.follow
    rw [if_neg (by decide), if_neg (by decide), hparts, hstart]
    simp [FileTree.walk, hroot, hentry, hlong]
  unfold FileTree.locate
  rw [hfollow]
  rfl

/-- The session accepts the table.  Without an extra path its rule cannot be tried, and with the
right one it matches. -/
lemma runs_doorText : (RuleTable.ofText doorText).toOption.any fun table =>
    let settings := dispatchSettings doorSession.settings [⟨"door.toml", table⟩] false
    (checkOver settings [⟨"door.toml", table⟩]).toOption.any (fun _ => true) &&
      (dispatchOver settings [⟨"door.toml", table⟩] (knock none)).toOption.isNone &&
      (dispatchOver settings [⟨"door.toml", table⟩] (knock (some "/open"))).toOption.any
        fun result => result.matched = ["door"] := by
  decide +kernel

/-- The registry builds a condition of `doorTable`, which fails where nothing is known. -/
lemma fails_doorTable : (ConditionRegistry.builtins.constructTable doorTable).toOption.any
    fun condition => (condition.evaluate .empty).1.toOption.isNone := by
  decide +kernel

/-- The condition of the table fails as it may where nothing is known; the pattern of
`pageCondition` may be compiled late; and the session accepts the table, over which the request is
dispatched if it has an extra path. -/
theorem Session.errors_are_early_door :
    (∃ condition, ConditionRegistry.builtins.constructTable doorTable = .ok condition ∧
      condition.Sound ∧ (condition.evaluate .empty).1.toOption.isNone ∧
      Knowledge.empty.Permits (condition.evaluate .empty).1) ∧
    (RequestCondition.evaluatePathWith (.new "page" "/{page}") (.forRequest "GET" "/home")).1 =
      .ok true ∧
    (∃ report, ((doorSession.check ["door.toml"] :
      StateM Disk (Except SessionError CheckReport)) doorDisk).1 = .ok report) ∧
    ((doorSession.dispatch ⟨knock none, ["door.toml"], false⟩ :
      StateM Disk (Except SessionError DispatchResult)) doorDisk).1 =
      .error (.dispatch "GET" "/" (.missingFact Knowledge.extraPathFact)) ∧
    ∃ result, ((doorSession.dispatch ⟨knock (some "/open"), ["door.toml"], false⟩ :
      StateM Disk (Except SessionError DispatchResult)) doorDisk).1 = .ok result ∧
      result.matched = ["door"] := by
  obtain ⟨condition, hcondition, hfails⟩ := exists_of_any fails_doorTable
  obtain ⟨table, htable, hruns⟩ := exists_of_any runs_doorText
  simp only [Bool.and_eq_true] at hruns
  obtain ⟨⟨hcheck, hnone⟩, hsome⟩ := hruns
  obtain ⟨report, hreport, -⟩ := exists_of_any hcheck
  obtain ⟨result, hresult, hmatched⟩ := exists_of_any hsome
  obtain ⟨hsound, hpermits⟩ := errors_are_early.1 condition (.ofTable doorTable hcondition)
  have hpage := errors_are_early.2.1 pageCondition _ (.new "page" "/{page}") sound_pageCondition rfl
    (CachedPattern.faithful_new _ _) rfl (.forRequest "GET" "/home")
  have hloaded : ((doorSession.tables ["door.toml"] : StateM Disk (Except SessionError _))
      doorDisk).1 = .ok [⟨"door.toml", table⟩] :=
    Session.tables_file locate_doorDisk (fun _ => rfl) (by decide +kernel) htable
  have hchecked : ((doorSession.check ["door.toml"] :
      StateM Disk (Except SessionError CheckReport)) doorDisk).1 = .ok report := by
    rw [check_apply, hloaded]
    exact hreport
  have hdispatched (extra : Option String) : ((doorSession.dispatch
      ⟨knock extra, ["door.toml"], false⟩ : StateM Disk (Except SessionError _)) doorDisk).1 =
      dispatchOver (dispatchSettings doorSession.settings [⟨"door.toml", table⟩] false)
        [⟨"door.toml", table⟩] (knock extra) := by
    rw [dispatch_apply, hloaded]
    rfl
  have hadmits := errors_are_early.2.2 doorSession doorDisk _ report hchecked (knock none) false
    (acceptable_knock none)
  refine ⟨⟨condition, hcondition, hsound, hfails, hpermits .empty⟩, ?_, ⟨report, hchecked⟩, ?_,
    ⟨result, ?_, by simpa using hmatched⟩⟩
  · rw [hpage]
    rfl
  · rw [hdispatched] at hadmits ⊢
    generalize dispatchOver _ _ (knock none) = outcome at hadmits hnone ⊢
    cases hadmits with
    | result => cases hnone
    | noExtraPath => rfl
  · rw [hdispatched]
    exact hresult

end RequestRouting
