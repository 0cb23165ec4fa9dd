import RequestRouting.Proofs.Rule.Reading
import RequestRouting.Proofs.Session.Dispatch

/-!
# Every matched rule hands over its own captures

The values that the conditions of a rule capture pass through many hands: they are staged, rolled
back in part, committed, given to the actions of the rule, and appended to those of other rules.  In
the result of a dispatch each matched rule is there with exactly what it has captured, and in the
calls of its handlers too.

## Main definitions

* `RuleSpec.reading` — what a rule comes to on some evidence, read off as it is written.
* `DispatchResult.HandsOver` — a result consists of the attempts that some readings describe.
* `DispatchResult.HandedOver` — the readings are those of the rules of tables.

## Main results

* `RuleSpec.reading_eq_of_compile` — a rule comes to the same as it is written and compiled.
* `handedOver_of_dispatchOver` — a dispatch that succeeds hands over what the readings of its rules
  have.
* `Session.dispatch_handedOver` — so does the dispatch of a session.
-/

set_option autoImplicit false

namespace RequestRouting

/-! ## Readings of rules as they are written -/

/-- What a rule comes to on some evidence, with the conditions of the library. -/
def RuleSpec.reading (spec : RuleSpec) (evidence : Evidence) : Reading where
  name := spec.name
  output :=
    match buildConditions .builtins spec.conditions with
    | .ok conditions => Condition.outputOf? conditions evidence
    | .error _ => none
  handlers := spec.actions.filterMap ActionSpec.handler

/-- An action calls the handler that it names. -/
lemma ActionSpec.called?_of_toAction {spec : ActionSpec} {rule : String} {handlers : List String}
    {action : RuleAction} (h : spec.toAction rule handlers = .ok action) :
    spec.handler = action.called? := by
  unfold toAction at h
  split at h
  · cases h
  cases hhandler : spec.handler with
  | some name =>
    simp only [hhandler, resolveHandler] at h
    split at h
    · cases h
      rfl
    · cases h
  | none =>
    cases hbind : spec.bind with
    | some names =>
      simp only [hhandler, hbind] at h
      cases h
      rfl
    | none => cases hset : spec.set <;> simp only [hhandler, hbind, hset] at h <;> cases h <;> rfl

namespace RuleSpec

/-- **A rule comes to the same as it is written and as it is compiled.** -/
theorem reading_eq_of_compile {spec : RuleSpec} {handlers : List String} {rule : Rule}
    (h : spec.compile .builtins handlers = .ok rule) (evidence : Evidence) :
    spec.reading evidence = rule.reading evidence := by
  obtain ⟨conditions, hconditions, actions, hactions, rfl⟩ := compile_eq_ok.1 h
  rw [mapM_eq_ok] at hactions
  rw [← buildConditions_eq_mapM] at hconditions
  have hcalled : spec.actions.map ActionSpec.handler = actions.map RuleAction.called? :=
    map_eq_of_forall₂ hactions fun _ _ => ActionSpec.called?_of_toAction
  have hhandlers : spec.actions.filterMap ActionSpec.handler =
      actions.filterMap RuleAction.called? := by
    simpa [List.filterMap_map] using congrArg (List.filterMap id) hcalled
  simp only [reading, Rule.reading, hconditions, hhandlers]

end RuleSpec

/-! ## What is known of a request -/

/-- What is known of a request before any rule is attempted: nothing is captured yet. -/
lemma RequestSpec.settled_of_knowledge {spec : RequestSpec} {knowledge : Knowledge}
    (h : spec.knowledge = .ok knowledge) :
    knowledge.Settled knowledge.evidence ∧ knowledge.committed.backreferences = [] := by
  unfold RequestSpec.knowledge at h
  simp only [bind_eq_ok] at h
  obtain ⟨parameters, -, base, hbase, identity, -, hknowledge⟩ := h
  cases hknowledge
  cases hassignments : readAssignments spec.facts with
  | error e => simp [requestFacts, hassignments, bind, Except.bind] at hbase
  | ok assignments =>
    rw [requestFacts_eq hassignments] at hbase
    cases hbase
    exact ⟨⟨rfl, rfl, rfl⟩, rfl⟩

/-! ## Results -/

/-- A result of a dispatch consists of attempts that some readings describe, one by one. -/
structure DispatchResult.HandsOver (result : DispatchResult) (readings : List Reading)
    (attempts : List Attempt) : Prop where
  /-- Each attempt goes as its reading says. -/
  describes : List.Forall₂ Reading.Describes readings attempts
  attempts : result.attempts = readings.map Reading.record
  /-- The matches are the rules whose attempts are on record as such. -/
  matched : result.matched = (result.attempts.filter AttemptRecord.matched).map AttemptRecord.rule
  found : result.found = true ↔ result.matched ≠ []
  /-- What the matched rules have captured, in their order. -/
  backreferences : result.backreferences =
    (readings.filter Reading.isMatch).flatMap Reading.captured
  /-- The calls of the matched rules, in their order. -/
  handlers : result.handlers = (readings.filter Reading.isMatch).flatMap Reading.calls

/-- A result is what a dispatch of a request over tables hands over: it is described by the readings
of those rules of the tables, in their order, that the dispatch attempts. -/
def DispatchResult.HandedOver (result : DispatchResult) (settings : Settings)
    (tables : List LoadedTable) (request : RequestSpec) : Prop :=
  ∃ dispatcher knowledge,
    buildDispatcher (orderedRules tables) settings = .ok dispatcher ∧
    request.knowledge = .ok knowledge ∧
    let cut : Bool := settings.mode = .first
    let readings := (orderedRules tables).map fun spec => spec.reading knowledge.evidence
    result.HandsOver (Reading.attempted cut readings)
      (dispatcher.engine.attempts cut dispatcher.book.rules knowledge dispatcher.book)

/-- What is picked out of the traces of attempts is that of their readings, in their order. -/
lemma Reading.filterMap_notices {α : Type} {pick : Notice → Option α} {part : Reading → List α}
    (hpick : ∀ (reading : Reading) (attempt : Attempt), reading.Describes attempt →
      attempt.outcome.notices.filterMap pick = part reading)
    {readings : List Reading} {attempts : List Attempt}
    (h : List.Forall₂ Describes readings attempts) :
    (attempts.flatMap fun attempt => attempt.outcome.notices).filterMap pick =
      readings.flatMap part := by
  induction h with
  | nil => rfl
  | cons hfirst _ ih =>
    rw [List.flatMap_cons, List.flatMap_cons, List.filterMap_append, hpick _ _ hfirst, ih]

/-- Where rules that do not match have nothing, they can be left out. -/
lemma Reading.flatMap_filter_isMatch {α : Type} {f : Reading → List α}
    (hf : ∀ reading : Reading, reading.output = none → f reading = []) (readings : List Reading) :
    (readings.filter isMatch).flatMap f = readings.flatMap f := by
  induction readings with
  | nil => rfl
  | cons reading rest ih =>
    cases hoff : reading.output with
    | none =>
      rw [List.filter_cons_of_neg (by simp [isMatch, hoff]), List.flatMap_cons, hf reading hoff, ih,
        List.nil_append]
    | some output =>
      rw [List.filter_cons_of_pos (by simp [isMatch, hoff]), List.flatMap_cons, List.flatMap_cons,
        ih]

/-- Rules that do not match capture nothing. -/
lemma Reading.flatMap_captured (readings : List Reading) :
    (readings.filter isMatch).flatMap captured = readings.flatMap captured :=
  flatMap_filter_isMatch (fun reading hoff => by simp [captured, hoff]) readings

/-- Nor do they make calls. -/
lemma Reading.flatMap_calls (readings : List Reading) :
    (readings.filter isMatch).flatMap calls = readings.flatMap calls :=
  flatMap_filter_isMatch (fun reading hoff => by simp [calls, hoff]) readings

/-- **A dispatch that succeeds hands over what the readings of its rules have.**

**Proof sketch.** The rules that have been compiled are harmless, so their attempts go as their
readings say, and these are the readings of the rules as they are written.  The trace and the
captured values of the run are those of its attempts, one after another. -/
theorem handedOver_of_dispatchOver {settings : Settings} {tables : List LoadedTable}
    {request : RequestSpec} {result : DispatchResult}
    (h : dispatchOver settings tables request = .ok result) :
    result.HandedOver settings tables request := by
  unfold dispatchOver at h
  simp only [bind_eq_ok, mapError_eq_ok] at h
  obtain ⟨dispatcher, hdispatcher, knowledge, hknowledge, report, hreport, hresult⟩ := h
  refine ⟨dispatcher, knowledge, hdispatcher, hknowledge, ?_⟩
  obtain ⟨hsettled, hfresh⟩ := RequestSpec.settled_of_knowledge hknowledge
  have hrules := harmless_of_buildDispatcher hdispatcher
  obtain ⟨compiled, book, hcompiled, hbook, rfl⟩ := buildDispatcher_eq_ok.1 hdispatcher
  have hreadings : book.rules.map (fun rule => rule.reading knowledge.evidence) =
      (orderedRules tables).map fun spec => spec.reading knowledge.evidence := by
    rw [RuleSpec.compileAll_eq_mapM, mapM_eq_ok] at hcompiled
    rw [RuleBook.ofRules_eq_ok.1 hbook]
    exact (map_eq_of_forall₂ hcompiled fun spec rule hrule =>
      spec.reading_eq_of_compile hrule knowledge.evidence).symm
  have hdescribes := Engine.describes_attempts rfl hrules hsettled hreport
  have hcaptured := Engine.backreferences_attemptAll rfl hrules hsettled hreport
  rw [hreadings, hfresh, List.nil_append] at hcaptured
  rw [hreadings] at hdescribes
  cases hresult
  have hrecord (reading : Reading) (attempt : Attempt) (hdescribes : reading.Describes attempt) :
      reading.record = ⟨attempt.rule.name, attempt.isMatch⟩ := by
    simp [Reading.record, hdescribes.name, Attempt.isMatch, hdescribes.verdict, Engine.isMatch]
  have hrecords := map_eq_of_forall₂ hdescribes hrecord
  have hattempts := Reading.filterMap_notices (fun _ _ hdescribes => hdescribes.records) hdescribes
  have hcalls := Reading.filterMap_notices (fun _ _ hdescribes => hdescribes.calls) hdescribes
  rw [← Engine.notices_attemptAll] at hattempts hcalls
  rw [← List.map_eq_flatMap] at hattempts
  refine ⟨hdescribes, hattempts, ?_, ?_, ?_, ?_⟩
  · refine Eq.trans ?_ (congrArg (fun records => (records.filter AttemptRecord.matched).map
      AttemptRecord.rule) (hattempts.trans hrecords)).symm
    change report.matchedRules.map Rule.name = _
    rw [Engine.matchedRules_attemptAll hreport, List.filter_map, List.map_map, List.map_map]
    rfl
  · change report.found = true ↔ report.names ≠ []
    simp [Report.found, Report.names]
  · exact hcaptured.trans (Reading.flatMap_captured _).symm
  · exact hcalls.trans (Reading.flatMap_calls _).symm

/-- **Every matched rule hands over exactly its own captures.**  If a dispatch over rule tables
succeeds, then its attempts are those at the rules of the tables in their order, all of them or up
to the first match.  Each goes as the reading of its rule says: a matched rule stages what its
conditions capture, and nothing else.  The captured values of the result are those of the matched
rules, in their order, and the calls are those of their handlers, in their order, each with the
values of its own rule.  So it is for the dispatch of a session, over the tables that it loads. -/
theorem Session.dispatch_handedOver :
    (∀ settings tables request result, dispatchOver settings tables request = .ok result →
      result.HandedOver settings tables request) ∧
    ∀ (session : Session) (disk : Disk) (request : DispatchRequest) (result : DispatchResult),
      ((session.dispatch request : StateM Disk (Except SessionError DispatchResult)) disk).1 =
        .ok result →
      ∃ loaded,
        ((session.tables request.tables :
          StateM Disk (Except SessionError (List LoadedTable))) disk).1 = .ok loaded ∧
        result.HandedOver (dispatchSettings session.settings loaded request.all) loaded
          request.request := by
  refine ⟨fun settings tables request result => handedOver_of_dispatchOver, ?_⟩
  intro session disk request result h
  rw [dispatch_apply] at h
  obtain ⟨loaded, hloaded, hresult⟩ := bind_eq_ok.1 h
  exact ⟨loaded, hloaded, handedOver_of_dispatchOver hresult⟩

/-! ## Two matches and a miss -/

/-- A condition on the path of a request, as a table. -/
def pathTable (pattern : String) : Json :=
  Json.ofFields [("type", .string "url_path"), ("pattern", .string pattern)]

/-- A condition on the path of a request, as it is written. -/
def pathSpec (pattern : String) : ConditionSpec :=
  ⟨"url_path", Dict.ofList [("pattern", .string pattern)]⟩

/-- A condition of two branches, the first of which captures a value before it fails. -/
def branchSpec : ConditionSpec where
  kind := "bool"
  options := Dict.ofList [("operator", .string "or"), ("conditions", .array [
    Json.ofFields [("type", .string "bool"), ("operator", .string "and"),
      ("conditions", .array [pathTable "^/(albums)/", pathTable "^/none"])],
    pathTable "^/albums/([0-9]+)/([a-z]+)$"])]

/-- An action that calls a handler. -/
def callSpec (name : String) : ActionSpec := ⟨some name, none, none, none⟩

/-- A rule with the condition of two branches, one that fails after it has captured a value, and one
for the page. -/
def albumTable : RuleTable where
  info := none
  rules := [
    ⟨"album", none, some 2, [branchSpec],
      [callSpec "show", ⟨none, some ["album", "page"], none, none⟩, callSpec "count"]⟩,
    ⟨"miss", none, some 1, [pathSpec "^/(albums)/", pathSpec "^/none"], [callSpec "miss"]⟩,
    ⟨"page", none, none, [pathSpec "([a-z]+)$"], [callSpec "page"]⟩]

/-- A request for a page of an album. -/
def albumRequest : RequestSpec := ⟨"GET", "/albums/12/intro", none, [], [], [], none, []⟩

/-- Rules are attempted to the end. -/
def allSettings : Settings := { Settings.byDefault with mode := .all }

/-- The rules of the table are in order. -/
lemma orderedRules_albumTable : orderedRules [⟨"albums.toml", albumTable⟩] = albumTable.rules := by
  refine List.mergeSort_of_pairwise ?_
  decide

/-- The two matches hand over what they have captured. -/
lemma runs_albumTable :
    (dispatchOver allSettings [⟨"albums.toml", albumTable⟩] albumRequest).toOption.any
      fun result =>
        result.attempts = [⟨"album", true⟩, ⟨"miss", false⟩, ⟨"page", true⟩] &&
        result.backreferences.map Json.string? = [some "12", some "intro", some "intro"] &&
        result.handlers.map (fun call => (call.handler, call.backreferences.map Json.string?)) =
          [("show", [some "12", some "intro"]), ("count", [some "12", some "intro"]),
            ("page", [some "intro"])] := by
  unfold dispatchOver
  rw [orderedRules_albumTable]
  decide +kernel

/-- The album and the page hand over what they have captured, and the branch and the rule that fail
nothing; and so does the door of a session. -/
theorem Session.dispatch_handedOver_album :
    (∃ result,
      dispatchOver allSettings [⟨"albums.toml", albumTable⟩] albumRequest = .ok result ∧
      result.HandedOver allSettings [⟨"albums.toml", albumTable⟩] albumRequest ∧
      result.matched = ["album", "page"] ∧
      result.backreferences.map Json.string? = [some "12", some "intro", some "intro"] ∧
      result.handlers.map (fun call => (call.handler, call.backreferences.map Json.string?)) =
        [("show", [some "12", some "intro"]), ("count", [some "12", some "intro"]),
          ("page", [some "intro"])]) ∧
    ∃ loaded result,
      ((doorSession.dispatch ⟨knock (some "/open"), ["door.toml"], false⟩ :
        StateM Disk (Except SessionError DispatchResult)) doorDisk).1 = .ok result ∧
      result.HandedOver (dispatchSettings doorSession.settings loaded false) loaded
        (knock (some "/open")) := by
  obtain ⟨overTables, overSession⟩ := dispatch_handedOver
  refine ⟨?_, ?_⟩
  · obtain ⟨result, hresult, hholds⟩ := exists_of_any runs_albumTable
    simp only [Bool.and_eq_true, decide_eq_true_eq] at hholds
    obtain ⟨⟨hattempts, hreferences⟩, hcalls⟩ := hholds
    have hover := overTables _ _ _ result hresult
    refine ⟨result, hresult, hover, ?_, hreferences, hcalls⟩
    obtain ⟨dispatcher, knowledge, -, -, hhands⟩ := hover
    rw [hhands.matched, hattempts]
    rfl
  · obtain ⟨table, htable, hruns⟩ := exists_of_any runs_doorText
    simp only [Bool.and_eq_true] at hruns
    obtain ⟨result, hresult, -⟩ := exists_of_any hruns.2
    have hloaded : ((doorSession.tables ["door.toml"] : StateM Disk (Except SessionError _))
        doorDisk).1 = .ok [⟨"door.toml", table⟩] :=
      Session.tables_file locate_doorDisk (fun _ => rfl) (by decide +kernel) htable
    have hdispatched : ((doorSession.dispatch ⟨knock (some "/open"), ["door.toml"], false⟩ :
        StateM Disk (Except SessionError DispatchResult)) doorDisk).1 = .ok result := by
      rw [dispatch_apply, hloaded]
      exact hresult
    obtain ⟨loaded, -, hover⟩ := overSession _ _ _ result hdispatched
    exact ⟨loaded, result, hdispatched, hover⟩

end RequestRouting
