import RequestRouting.Proofs.Rule.Compilation
import RequestRouting.Proofs.Rule.Harmless

/-!
# What a dispatch starts from

A dispatch is given rules that have been compiled, and knowledge that has been read off the
description of a request.  The rules are harmless, as handlers are there for all names that they
mention; and the knowledge has a text under every name that conditions look for, except for the
extra path if none is given.

## Main definitions

* `RequestSpec.Acceptable` — a request is described as it should be.
* `RequestSpec.GivesExtraPath` — the description gives the extra path.

## Main results

* `harmless_of_buildDispatcher` — the rules of a dispatcher are harmless.
* `RequestSpec.Acceptable.exists_knowledge` — an acceptable description says what is known.
* `RequestSpec.eq_missingFact_of_lacks` — the only fact that can be lacking is the extra path.
-/

set_option autoImplicit false

namespace RequestRouting

/-! ## Handlers -/

/-- The handlers of a list of names, all of which do the same. -/
lemma foldl_register (names : List String) (handler : Handler) (handlers : Handlers) :
    names.foldl (fun acc name => acc.register name handler) handlers =
      ⟨handlers.table.overlay (names.map fun name => (name, handler))⟩ := by
  induction names generalizing handlers with
  | nil => rfl
  | cons name rest ih => rw [List.foldl_cons, ih]; rfl

/-- Whatever handler there is does nothing. -/
lemma get?_recordingHandlers {rules : List RuleSpec} {name : String}
    (h : name ∈ (recordingHandlers rules).names) :
    (recordingHandlers rules).table.get? name = some recordingHandler := by
  have hsome : (recordingHandlers rules).table.get? name ≠ none := by
    obtain ⟨field, hfield, rfl⟩ := List.mem_map.1 h
    exact fun hnone => Fields.get?_eq_none.1 hnone field hfield rfl
  obtain ⟨handler, hhandler⟩ := Option.ne_none_iff_exists'.1 hsome
  have hmem := hhandler
  rw [recordingHandlers, foldl_register] at hmem
  obtain ⟨other, -, heq⟩ := List.mem_map.1 (Dict.mem_of_get?_ofList hmem)
  obtain ⟨rfl, rfl⟩ := Prod.mk.inj heq
  exact hhandler

/-! ## Rules -/

/-- An action that has been read is harmless, if all handlers do nothing. -/
lemma ActionSpec.harmless_of_toAction {handlers : Handlers}
    (hhandlers : ∀ name ∈ handlers.names, handlers.table.get? name = some recordingHandler)
    {spec : ActionSpec} {rule : String} {action : RuleAction}
    (h : spec.toAction rule handlers.names = .ok action) : action.Harmless handlers := by
  unfold toAction at h
  split at h
  · cases h
  split at h
  · unfold resolveHandler at h
    split at h
    · next hname =>
      cases h
      exact .handler (hhandlers _ hname)
    · cases h
  · cases h
    exact .bind _
  · cases h
    exact .set _
  · cases h
    exact .log _

/-- A compiled rule is harmless, if all handlers do nothing. -/
lemma RuleSpec.harmless_of_compile {handlers : Handlers}
    (hhandlers : ∀ name ∈ handlers.names, handlers.table.get? name = some recordingHandler)
    {spec : RuleSpec} {rule : Rule} (h : spec.compile .builtins handlers.names = .ok rule) :
    rule.Harmless handlers := by
  have hnative := native_of_compile h
  obtain ⟨conditions, -, actions, hactions, rfl⟩ := compile_eq_ok.1 h
  exact ⟨hnative, forall_mem_of_mapM hactions fun _ _ _ hbuilt =>
    ActionSpec.harmless_of_toAction hhandlers hbuilt⟩

/-- What a dispatcher is made of: compiled rules, recording handlers, no vetoes, and a mode. -/
lemma buildDispatcher_eq_ok {rules : List RuleSpec} {settings : Settings}
    {dispatcher : Dispatcher} :
    buildDispatcher rules settings = .ok dispatcher ↔
      ∃ compiled book,
        RuleSpec.compileAll .builtins (recordingHandlers rules).names rules = .ok compiled ∧
        RuleBook.ofRules compiled = .ok book ∧
        (⟨book, ⟨recordingHandlers rules, ⟨[attemptObserver], []⟩, settings.clearExtractors⟩,
          settings.mode⟩ : Dispatcher) = dispatcher := by
  simp only [buildDispatcher, bind_eq_ok, mapError_eq_ok, Except.ok.injEq]
  constructor
  · rintro ⟨compiled, hcompiled, book, hbook, rfl⟩
    exact ⟨compiled, book, hcompiled, hbook, rfl⟩
  · rintro ⟨compiled, book, hcompiled, hbook, rfl⟩
    exact ⟨compiled, hcompiled, book, hbook, rfl⟩

/-- **The rules of a dispatcher are harmless.** -/
theorem harmless_of_buildDispatcher {rules : List RuleSpec} {settings : Settings}
    {dispatcher : Dispatcher} (h : buildDispatcher rules settings = .ok dispatcher) :
    ∀ rule ∈ dispatcher.book.rules, rule.Harmless dispatcher.engine.handlers := by
  obtain ⟨compiled, book, hcompiled, hbook, rfl⟩ := buildDispatcher_eq_ok.1 h
  rw [RuleSpec.compileAll_eq_mapM] at hcompiled
  rw [RuleBook.ofRules_eq_ok.1 hbook]
  exact forall_mem_of_mapM hcompiled fun spec _ rule hrule =>
    RuleSpec.harmless_of_compile (fun _ => get?_recordingHandlers) hrule

/-- The same rules can be dispatched in any mode. -/
lemma buildDispatcher_withMode {rules : List RuleSpec} {settings : Settings}
    {dispatcher : Dispatcher} (h : buildDispatcher rules settings = .ok dispatcher)
    (mode : DispatchMode) :
    buildDispatcher rules { settings with mode := mode } = .ok (dispatcher.withMode mode) := by
  obtain ⟨compiled, book, hcompiled, hbook, rfl⟩ := buildDispatcher_eq_ok.1 h
  exact buildDispatcher_eq_ok.2 ⟨compiled, book, hcompiled, hbook, rfl⟩

/-! ## Requests -/

namespace RequestSpec

/-- A request is described as it should be: all assignments can be read, and groups are given only
together with someone who belongs to them. -/
structure Acceptable (spec : RequestSpec) : Prop where
  get : ∀ input ∈ spec.get, ∃ assignment, parseAssignment input = .ok assignment
  post : ∀ input ∈ spec.post, ∃ assignment, parseAssignment input = .ok assignment
  facts : ∀ input ∈ spec.facts, ∃ assignment, parseAssignment input = .ok assignment
  groups : spec.user = none → spec.groups = []

/-- The extra path of a request is given, as such or as a fact. -/
def GivesExtraPath (spec : RequestSpec) : Prop :=
  spec.extraPath ≠ none ∨
    ∃ input ∈ spec.facts, ∃ value, parseAssignment input = .ok (Knowledge.extraPathFact, value)

variable {spec : RequestSpec} {assignments : List (String × Json)}

/-- Assignments are read one after another. -/
lemma readAssignments_eq_ok {inputs : List String} :
    readAssignments inputs = .ok assignments ↔
      List.Forall₂ (fun input assignment => parseAssignment input = .ok assignment) inputs
        assignments := by
  have hmapM : readAssignments inputs =
      inputs.mapM fun input => (parseAssignment input).mapError .request := by
    induction inputs with
    | nil => rfl
    | cons input rest ih => rw [readAssignments, ih, List.mapM_cons]; rfl
  simp only [hmapM, mapM_eq_ok, mapError_eq_ok]

/-- Assignments that can be read one by one can be read. -/
lemma exists_readAssignments {inputs : List String}
    (h : ∀ input ∈ inputs, ∃ assignment, parseAssignment input = .ok assignment) :
    ∃ assignments, readAssignments inputs = .ok assignments := by
  simpa only [readAssignments_eq_ok] using exists_forall₂.2 h

/-- The facts that are known without any assignment. -/
def plainFacts (spec : RequestSpec) : List (String × Json) :=
  [(Knowledge.methodFact, .string spec.method), (Knowledge.pathFact, .string spec.path)] ++
    spec.extraPath.toList.map fun extra => (Knowledge.extraPathFact, .string extra)

/-- What is known about a request: the plain facts and those of the assignments, of which the last
one counts. -/
lemma requestFacts_eq (h : readAssignments spec.facts = .ok assignments) :
    spec.requestFacts = .ok (.ofFacts (.ofList (spec.plainFacts ++ assignments))) := by
  cases hextra : spec.extraPath <;>
    simp [requestFacts, plainFacts, hextra, h, bind, Except.bind, Dict.ofList, Knowledge.forRequest,
      Knowledge.withFact, Knowledge.withFacts, Knowledge.ofFacts, Knowledge.empty]

/-- An acceptable description says which parameters there are. -/
lemma Acceptable.exists_parameters (h : spec.Acceptable) :
    ∃ parameters, spec.parameters = .ok parameters := by
  obtain ⟨get, hget⟩ := exists_readAssignments h.get
  obtain ⟨post, hpost⟩ := exists_readAssignments h.post
  unfold parameters
  rw [hget, hpost]
  exact ⟨_, rfl⟩

/-- An acceptable description says who makes the request. -/
lemma Acceptable.exists_identity (h : spec.Acceptable) :
    ∃ identity, spec.identity = .ok identity := by
  unfold identity
  split
  · exact ⟨_, rfl⟩
  · next hnone =>
    rw [h.groups hnone]
    exact ⟨none, rfl⟩

/-- Assignments are texts. -/
lemma exists_text_of_parseAssignment {input name : String} {value : Json}
    (h : parseAssignment input = .ok (name, value)) : ∃ text, value = .string text := by
  unfold parseAssignment at h
  split at h
  · cases h
  · split at h
    · cases h
    · cases h
      exact ⟨_, rfl⟩

/-- All facts of a request are texts. -/
lemma exists_text_of_mem (hassignments : readAssignments spec.facts = .ok assignments)
    {name : String} {value : Json} (h : (name, value) ∈ spec.plainFacts ++ assignments) :
    ∃ text, value = .string text := by
  rcases List.mem_append.1 h with hplain | hassigned
  · rcases List.mem_append.1 hplain with hplain | hextra
    · simp only [List.mem_cons, Prod.mk.injEq, List.not_mem_nil, or_false] at hplain
      rcases hplain with ⟨-, rfl⟩ | ⟨-, rfl⟩ <;> exact ⟨_, rfl⟩
    · obtain ⟨extra, -, heq⟩ := List.mem_map.1 hextra
      exact ⟨extra, (Prod.mk.inj heq).2.symm⟩
  · obtain ⟨input, -, hparse⟩ :=
      exists_mem_of_forall₂ (readAssignments_eq_ok.1 hassignments).flip hassigned
    exact exists_text_of_parseAssignment hparse

/-- If the extra path is given, then it is one of the facts of the request. -/
lemma GivesExtraPath.exists_mem (h : spec.GivesExtraPath)
    (hassignments : readAssignments spec.facts = .ok assignments) :
    ∃ field ∈ spec.plainFacts ++ assignments, field.1 = Knowledge.extraPathFact := by
  rcases h with hextra | ⟨input, hinput, value, hparse⟩
  · obtain ⟨extra, hextra⟩ := Option.ne_none_iff_exists'.1 hextra
    exact ⟨(Knowledge.extraPathFact, .string extra), by simp [plainFacts, hextra], rfl⟩
  · obtain ⟨assignment, hmem, hread⟩ :=
      exists_mem_of_forall₂ (readAssignments_eq_ok.1 hassignments) hinput
    obtain rfl := Except.ok.inj (hparse.symm.trans hread)
    exact ⟨_, List.mem_append_right _ hmem, rfl⟩

/-- **The only fact that can be lacking is the extra path**, and only if it is not given.

**Proof sketch.** All facts of a request are texts.  The method and the path are among them, and so
is the extra path if it is given. -/
lemma eq_missingFact_of_lacks {knowledge : Knowledge}
    (hassignments : readAssignments spec.facts = .ok assignments)
    (hfacts : knowledge.facts = .ofList (spec.plainFacts ++ assignments))
    (hderived : knowledge.derived = .empty) {name : String} (needed : name ∈ neededFacts)
    {e : RuleError} (h : knowledge.evidence.Lacks name e) :
    e = .missingFact Knowledge.extraPathFact ∧ ¬ spec.GivesExtraPath := by
  have hfact : knowledge.evidence.fact? name =
      (Dict.ofList (spec.plainFacts ++ assignments)).get? name := by
    simp [Knowledge.evidence, Evidence.fact?, hfacts, hderived]
  cases h with
  | absent habsent =>
    rw [hfact, Dict.get?_ofList_eq_none] at habsent
    simp only [neededFacts, List.mem_cons, List.not_mem_nil, or_false] at needed
    obtain rfl | rfl | rfl := needed
    · exact absurd rfl (habsent (Knowledge.methodFact, .string spec.method) (by simp [plainFacts]))
    · exact absurd rfl (habsent (Knowledge.pathFact, .string spec.path) (by simp [plainFacts]))
    · refine ⟨rfl, fun hgives => ?_⟩
      obtain ⟨field, hfield, hname⟩ := hgives.exists_mem hassignments
      exact habsent field hfield hname
  | noScalar value hvalue hdisplay =>
    rw [hfact] at hvalue
    obtain ⟨text, rfl⟩ := exists_text_of_mem hassignments (Dict.mem_of_get?_ofList hvalue)
    cases hdisplay

/-- **An acceptable description says what is known.**  Of the facts that conditions need only the
extra path can be lacking, if it is not given. -/
theorem Acceptable.exists_knowledge (h : spec.Acceptable) :
    ∃ knowledge, spec.knowledge = .ok knowledge ∧ knowledge.Settled knowledge.evidence ∧
      ∀ name ∈ neededFacts, ∀ e, knowledge.evidence.Lacks name e →
        e = .missingFact Knowledge.extraPathFact ∧ ¬ spec.GivesExtraPath := by
  obtain ⟨parameters, hparameters⟩ := h.exists_parameters
  obtain ⟨assignments, hassignments⟩ := exists_readAssignments h.facts
  obtain ⟨identity, hidentity⟩ := h.exists_identity
  refine ⟨{ Knowledge.ofFacts (.ofList (spec.plainFacts ++ assignments)) with
    parameters := some parameters, identity := identity }, ?_, ⟨rfl, rfl, rfl⟩, ?_⟩
  · simp [knowledge, hparameters, requestFacts_eq hassignments, hidentity, bind, Except.bind]
  · exact fun name needed e hlacks => eq_missingFact_of_lacks hassignments rfl rfl needed hlacks

end RequestSpec

end RequestRouting
