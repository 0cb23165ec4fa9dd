import Mathlib
import RequestRouting.Proofs.Rule.Block
import RequestRouting.Proofs.Url.RoundTrip
import RequestRouting.Proofs.Url.Written
import RequestRouting.Url.Resources

/-!
# Built URLs are routed back

One pattern serves both directions of routing: URLs are built from it, and requests are matched
against it.  A request for a URL that has been built meets a condition on the pattern, which
captures the texts that the URL was built from; so a dispatch finds the rule that has this
condition.

## Main definitions

* `Knowledge.Requests` — a request for a URL, with or without a query string behind it.
* `Layer.Receives` — what a condition writes about the texts of placeholders.
* `Condition.LeavesEvidence` — a condition leaves facts, parameters and identity as they are.

## Main results

* `RequestCondition.evaluate_of_match` — the evaluation of a condition on a path that matches.
* `Engine.firstMatch_append` — a pass goes on behind rules none of which matches.
* `UrlPattern.routes_back` — a request for a built URL is led to the rule for its pattern.
-/

set_option autoImplicit false

namespace RequestRouting

/-! ## Paths and methods -/

/-- The lower case of a text does not depend on its case. -/
lemma asciiLower_asciiUpper (text : String) : asciiLower (asciiUpper text) = asciiLower text := by
  simp [asciiLower, asciiUpper, Function.comp_def]

/-- A request for a URL: its path is the URL, or the URL and a query string behind it; and if
methods are listed, then its method is one of them, in upper or lower case. -/
structure Knowledge.Requests (knowledge : Knowledge) (url : String) (methods : List String) :
    Prop where
  path : knowledge.fact? Knowledge.pathFact = some (.string url) ∨
    ∃ query, knowledge.fact? Knowledge.pathFact = some (.string (url ++ "?" ++ query))
  method : methods = [] ∨ ∃ method, knowledge.factText Knowledge.methodFact = .ok method ∧
    ∃ listed ∈ methods, asciiLower listed = asciiLower method

/-- Whether there is a request for a URL depends on the facts only. -/
lemma Knowledge.Requests.of_evidence {knowledge other : Knowledge} {url : String}
    {methods : List String} (h : knowledge.Requests url methods)
    (heq : other.evidence = knowledge.evidence) : other.Requests url methods := by
  have hfact : other.fact? = knowledge.fact? := by
    change other.evidence.fact? = knowledge.evidence.fact?
    rw [heq]
  refine ⟨by rw [hfact]; exact h.path, ?_⟩
  rw [Knowledge.factText_eq, heq, ← Knowledge.factText_eq]
  exact h.method

namespace RequestCondition

/-- A path without a question mark has no query string. -/
lemma withoutQuery_of_notMem {path : String} (h : '?' ∉ path.toList) :
    withoutQuery path = path := by
  have hall : path.toList.takeWhile (· ≠ '?') = path.toList :=
    List.takeWhile_eq_self_iff.2 fun c hc => by simpa using ne_of_mem_of_not_mem hc h
  rw [withoutQuery, hall, String.ofList_toList]

/-- A query string begins behind the first question mark. -/
lemma withoutQuery_append {path : String} (h : '?' ∉ path.toList) (query : String) :
    withoutQuery (path ++ "?" ++ query) = path := by
  have hall : ∀ c ∈ path.toList, decide (c ≠ '?') = true :=
    fun c hc => by simpa using ne_of_mem_of_not_mem hc h
  have hchars : (path ++ "?" ++ query).toList = path.toList ++ '?' :: query.toList := by simp
  rw [withoutQuery, hchars, List.takeWhile_append_of_pos hall, List.takeWhile_cons_of_neg (by simp),
    List.append_nil, String.ofList_toList]

/-- The path of a request for a URL, without its query string. -/
lemma path_of_requests {knowledge : Knowledge} {url : String} {methods : List String}
    (h : knowledge.Requests url methods) (hurl : '?' ∉ url.toList) :
    ∃ raw, knowledge.evidence.text Knowledge.pathFact = .ok raw ∧ withoutQuery raw = url := by
  have hfact : knowledge.fact? = knowledge.evidence.fact? := rfl
  obtain hpath | ⟨query, hpath⟩ := h.path
  · rw [hfact] at hpath
    refine ⟨url, ?_, withoutQuery_of_notMem hurl⟩
    rw [Evidence.text, hpath]
    rfl
  · rw [hfact] at hpath
    refine ⟨url ++ "?" ++ query, ?_, withoutQuery_append hurl query⟩
    rw [Evidence.text, hpath]
    rfl

/-- A condition with some methods and a template. -/
def onPath (methods : List String) (path : PathTemplate) : RequestCondition :=
  ⟨methods.map asciiUpper, some path⟩

/-- Such a condition is made of one that accepts everything. -/
lemma withPath_foldl_withMethod (methods : List String) {text : String} {template : Template}
    (h : Template.compile text = .ok template) :
    (methods.foldl withMethod blank).withPath text = .ok (onPath methods ⟨text, template⟩) := by
  have hmethods : ∀ (condition : RequestCondition),
      methods.foldl withMethod condition =
        { condition with methods := condition.methods ++ methods.map asciiUpper } := by
    induction methods with
    | nil => intro condition; simp
    | cons method rest ih => intro condition; simp [ih, withMethod]
  rw [hmethods, withPath, h]
  rfl

/-- A condition accepts the method of a request if it is listed in any case. -/
lemma methodIn_of_requests {knowledge : Knowledge} {url : String} {methods : List String}
    (h : knowledge.Requests url methods) (path : PathTemplate) :
    (onPath methods path).methodIn knowledge.evidence = .ok true := by
  obtain rfl | ⟨method, htext, listed, hmem, hcase⟩ := h.method
  · rfl
  · rw [Knowledge.factText_eq] at htext
    have hsome : (onPath methods path).methods.isEmpty = false := by
      cases methods with
      | nil => cases hmem
      | cons first rest => rfl
    have haccepts : (onPath methods path).acceptsMethod method = true := by
      refine List.any_eq_true.2 ⟨asciiUpper listed, List.mem_map_of_mem hmem, ?_⟩
      rw [asciiLower_asciiUpper, hcase, decide_eq_true rfl]
    rw [methodIn, hsome, htext]
    exact congrArg Except.ok haccepts

/-- **The evaluation of a condition on a path that matches**: it accepts, and writes the output of
the match. -/
theorem evaluate_of_match {knowledge : Knowledge} {url : String} {methods : List String}
    (h : knowledge.Requests url methods) (hurl : '?' ∉ url.toList) {path : PathTemplate}
    {found : PatternMatch} (hmatch : path.template.match? url = some found) :
    (onPath methods path).evaluate knowledge =
      (.ok true, knowledge.withActive (knowledge.active.add (outputOf found))) := by
  obtain ⟨raw, htext, hraw⟩ := path_of_requests h hurl
  have hmeaning : (onPath methods path).meaning knowledge.evidence =
      .ok (some (outputOf found)) := by
    have hpath : (onPath methods path).pathMeaning knowledge.evidence =
        (knowledge.evidence.text Knowledge.pathFact).map fun raw =>
          (path.template.match? (withoutQuery raw)).map outputOf := rfl
    rw [meaning, methodIn_of_requests h]
    dsimp only
    rw [hpath, htext, Except.map, hraw, hmatch, Option.map_some]
  have hfollows := (onPath methods path).follows_evaluate knowledge
  rw [hmeaning] at hfollows
  exact Prod.ext hfollows.fst_eq hfollows.snd_eq_add

end RequestCondition

/-! ## Built URLs -/

/-- A property path leads to no more than one text. -/
lemma PropertyPath.Reads.unique {path : PropertyPath} {params : Json} {text other : String}
    (h : path.Reads params text) (hother : path.Reads params other) : text = other := by
  obtain ⟨value, hfollow, hdisplay⟩ := h
  obtain ⟨value', hfollow', hdisplay'⟩ := hother
  obtain rfl := Except.ok.inj (hfollow.symm.trans hfollow')
  exact Option.some.inj (hdisplay.symm.trans hdisplay')

/-- A template with encoded texts in the place of its slots has a question mark only if the literal
text of the template has one. -/
lemma Template.questionMark_notMem_fill {template : Template}
    (hliteral : ∀ text, .literal text ∈ template.segments → '?' ∉ text.toList)
    (texts : List String) : '?' ∉ (template.fill (texts.map Percent.encode)).toList := by
  rw [fill, String.toList_join, List.flatMap_map]
  intro hmem
  obtain ⟨segment, hsegment, hmark⟩ := List.mem_flatMap.1 hmem
  cases segment with
  | literal text => exact hliteral text hsegment hmark
  | slot index =>
    rw [fillSegment, List.getElem?_map] at hmark
    cases htext : texts[index]? with
    | none => simp [htext] at hmark
    | some text =>
      rw [htext, Option.map_some, Option.getD_some, Percent.toList_encode] at hmark
      exact Percent.notMem_encodeChars (by decide) (by decide) _ hmark

/-- What a condition writes about the texts of placeholders: all texts are captured, in the order of
the placeholders; each is a result under the dotted name of its placeholder; and nothing else
changes. -/
structure Layer.Receives (before : Layer) (placeholders : List Placeholder) (texts : List String)
    (after : Layer) : Prop where
  backreferences : after.backreferences = before.backreferences ++ texts.map Json.string
  results : ∀ entry ∈ placeholders.zip texts,
    after.results.get? entry.1.path.text = some (.string entry.2)
  others : ∀ name, (∀ placeholder ∈ placeholders, placeholder.path.text ≠ name) →
    after.results.get? name = before.results.get? name
  extractors : after.extractors = before.extractors

/-- The output of a match that gives texts to placeholders. -/
lemma RequestCondition.outputOf_zip {placeholders : List Placeholder} {texts : List String}
    (hlength : placeholders.length = texts.length) :
    outputOf ⟨(placeholders.map Placeholder.path).zip texts⟩ =
      ⟨texts.map Json.string,
        (placeholders.zip texts).map fun entry => (entry.1.path.text, .string entry.2)⟩ := by
  have hcaptured :
      (placeholders.zip texts).map (Json.string ∘ Prod.snd) = texts.map Json.string := by
    rw [← List.map_map, List.map_snd_zip hlength.ge]
  rw [outputOf, List.zip_map_left, List.map_map, List.map_map, ← hcaptured]
  rfl

/-- **The output of a match writes the texts of the placeholders.**

**Proof sketch.** Placeholders that are written the same have the same property path, which leads to
one text only; so it does not matter which of them writes last. -/
lemma Layer.receives_add {placeholders : List Placeholder} {params : Json} {texts : List String}
    (hreads : List.Forall₂ (fun placeholder text => placeholder.path.Reads params text)
      placeholders texts)
    (hspelled : ∀ placeholder ∈ placeholders, placeholder.path.Spelled) (layer : Layer) :
    layer.Receives placeholders texts (layer.add
      (RequestCondition.outputOf ⟨(placeholders.map Placeholder.path).zip texts⟩)) := by
  obtain ⟨hlength, hread⟩ := List.forall₂_iff_zip.1 hreads
  rw [RequestCondition.outputOf_zip hlength]
  refine ⟨rfl, fun entry hentry => ?_, fun name hname => ?_, rfl⟩
  · refine Dict.get?_overlay_of_mem _ (List.mem_map_of_mem hentry) fun field hfield hname => ?_
    obtain ⟨other, hother, rfl⟩ := List.mem_map.1 hfield
    have hpath : other.1.path = entry.1.path :=
      (hspelled _ (List.of_mem_zip hother).1).eq_of_text
        (hspelled _ (List.of_mem_zip hentry).1) hname
    exact congrArg Json.string ((hpath ▸ hread hother).unique (hread hentry))
  · refine Dict.get?_overlay_of_notMem _ fun field hfield => ?_
    obtain ⟨entry, hentry, rfl⟩ := List.mem_map.1 hfield
    exact hname _ (List.of_mem_zip hentry).1

/-! ## Dispatch -/

/-- A condition leaves the facts, the parameters and the identity as they are, wherever it is
evaluated. -/
def Condition.LeavesEvidence (condition : Condition) : Prop :=
  ∀ knowledge : Knowledge, (condition.evaluate knowledge).2.evidence = knowledge.evidence

/-- Speculative conditions do so. -/
lemma Condition.Speculative.leavesEvidence {condition : Condition} (h : condition.Speculative) :
    condition.LeavesEvidence := by
  intro knowledge
  obtain ⟨layer, hafter⟩ := (h knowledge).exists_withActive
  rw [hafter, Knowledge.evidence_withActive]

/-- To leave the evidence as it is is a frame. -/
lemma Knowledge.frame_evidence :
    Knowledge.Frame fun before after => after.evidence = before.evidence where
  refl _ := rfl
  trans h h' := h'.trans h
  rollbackTo {before after} savepoint h := by
    rw [← h]
    unfold Knowledge.rollbackTo
    split
    · rw [Knowledge.mapActive_eq, Knowledge.evidence_withActive]
    · rfl

namespace Engine

variable {engine : Engine} {knowledge : Knowledge} {book : RuleBook}

/-- An attempt at a rule that does not match leaves the evidence as it is. -/
lemma evidence_attempt_of_unmatched {rule : Rule}
    (hrule : ∀ condition ∈ rule.conditions, condition.LeavesEvidence)
    (h : (engine.attempt rule knowledge book).result = .ok false) :
    (engine.attempt rule knowledge book).knowledge.evidence = knowledge.evidence := by
  have hevidence := Knowledge.frame_evidence.evaluateAll hrule knowledge.begin
  have hends := Rule.ends_attempt engine rule knowledge book
  change (rule.attempt engine knowledge book).result = .ok false at h
  change (rule.attempt engine knowledge book).knowledge.evidence = knowledge.evidence
  generalize rule.attempt engine knowledge book = outcome at h hends ⊢
  cases hends with
  | idle => rfl
  | fails e after => cases h
  | refuses after hafter | vetoed after hne hafter hveto =>
    rw [hafter] at hevidence
    exact hevidence
  | fires after => exact absurd h (Rule.fire_result_ne engine rule after book)

/-- A pass goes on behind a rule that does not match. -/
lemma firstMatch_cons_of_unmatched {rule : Rule}
    (h : (engine.attempt rule knowledge book).result = .ok false) (rest : List Rule) :
    engine.firstMatch (rule :: rest) knowledge book =
      (engine.firstMatch rest (engine.attempt rule knowledge book).knowledge
        (engine.attempt rule knowledge book).book).after
          (engine.attempt rule knowledge book).notices := by
  rw [firstMatch, h]

/-- If a pass finds no match, then it goes on behind its first rule. -/
lemma result_attempt_of_firstMatch {rule : Rule} {rest : List Rule}
    (h : (engine.firstMatch (rule :: rest) knowledge book).result = .ok none) :
    (engine.attempt rule knowledge book).result = .ok false := by
  by_contra hdecided
  rw [firstMatch_cons_of_decided hdecided] at h
  cases hresult : (engine.attempt rule knowledge book).result with
  | error e => simp [hresult, Except.map] at h
  | ok verdict => simp [hresult, Except.map] at h

/-- **A pass goes on behind rules none of which matches**, from where they have led. -/
theorem visible_firstMatch_append {before : List Rule}
    (h : (engine.firstMatch before knowledge book).result = .ok none) (later : List Rule) :
    (engine.firstMatch (before ++ later) knowledge book).visible =
      (engine.firstMatch later (engine.firstMatch before knowledge book).knowledge
        (engine.firstMatch before knowledge book).book).visible := by
  induction before generalizing knowledge book with
  | nil => rfl
  | cons rule rest ih =>
    have hpassed := result_attempt_of_firstMatch h
    rw [firstMatch_cons_of_unmatched hpassed] at h ⊢
    rw [List.cons_append, firstMatch_cons_of_unmatched hpassed]
    exact ih h

/-- Rules none of which matches leave the evidence as it is. -/
lemma evidence_firstMatch {rules : List Rule}
    (hrules : ∀ rule ∈ rules, ∀ condition ∈ rule.conditions, condition.LeavesEvidence)
    (h : (engine.firstMatch rules knowledge book).result = .ok none) :
    (engine.firstMatch rules knowledge book).knowledge.evidence = knowledge.evidence := by
  induction rules generalizing knowledge book with
  | nil => rfl
  | cons rule rest ih =>
    obtain ⟨hrule, hrest⟩ := List.forall_mem_cons.1 hrules
    have hpassed := result_attempt_of_firstMatch h
    rw [firstMatch_cons_of_unmatched hpassed] at h ⊢
    have hafter := ih hrest h
    rw [evidence_attempt_of_unmatched hrule hpassed] at hafter
    exact hafter

/-- A pass ends with a rule whose only condition matches, if there are no vetoes and its actions
succeed. -/
lemma visible_firstMatch_of_only {rule : Rule} {condition : Condition} {staged : Knowledge}
    (honly : rule.conditions = [condition]) (hvetoes : engine.hooks.vetoes = [])
    (hmatch : condition.evaluate knowledge.begin = (.ok true, staged))
    (hactions : (rule.carryOut engine staged book).outcome = .ok ()) (later : List Rule) :
    (engine.firstMatch (rule :: later) knowledge book).visible =
      (.ok (some rule), (rule.carryOut engine staged book).knowledge,
        (rule.carryOut engine staged book).book) := by
  have hconditions :
      Condition.evaluateAll rule.conditions knowledge.begin = (.ok true, staged) := by
    rw [honly]
    simp only [Condition.evaluateAll, hmatch]
  have happroved : (engine.hooks.approve rule staged).1 = true := by
    rw [Hooks.approve_fst, hvetoes]
    exact List.forall_mem_nil _
  have hne : rule.conditions ≠ [] := by simp [honly]
  have hattempt : (rule.fire engine staged book).after
      (engine.hooks.emit .processSucceeded rule staged ++ (engine.hooks.approve rule staged).2) =
        rule.attempt engine knowledge book :=
    (Rule.Ends.fires staged hne hconditions happroved).eq_attempt
  have hfire : (engine.attempt rule knowledge book).visible =
      (.ok true, (rule.carryOut engine staged book).knowledge,
        (rule.carryOut engine staged book).book) := by
    rw [visible_attempt, ← hattempt, Rule.fire_eq]
    simp only [hactions]
    rfl
  simp only [Outcome.visible, Prod.mk.injEq] at hfire ⊢
  rw [firstMatch_cons_of_decided (by simp [hfire.1])]
  exact ⟨by simp [hfire.1, Except.map], hfire.2⟩

end Engine

/-! ## Routing back -/

namespace UrlPattern

/-- **A request for a built URL is led to the rule for its pattern.**  Let slashes stand between the
slots of a pattern that compiles, and let its literal text have no question mark.  If the property
path of every placeholder leads to a scalar whose text is not empty, then the URL is built, from a
bare pattern as from a resource.  A condition with the pattern as its path, and any methods, accepts
every request for the URL, with or without a query string behind it; it captures the texts and
writes them as results, and nothing else.  And a dispatch of such a request without vetoes chooses
the rule that has this condition only, if no earlier rule matches or fails, and if the actions of
the rule succeed.

**Proof sketch.** The URL has no question mark, as encoded texts have none, so it is what is left of
the path without its query string; and it matches the texts by the round trip of the template.  The
earlier rules leave the evidence as it is, on which alone the condition depends. -/
theorem routes_back {pattern : UrlPattern} {template : Template}
    (hcompiles : pattern.template = .ok template) (hseparated : template.SlashSeparated)
    (hliteral : ∀ text, .literal text ∈ template.segments → '?' ∉ text.toList) {params : Json}
    (hscalars : ∀ placeholder ∈ template.placeholders,
      ∃ text, text ≠ "" ∧ placeholder.path.Reads params text) :
    ∃ texts url,
      List.Forall₂ (fun placeholder text => placeholder.path.Reads params text)
        template.placeholders texts ∧
      pattern.build params true = .ok url ∧
      (∀ (resources : Resources) (name : String), resources.get? name = some pattern →
        resources.urlFor name params true = .ok url) ∧
      ∀ methods : List String, ∃ condition : RequestCondition,
        (methods.foldl RequestCondition.withMethod .blank).withPath pattern.text =
          .ok condition ∧
        (∀ knowledge : Knowledge, knowledge.Requests url methods →
          ∃ layer, knowledge.active.Receives template.placeholders texts layer ∧
            condition.evaluate knowledge = (.ok true, knowledge.withActive layer)) ∧
        ∀ (dispatcher : Dispatcher) (before later : List Rule) (rule : Rule)
          (knowledge : Knowledge),
          dispatcher.book.rules = before ++ rule :: later →
          rule.conditions = [.request condition] →
          dispatcher.engine.hooks.vetoes = [] →
          (∀ earlier ∈ before, ∀ condition ∈ earlier.conditions, condition.LeavesEvidence) →
          knowledge.Requests url methods →
          let reached := dispatcher.engine.firstMatch before knowledge dispatcher.book
          reached.result = .ok none →
          let staged := (condition.evaluate reached.knowledge.begin).2
          let performed := rule.carryOut dispatcher.engine staged reached.book
          performed.outcome = .ok () →
          (dispatcher.dispatch knowledge).visible =
            (.ok (some rule), performed.knowledge, performed.book) := by
  obtain ⟨texts, hboth⟩ := exists_forall₂.2 hscalars
  have hreads : List.Forall₂ (fun placeholder text => placeholder.path.Reads params text)
      template.placeholders texts := hboth.imp fun _ _ h => h.2
  have hfull : "" ∉ texts := by
    intro hmem
    obtain ⟨placeholder, -, hne, -⟩ := exists_mem_of_forall₂ hboth.flip hmem
    exact hne rfl
  have hslots : Template.slots template.segments = List.range template.placeholders.length :=
    Template.slots_of_compile hcompiles
  have hbuild := build_eq_fill hcompiles hreads
  have hmatch := Template.match?_fill hslots hseparated hreads.length_eq.symm
  rw [if_neg hfull] at hmatch
  have hmark := Template.questionMark_notMem_fill hliteral texts
  refine ⟨texts, template.fill (texts.map Percent.encode), hreads, hbuild, ?_, fun methods => ?_⟩
  · intro resources name hget
    rw [Resources.urlFor, hget]
    exact hbuild
  let condition := RequestCondition.onPath methods ⟨pattern.text, template⟩
  -- wherever the request is evaluated, with whatever has been written before
  have hevaluate : ∀ knowledge : Knowledge,
      knowledge.Requests (template.fill (texts.map Percent.encode)) methods →
      ∃ layer, knowledge.active.Receives template.placeholders texts layer ∧
        condition.evaluate knowledge = (.ok true, knowledge.withActive layer) := by
    intro knowledge hrequests
    exact ⟨_, Layer.receives_add hreads (Template.spelled_of_compile hcompiles) _,
      RequestCondition.evaluate_of_match hrequests hmark hmatch⟩
  refine ⟨condition, RequestCondition.withPath_foldl_withMethod methods hcompiles, hevaluate, ?_⟩
  intro dispatcher before later rule knowledge hrules honly hvetoes hbefore hrequests reached
    hreached staged performed hactions
  -- the request is still the same behind the rules that do not match
  have hevidence : reached.knowledge.begin.evidence = knowledge.evidence :=
    Engine.evidence_firstMatch hbefore hreached
  obtain ⟨layer, -, hstaged⟩ := hevaluate reached.knowledge.begin (hrequests.of_evidence hevidence)
  have haccepts : (Condition.request condition).evaluate reached.knowledge.begin =
      (.ok true, staged) := by
    simp only [Condition.evaluate, staged, hstaged]
  rw [Dispatcher.dispatch, hrules, Engine.visible_firstMatch_append hreached]
  exact Engine.visible_firstMatch_of_only honly hvetoes haccepts hactions later

/-- The rule for `albumPattern`, which stores what it captures. -/
def albumRule : Rule :=
  ⟨"album", none, 0, [.request (.onPath ["get"] ⟨albumPattern.text, albumTemplate⟩)],
    [.bind ["owner", "number"]]⟩

/-- A rule for searches, and behind it that for albums. -/
def gallery : Dispatcher where
  book := ⟨[⟨"search", none, 0, [.urlParams ⟨"q", .isSet, .get⟩], []⟩, albumRule], by decide⟩
  engine := ⟨.empty, ⟨["observer"], []⟩, true⟩
  mode := .first

/-- A request for the album with a query string is led to the rule for albums, behind a rule that
does not match. -/
theorem routes_back_albumPattern :
    albumPattern.template = .ok albumTemplate ∧ albumTemplate.SlashSeparated ∧
    (∀ text, .literal text ∈ albumTemplate.segments → '?' ∉ text.toList) ∧
    (∀ placeholder ∈ albumTemplate.placeholders,
      ∃ text, text ≠ "" ∧ placeholder.path.Reads albumParameters text) ∧
    ∃ url, albumPattern.build albumParameters true = .ok url ∧
      (gallery.dispatch (.forRequest "GeT" (url ++ "?" ++ "page=2"))).result =
        .ok (some albumRule) := by
  have hcompiles : albumPattern.template = .ok albumTemplate := by rfl
  have hseparated : albumTemplate.SlashSeparated := by decide
  have hliteral : ∀ text, .literal text ∈ albumTemplate.segments → '?' ∉ text.toList := by
    simp only [albumTemplate, List.mem_cons, Segment.literal.injEq, reduceCtorEq, false_or,
      List.not_mem_nil, or_false]
    rintro text (rfl | rfl | rfl) <;> decide
  have hscalars : ∀ placeholder ∈ albumTemplate.placeholders,
      ∃ text, text ≠ "" ∧ placeholder.path.Reads albumParameters text := by
    simp only [albumTemplate, List.forall_mem_cons]
    exact ⟨⟨"Zoë / 50 %", by decide, _, rfl, rfl⟩, ⟨"7", by decide, _, rfl, rfl⟩,
      List.forall_mem_nil _⟩
  refine ⟨hcompiles, hseparated, hliteral, hscalars, ?_⟩
  obtain ⟨texts, url, -, hbuild, -, hroutes⟩ := routes_back hcompiles hseparated hliteral hscalars
  obtain ⟨condition, hcondition, -, hdispatch⟩ := hroutes ["get"]
  obtain rfl := Except.ok.inj
    (hcondition.symm.trans (RequestCondition.withPath_foldl_withMethod ["get"] hcompiles))
  have hbefore : ∀ earlier ∈ [(⟨"search", none, 0, [.urlParams ⟨"q", .isSet, .get⟩], []⟩ : Rule)],
      ∀ condition ∈ earlier.conditions, condition.LeavesEvidence := by
    simp only [List.forall_mem_singleton]
    exact (Condition.Native.urlParams _).speculative.leavesEvidence
  have hrequests : (Knowledge.forRequest "GeT" (url ++ "?" ++ "page=2")).Requests url ["get"] :=
    ⟨.inr ⟨_, rfl⟩, .inr ⟨"GeT", rfl, "get", List.mem_singleton_self _, by decide⟩⟩
  refine ⟨url, hbuild, ?_⟩
  have hnone : (gallery.engine.firstMatch
      [(⟨"search", none, 0, [.urlParams ⟨"q", .isSet, .get⟩], []⟩ : Rule)]
      (Knowledge.forRequest "GeT" (url ++ "?" ++ "page=2")) gallery.book).result = .ok none := by
    rfl
  have hactions (staged : Knowledge) (book : RuleBook) :
      (albumRule.carryOut gallery.engine staged book).outcome = .ok () := by rfl
  have hvisible :=
    hdispatch gallery _ [] albumRule _ rfl rfl rfl hbefore hrequests hnone (hactions _ _)
  simp only [Outcome.visible, Prod.mk.injEq] at hvisible
  exact hvisible.1

end UrlPattern

end RequestRouting
