import RequestRouting.Proofs.Condition.Layout
import RequestRouting.Proofs.Rule.Block

/-!
# What is stored under the names of captured values

A `bind` action stores the captured values of its rule by their positions.  Without `or` nodes a
position tells where a value comes from, so a name always gets what the same part of the same leaf
has captured, or null if no condition of the rule captures so many values.

## Main definitions

* `Rule.origins` — the origins of what the conditions of a rule capture, in order.
* `Rule.Reaches` — an attempt at a rule has come as far as one of its actions.

## Main results

* `result?_bindReferences` — a name gets the value at the last of its positions.
* `Rule.bind_stores_origin` — what a `bind` action of a rule stores.
-/

set_option autoImplicit false

namespace RequestRouting

/-! ## Storing by positions -/

/-- A result that is written is read back under its name, and under no other. -/
lemma Knowledge.result?_setResult (knowledge : Knowledge) (key name : String) (value : Json) :
    (knowledge.setResult key value false).result? name =
      if key = name then some value else knowledge.result? name := by
  change (knowledge.committed.results.insert key value).get? name = _
  split_ifs with h
  · rw [h, Dict.get?_insert_self]
  · exact Dict.get?_insert_of_ne _ h _

/-- Under other names nothing is stored. -/
lemma result?_bindReferences_of_notMem {name : String} {names : List String} (h : name ∉ names)
    (knowledge : Knowledge) (references : List Json) :
    (bindReferences knowledge names references).result? name = knowledge.result? name := by
  induction names generalizing knowledge references with
  | nil => rfl
  | cons first rest ih =>
    obtain ⟨hne, hrest⟩ := not_or.1 (mt List.mem_cons.2 h)
    rw [bindReferences, ih hrest, Knowledge.result?_setResult, if_neg (Ne.symm hne)]

/-- **A name gets the value at the last of its positions**, or null if there are not so many.

**Proof sketch.** Induction on the names.  Behind the last position of a name nothing is stored
under it any more. -/
theorem result?_bindReferences {names : List String} {position : Nat} {name : String}
    (hname : names[position]? = some name) (hlast : name ∉ names.drop (position + 1))
    (knowledge : Knowledge) (references : List Json) :
    (bindReferences knowledge names references).result? name =
      some (references[position]?.getD .null) := by
  induction names generalizing position knowledge references with
  | nil => cases hname
  | cons first rest ih =>
    rw [bindReferences]
    cases position with
    | zero =>
      obtain rfl : first = name := Option.some.inj hname
      have hlast : first ∉ rest := hlast
      rw [result?_bindReferences_of_notMem hlast, Knowledge.result?_setResult, if_pos rfl,
        List.head?_eq_getElem?]
    | succ position =>
      rw [ih hname hlast, List.getElem?_tail]

/-- Actions that stand behind others are performed where the others have ended, if these have
succeeded. -/
lemma performAll_append {handlers : Handlers} {rule : String} {references : List Json}
    {before later : List RuleAction} {knowledge : Knowledge} {book : RuleBook}
    (h : (performAll handlers rule references before knowledge book).outcome = .ok ()) :
    let reached := performAll handlers rule references before knowledge book
    let ended := performAll handlers rule references later reached.knowledge reached.book
    performAll handlers rule references (before ++ later) knowledge book =
      { ended with notices := reached.notices ++ ended.notices } := by
  induction before generalizing knowledge book with
  | nil => rfl
  | cons action rest ih =>
    dsimp only [List.cons_append, performAll] at h ⊢
    cases hfirst : (action.perform handlers rule references knowledge book).outcome with
    | error e =>
      rw [hfirst] at h
      cases hfirst.symm.trans h
    | ok _ =>
      rw [hfirst] at h
      simp only [ih h, List.append_assoc]

/-- Actions succeed only if those in front of the others do. -/
lemma outcome_of_performAll_append {handlers : Handlers} {rule : String} {references : List Json}
    {before later : List RuleAction} {knowledge : Knowledge} {book : RuleBook}
    (h : (performAll handlers rule references (before ++ later) knowledge book).outcome = .ok ()) :
    (performAll handlers rule references before knowledge book).outcome = .ok () := by
  induction before generalizing knowledge book with
  | nil => rfl
  | cons action rest ih =>
    dsimp only [List.cons_append, performAll] at h ⊢
    cases hfirst : (action.perform handlers rule references knowledge book).outcome with
    | error e =>
      rw [hfirst] at h
      cases hfirst.symm.trans h
    | ok _ =>
      rw [hfirst] at h
      exact ih h

namespace Rule

/-- The origins of what the conditions of a rule capture, in order.  The conditions count as the
branches of one `and` node. -/
def origins (rule : Rule) : List CaptureOrigin := (Condition.bool .and rule.conditions).layout

/-- What an origin in the conditions of a rule captures on some evidence. -/
def captured? (rule : Rule) (evidence : Evidence) (origin : CaptureOrigin) : Option Json :=
  origin.value? (.bool .and rule.conditions) evidence

/-- An attempt at a rule has come so far: its conditions have matched, no veto has refused, what the
conditions have captured is committed, and the actions `before` have succeeded. -/
inductive Reaches (engine : Engine) (rule : Rule) (knowledge : Knowledge) (book : RuleBook)
    (before : List RuleAction) : List Json → Performed → Prop where
  | mk {staged : Knowledge} (hstaged : rule.staged? engine knowledge = some staged)
    (hbefore : (performAll engine.handlers rule.name staged.commit.1 before
      (staged.commit.2.extractFacts engine.clearExtractors) book).outcome = .ok ()) :
    Reaches engine rule knowledge book before staged.commit.1
      (performAll engine.handlers rule.name staged.commit.1 before
        (staged.commit.2.extractFacts engine.clearExtractors) book)

variable {engine : Engine} {rule : Rule} {knowledge : Knowledge} {book : RuleBook}
  {before later : List RuleAction}

/-- What a rule is about to commit, if none of its conditions has an `or` node, are the values of
its origins. -/
lemma map_some_commit
    (h : ∀ condition ∈ rule.conditions, condition.Registered ∧ condition.isOrFree = true)
    {staged : Knowledge} (hstaged : rule.staged? engine knowledge = some staged) :
    staged.commit.1.map some = rule.origins.map (rule.captured? knowledge.evidence) := by
  unfold staged? at hstaged
  split at hstaged
  · cases hstaged
  next hempty =>
  split at hstaged
  next after hmatch =>
    obtain ⟨-, hafter⟩ := Option.ite_none_right_eq_some.1 hstaged
    obtain rfl : after = staged := Option.some.inj hafter
    have hsome : rule.conditions ≠ [] := fun hnil => hempty (List.isEmpty_iff.2 hnil)
    have hsound : (Condition.bool .and rule.conditions).Sound :=
      .bool .and hsome fun condition hcondition => (h condition hcondition).1.sound
    have hfree : (Condition.bool .and rule.conditions).isOrFree = true := by
      rw [Condition.isOrFree, Condition.areOrFree_iff.2 fun condition hcondition =>
        (h condition hcondition).2]
      rfl
    obtain ⟨output, rfl, -, hvalues⟩ := hsound.exists_captured hfree hmatch
    exact hvalues
  · cases hstaged

/-- A rule that matches comes as far as any of its actions. -/
lemma exists_reaches (hactions : rule.actions = before ++ later)
    (hmatch : (rule.attempt engine knowledge book).result = .ok true) :
    ∃ references reached, rule.Reaches engine knowledge book before references reached := by
  have hends := rule.ends_attempt engine knowledge book
  generalize rule.attempt engine knowledge book = outcome at hends hmatch
  cases hends with
  | fires after hne h hveto =>
    have hstaged : rule.staged? engine knowledge = some after := by
      simp [staged?, hne, h, hveto]
    have hsuccess : (rule.carryOut engine after book).outcome = .ok () := by
      simp only [Outcome.after, fire_eq] at hmatch
      cases houtcome : (rule.carryOut engine after book).outcome with
      | error text =>
        rw [houtcome] at hmatch
        cases hmatch
      | ok _ => rfl
    rw [carryOut, hactions] at hsuccess
    exact ⟨_, _, .mk hstaged (outcome_of_performAll_append hsuccess)⟩
  | _ => cases hmatch

/-- Behind the actions as far as which it has come, an attempt goes on with the others. -/
lemma Reaches.knowledge_attempt {references : List Json} {reached : Performed}
    (h : rule.Reaches engine knowledge book before references reached)
    (hactions : rule.actions = before ++ later) :
    (rule.attempt engine knowledge book).knowledge =
      (performAll engine.handlers rule.name references later reached.knowledge
        reached.book).knowledge := by
  obtain ⟨hstaged, hbefore⟩ := h
  have hattempt := attempt_eq_of_staged? engine rule knowledge book
  rw [hstaged] at hattempt
  rw [hattempt.2.1, carryOut, hactions, performAll_append hbefore]

end Rule

/-- **Without `or` nodes the origins of captured values are fixed.**  Let conditions be built by the
registry, and without `or` nodes.

Then each of them has as many origins as its leaves have groups, whole chunks and placeholders, but
for those below a `not` node.  Whatever is known, if the condition matches, exactly so many values
are appended to what has been captured, and each of them is what its own origin captures.

So a `bind` action of a rule with these conditions, if an attempt at the rule comes so far, stores
under every name what the origin at the last position of the name captures, or null if there is
none; and the attempt goes on from there with the actions behind.  A rule that matches has come so
far with each of its actions. -/
theorem captures_have_origins {conditions : List Condition}
    (h : ∀ condition ∈ conditions, condition.Registered ∧ condition.isOrFree = true) :
    (∀ condition ∈ conditions, condition.layout.length = condition.captureCount ∧
      ∀ knowledge after, condition.evaluate knowledge = (.ok true, after) →
        ∃ values, values.length = condition.captureCount ∧
          after.active.backreferences = knowledge.active.backreferences ++ values ∧
          values.map some =
            condition.layout.map fun origin => origin.value? condition knowledge.evidence) ∧
    ∀ rule : Rule, rule.conditions = conditions →
      ∀ before names later, rule.actions = before ++ .bind names :: later →
      ∀ engine knowledge book,
        ((rule.attempt engine knowledge book).result = .ok true →
          ∃ references reached, rule.Reaches engine knowledge book before references reached) ∧
        ∀ references reached, rule.Reaches engine knowledge book before references reached →
          let bound := (RuleAction.bind names).perform engine.handlers rule.name references
            reached.knowledge reached.book
          (rule.attempt engine knowledge book).knowledge =
            (performAll engine.handlers rule.name references later bound.knowledge
              bound.book).knowledge ∧
          ∀ position name, names[position]? = some name → name ∉ names.drop (position + 1) →
            bound.knowledge.result? name = some ((rule.origins[position]?.bind
              (rule.captured? knowledge.evidence)).getD .null) := by
  constructor
  · intro condition hcondition
    obtain ⟨hregistered, hfree⟩ := h condition hcondition
    refine ⟨condition.length_layout, fun knowledge after hmatch => ?_⟩
    obtain ⟨output, rfl, hlength, hvalues⟩ := hregistered.sound.exists_captured hfree hmatch
    refine ⟨output.backreferences, hlength, ?_, hvalues⟩
    rw [Knowledge.active_withActive]
    rfl
  · rintro rule rfl before names later hactions engine knowledge book
    refine ⟨Rule.exists_reaches hactions, fun references reached hreached => ?_⟩
    refine ⟨hreached.knowledge_attempt hactions, fun position name hname hlast => ?_⟩
    obtain @⟨staged, hstaged, -⟩ := hreached
    have hvalue := congrArg (·[position]?) (Rule.map_some_commit h hstaged)
    simp only [List.getElem?_map] at hvalue
    change (bindReferences _ names _).result? name = _
    rw [result?_bindReferences hname hlast]
    generalize rule.origins[position]? = origin at hvalue ⊢
    generalize staged.commit.1[position]? = value at hvalue ⊢
    cases origin <;> cases value <;> simp_all

/-! ## A rule with three leaves -/

/-- The table of a tree with a path condition, a `not` node and a request condition. -/
def memberTree : Table :=
  [("conditions", .array [
    .object [("chunk[-1]", .string "^edit$"), ("chunk[2]", .string "^([0-9]+)$"),
      ("pattern", .string "^/(users|groups)(!)?/"), ("type", .string "url_path")],
    .object [("conditions", .array [
        .object [("method", .string "POST"), ("type", .string "request")]]),
      ("operator", .string "not"), ("type", .string "bool")],
    .object [("path", .string "/\x7bkind\x7d/\x7bid\x7d/edit"), ("type", .string "request")]]),
   ("type", .string "bool")]

/-- A rule that stores what the tree captures, under one name twice. -/
def memberRule (condition : Condition) : Rule :=
  ⟨"member", none, 0, [condition], [.bind ["kind", "mark", "view", "id", "again", "id"]]⟩

/-- An attempt at the rule on a request for the path `/users/42/edit`. -/
def memberAttempt (condition : Condition) : Outcome Bool :=
  (memberRule condition).attempt ⟨.empty, .empty, true⟩ UrlPathCondition.editMember .empty

/-- The rule stores the value of the last placeholder under the name that comes twice. -/
theorem captures_have_origins_memberTree :
    ∃ condition : Condition, condition.Registered ∧ condition.isOrFree = true ∧
      condition.layout = [⟨[0], .pathGroup 0⟩, ⟨[0], .pathGroup 1⟩, ⟨[0], .chunk (-1)⟩,
        ⟨[0], .chunkGroup 2 0⟩, ⟨[2], .placeholder 0⟩, ⟨[2], .placeholder 1⟩] ∧
      condition.captureCount = 6 ∧
      (condition.evaluate UrlPathCondition.editMember).1 = .ok true ∧
      (condition.evaluate UrlPathCondition.editMember).2.active.backreferences.length = 6 ∧
      (memberAttempt condition).result = .ok true ∧
      ((memberAttempt condition).knowledge.result? "id").bind Json.display? = some "42" := by
  have hrun : (ConditionRegistry.builtins.constructTable memberTree).toOption.any
      (fun condition => condition.isOrFree &&
        condition.layout = [⟨[0], .pathGroup 0⟩, ⟨[0], .pathGroup 1⟩, ⟨[0], .chunk (-1)⟩,
          ⟨[0], .chunkGroup 2 0⟩, ⟨[2], .placeholder 0⟩, ⟨[2], .placeholder 1⟩] &&
        (condition.evaluate UrlPathCondition.editMember).1.toOption = some true &&
        (memberAttempt condition).result.toOption = some true &&
        ((memberRule condition).origins[5]?.bind ((memberRule condition).captured?
          UrlPathCondition.editMember.evidence)).bind Json.display? = some "42") = true := by
    decide +kernel
  obtain ⟨condition, hbuilt, htest⟩ := exists_of_any hrun
  simp only [Bool.and_eq_true, decide_eq_true_eq] at htest
  obtain ⟨⟨⟨⟨hfree, hlayout⟩, hverdict⟩, hresult⟩, hvalue⟩ := htest
  have hok {step : Except RuleError Bool} (h : step.toOption = some true) : step = .ok true := by
    revert h
    cases step <;> simp [Except.toOption]
  have hverdict := hok hverdict
  have hmatch := hok hresult
  have hregistered : condition.Registered := .ofTable memberTree hbuilt
  have hconditions : ∀ other ∈ [condition], other.Registered ∧ other.isOrFree = true :=
    List.forall_mem_singleton.2 ⟨hregistered, hfree⟩
  obtain ⟨hcount, hbind⟩ := captures_have_origins hconditions
  obtain ⟨hlength, hevaluate⟩ := List.forall_mem_singleton.1 hcount
  have hcount : condition.captureCount = 6 := by
    rw [← hlength, hlayout]
    rfl
  obtain ⟨values, hvalues, hafter, -⟩ := hevaluate _ _ (Prod.ext hverdict rfl)
  obtain ⟨hreaches, hstores⟩ := hbind (memberRule condition) rfl [] _ [] rfl
    ⟨.empty, .empty, true⟩ UrlPathCondition.editMember .empty
  obtain ⟨references, reached, hreached⟩ := hreaches hmatch
  obtain ⟨hknowledge, hnames⟩ := hstores references reached hreached
  refine ⟨condition, hregistered, hfree, hlayout, hcount, hverdict, ?_, hmatch, ?_⟩
  · rw [hafter, List.length_append, hvalues, hcount]
    rfl
  · have hstored := hnames 5 "id" rfl (by decide)
    rw [memberAttempt, hknowledge, performAll, hstored, ← hvalue]
    cases hcaptured : (memberRule condition).origins[5]?.bind
        ((memberRule condition).captured? UrlPathCondition.editMember.evidence) with
    | none =>
      rw [hcaptured] at hvalue
      cases hvalue
    | some value => rfl

end RequestRouting
