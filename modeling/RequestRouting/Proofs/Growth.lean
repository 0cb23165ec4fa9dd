import RequestRouting.Proofs.Rule.Additions
import RequestRouting.Proofs.Unmatched

/-!
# The rules of a dispatcher over time

A dispatcher is called again and again: rules are added to it, and its rules are dispatched, which
may add further ones on the way.  Whatever the order of all this, names stay distinct, rules are
only appended, and a dispatch attempts the rules that were there when it began.

## Main definitions

* `Dispatcher.Call`, `Dispatcher.perform` — a call from outside, and what it makes of a dispatcher.
* `Dispatcher.Episode`, `Dispatcher.history` — what happens in one call, and in several.
* `Dispatcher.performCalls` — the dispatcher behind several calls.

## Main results

* `Dispatcher.grows_perform` — the rules of a dispatcher grow through a call.
* `Dispatcher.attempts_perform` — what a call attempts are rules that were there when it began.
* `Dispatcher.rules_grow` — both for any number of calls, with what follows from them.
-/

set_option autoImplicit false

namespace RequestRouting

namespace Dispatcher

/-! ## One call -/

/-- A call from outside. -/
inductive Call where
  /-- Adds a rule. -/
  | addRule (rule : Rule)
  /-- Sets what attempts need to know besides the rules. -/
  | configure (engine : Engine)
  /-- Dispatches up to the first match. -/
  | dispatch (knowledge : Knowledge)
  /-- Dispatches over all rules. -/
  | dispatchAll (knowledge : Knowledge)
  /-- Dispatches as a mode says. -/
  | run (mode : DispatchMode) (knowledge : Knowledge)

/-- The dispatcher behind a call, and the trace of the call. -/
def perform (dispatcher : Dispatcher) : Call → Dispatcher × List Notice
  | .addRule rule =>
    match dispatcher.addRule rule with
    | .ok later => (later, [])
    | .error _ => (dispatcher, [])
  | .configure engine => ({ dispatcher with engine := engine }, [])
  | .dispatch knowledge =>
    let outcome := dispatcher.dispatch knowledge
    ({ dispatcher with book := outcome.book }, outcome.notices)
  | .dispatchAll knowledge =>
    let outcome := dispatcher.dispatchAll knowledge
    ({ dispatcher with book := outcome.book }, outcome.notices)
  | .run mode knowledge =>
    let outcome := (dispatcher.withMode mode).run knowledge
    ({ dispatcher with book := outcome.book }, outcome.notices)

/-- The pass of a call that dispatches: whether the first match is the last attempt, and what is
known. -/
def Call.pass? : Call → Option (Bool × Knowledge)
  | .addRule _ | .configure _ => none
  | .dispatch knowledge => some (true, knowledge)
  | .dispatchAll knowledge => some (false, knowledge)
  | .run mode knowledge => some (mode = .first, knowledge)

/-- The attempts of a call. -/
def attempts (dispatcher : Dispatcher) (call : Call) : List Attempt :=
  call.pass?.elim [] fun (cut, knowledge) =>
    dispatcher.engine.attempts cut dispatcher.book.rules knowledge dispatcher.book

/-- The calls that add a rule, from outside and by actions on the way. -/
def additions (dispatcher : Dispatcher) : Call → List Addition
  | .addRule rule => [dispatcher.book.addition rule]
  | call => call.pass?.elim [] fun (cut, knowledge) =>
    dispatcher.engine.additions cut dispatcher.book.rules knowledge dispatcher.book

/-- The rules of a dispatcher grow through a call. -/
theorem grows_perform (dispatcher : Dispatcher) (call : Call) :
    Grows dispatcher.book.rules (dispatcher.additions call)
      (dispatcher.perform call).1.book.rules := by
  have hpass (cut : Bool) (knowledge : Knowledge) :=
    dispatcher.engine.grows_attemptAll cut dispatcher.book.rules knowledge dispatcher.book
  cases call with
  | addRule rule =>
    have hrule := dispatcher.book.grows_addition rule
    unfold RuleBook.afterAddition at hrule
    simp only [additions, perform, addRule] at hrule ⊢
    cases hadd : dispatcher.book.addRule rule <;> simpa only [hadd, Except.map] using hrule
  | configure engine => exact .nil _
  | dispatch knowledge =>
    have hbook := (dispatcher.engine.agrees_firstMatch dispatcher.book.rules knowledge
      dispatcher.book).book
    simp only [perform, Dispatcher.dispatch, hbook]
    exact hpass true knowledge
  | dispatchAll knowledge => exact hpass false knowledge
  | run mode knowledge => exact hpass _ knowledge

/-- The trace of a call is that of its attempts. -/
lemma notices_perform (dispatcher : Dispatcher) (call : Call) :
    (dispatcher.perform call).2 =
      (dispatcher.attempts call).flatMap fun attempt => attempt.outcome.notices := by
  have hpass (cut : Bool) (knowledge : Knowledge) :=
    dispatcher.engine.notices_attemptAll cut dispatcher.book.rules knowledge dispatcher.book
  cases call with
  | addRule rule =>
    simp only [perform]
    cases dispatcher.addRule rule <;> rfl
  | configure engine => rfl
  | dispatch knowledge =>
    have hnotices := (dispatcher.engine.agrees_firstMatch dispatcher.book.rules knowledge
      dispatcher.book).notices
    simp only [perform, Dispatcher.dispatch, hnotices]
    exact hpass true knowledge
  | dispatchAll knowledge => exact hpass false knowledge
  | run mode knowledge => exact hpass _ knowledge

/-- What a call attempts are the first of the rules that were there when it began, in order. -/
lemma attempts_perform (dispatcher : Dispatcher) (call : Call) :
    (dispatcher.attempts call).map Attempt.rule <+: dispatcher.book.rules := by
  unfold attempts
  cases call.pass? with
  | none => exact List.nil_prefix
  | some pass => exact dispatcher.engine.map_rule_attempts ..

/-! ## Several calls -/

/-- What happens in a call. -/
structure Episode where
  /-- The rules when the call begins. -/
  before : List Rule
  attempts : List Attempt
  /-- The calls that add a rule, from outside and by actions on the way. -/
  additions : List Addition
  notices : List Notice
  /-- The rules when the call is over. -/
  after : List Rule

/-- What happens in a call of a dispatcher. -/
def episode (dispatcher : Dispatcher) (call : Call) : Episode :=
  let (later, notices) := dispatcher.perform call
  ⟨dispatcher.book.rules, dispatcher.attempts call, dispatcher.additions call, notices,
    later.book.rules⟩

/-- What happens in calls one after another. -/
def history : Dispatcher → List Call → List Episode
  | _, [] => []
  | dispatcher, call :: rest =>
    dispatcher.episode call :: history (dispatcher.perform call).1 rest

/-- The dispatcher behind calls one after another. -/
def performCalls (dispatcher : Dispatcher) (calls : List Call) : Dispatcher :=
  calls.foldl (fun dispatcher call => (dispatcher.perform call).1) dispatcher

/-- The calls that add a rule, in all of some episodes. -/
def allAdditions (episodes : List Episode) : List Addition := episodes.flatMap Episode.additions

/-- The rules of a dispatcher grow through calls one after another.

**Proof sketch.** Induction on the calls. -/
theorem grows_performCalls (dispatcher : Dispatcher) (calls : List Call) :
    Grows dispatcher.book.rules (allAdditions (dispatcher.history calls))
      (dispatcher.performCalls calls).book.rules := by
  induction calls generalizing dispatcher with
  | nil => exact .nil _
  | cons call rest ih => exact (dispatcher.grows_perform call).append (ih _)

/-- Every episode is what happens in some call, behind the calls of the episodes before it. -/
lemma exists_of_history {dispatcher : Dispatcher} {calls : List Call} {past future : List Episode}
    {episode : Episode} (h : dispatcher.history calls = past ++ episode :: future) :
    ∃ earlier call later, past = dispatcher.history earlier ∧
      episode = (dispatcher.performCalls earlier).episode call ∧
      future = ((dispatcher.performCalls earlier).perform call).1.history later ∧
      dispatcher.performCalls calls =
        ((dispatcher.performCalls earlier).perform call).1.performCalls later := by
  induction past generalizing dispatcher calls with
  | nil =>
    cases calls with
    | nil => cases h
    | cons call rest =>
      obtain ⟨hepisode, hfuture⟩ := List.cons.inj h
      exact ⟨[], call, rest, rfl, hepisode.symm, hfuture.symm, rfl⟩
  | cons first past ih =>
    cases calls with
    | nil => cases h
    | cons call rest =>
      obtain ⟨hfirst, hrest⟩ := List.cons.inj h
      obtain ⟨earlier, call', later, hpast, hepisode, hfuture, hfinal⟩ := ih hrest
      exact ⟨call :: earlier, call', later, by rw [hpast, ← hfirst]; rfl, hepisode, hfuture, hfinal⟩

/-- How an episode stands among those before it and those behind it, from the rules at the beginning
to the rules at the end. -/
structure Episode.Stands (initial : List Rule) (past : List Episode) (episode : Episode)
    (future : List Episode) (final : List Rule) : Prop where
  /-- It begins with what the episodes before it have made of the rules. -/
  past : Grows initial (allAdditions past) episode.before
  /-- The rules grow through its own additions. -/
  grows : Grows episode.before episode.additions episode.after
  /-- It ends with what the episodes behind it start from. -/
  future : Grows episode.after (allAdditions future) final
  /-- Its attempts are those that leave its trace. -/
  trace : episode.notices = episode.attempts.flatMap fun attempt => attempt.outcome.notices
  /-- It attempts the first of the rules that were there when it began, in order. -/
  attempted : episode.attempts.map Attempt.rule <+: episode.before

/-- Every episode stands among the others. -/
lemma stands_of_history {dispatcher : Dispatcher} {calls : List Call} {past future : List Episode}
    {episode : Episode} (h : dispatcher.history calls = past ++ episode :: future) :
    episode.Stands dispatcher.book.rules past future
      (dispatcher.performCalls calls).book.rules := by
  obtain ⟨earlier, call, later, rfl, rfl, rfl, hfinal⟩ := exists_of_history h
  rw [hfinal]
  exact ⟨grows_performCalls _ _, grows_perform _ _, grows_performCalls _ _, notices_perform _ _,
    attempts_perform _ _⟩

/-- What an episode attempts are no rules that are added in it or later. -/
lemma Episode.Stands.not_attempted {initial final : List Rule} {past future : List Episode}
    {episode : Episode} (h : episode.Stands initial past future final) {rule : Rule}
    (hrule : ⟨rule, none⟩ ∈ allAdditions (episode :: future)) :
    ∀ attempt ∈ episode.attempts, attempt.rule.name ≠ rule.name := by
  intro attempt hattempt hname
  have hmem : attempt.rule ∈ episode.before := h.attempted.subset (List.mem_map_of_mem hattempt)
  exact (h.grows.append h.future).name_notMem hrule (hname ▸ List.mem_map_of_mem hmem)

/-- What has been added before an episode is there when it begins. -/
lemma Episode.Stands.mem_before {initial final : List Rule} {past future : List Episode}
    {episode : Episode} (h : episode.Stands initial past future final) {rule : Rule}
    (hrule : ⟨rule, none⟩ ∈ allAdditions past) : rule ∈ episode.before :=
  h.past.mem_iff.2 (.inr hrule)

/-- **The rules of a dispatcher over any number of calls**, which add rules, set what attempts need
to know, and dispatch in any mode, while actions on the way may add rules as well.  Every call
attempts the first of the rules that are there when it begins; and its rules grow, as a rule with a
new name is appended, and a rule whose name is taken is refused and changes nothing.  Between any
two additions, names are distinct, the rules of the beginning are in front, and the rules are the
first of those at the end.  A rule that is added in a call is attempted neither in it nor before,
and is there when every later one begins.  Under a name there is exactly the rule that has it and
has been there from the beginning or has been added.

**Proof sketch.** The rules grow through every call, so they grow through all of them, and growth
can be split anywhere.  A rule is added only under a new name, while what is attempted was there
when the call began. -/
theorem rules_grow (dispatcher : Dispatcher) (calls : List Call) :
    let initial := dispatcher.book.rules
    let final := dispatcher.performCalls calls
    (∀ past episode future, dispatcher.history calls = past ++ episode :: future →
      episode.Stands initial past future final.book.rules) ∧
    (∀ made rest, allAdditions (dispatcher.history calls) = made ++ rest →
      ∃ rules, Grows initial made rules ∧ Grows rules rest final.book.rules ∧
        (rules.map Rule.name).Nodup ∧ initial <+: rules ∧ rules <+: final.book.rules) ∧
    (∀ past episode future rule, dispatcher.history calls = past ++ episode :: future →
      ⟨rule, none⟩ ∈ episode.additions →
      (∀ earlier ∈ past ++ [episode], ∀ attempt ∈ earlier.attempts,
        attempt.rule.name ≠ rule.name) ∧
      ∀ later ∈ future, rule ∈ later.before) ∧
    ∀ name rule, final.book.find? name = some rule ↔
      rule.name = name ∧
        (rule ∈ initial ∨ ⟨rule, none⟩ ∈ allAdditions (dispatcher.history calls)) := by
  have hgrows := dispatcher.grows_performCalls calls
  refine ⟨fun past episode future h => stands_of_history h, ?_, ?_, fun name rule => ?_⟩
  -- any number of additions, which need not end with a call
  · intro made rest hadditions
    rw [hadditions] at hgrows
    obtain ⟨rules, hmade, hrest⟩ := hgrows.split
    exact ⟨rules, hmade, hrest, hmade.nodup dispatcher.book.distinct, hmade.isPrefix,
      hrest.isPrefix⟩
  -- a rule that is added in a call, as the calls before it and behind it see it
  · intro past episode future rule h hrule
    refine ⟨fun earlier hearlier => ?_, fun later hlater => ?_⟩
    · rcases List.mem_append.1 hearlier with hpast | hsame
      · obtain ⟨before, between, rfl⟩ := List.append_of_mem hpast
        have hstands : earlier.Stands _ before (between ++ episode :: future) _ :=
          stands_of_history (by rw [h, List.append_assoc, List.cons_append])
        exact hstands.not_attempted (List.mem_flatMap.2 ⟨episode, by simp, hrule⟩)
      · obtain rfl := List.mem_singleton.1 hsame
        exact (stands_of_history h).not_attempted (List.mem_append_left _ hrule)
    · obtain ⟨between, after, rfl⟩ := List.append_of_mem hlater
      have hstands : later.Stands _ (past ++ episode :: between) after _ :=
        stands_of_history (by rw [h, List.append_assoc, List.cons_append])
      exact hstands.mem_before (List.mem_flatMap.2 ⟨episode, by simp, hrule⟩)
  · rw [RuleBook.find?_eq_some, hgrows.mem_iff]

/-- A dispatch in the hall adds a rule on the way, which is not attempted; the rule is refused when
it is added again, and it is the one that has its name. -/
theorem rules_grow_hall :
    let calls : List Call := [.dispatch visit, .addRule (greetRule "next"), .run .all visit]
    allAdditions (hall.history calls) = [⟨greetRule "next", none⟩,
      ⟨greetRule "next", some (.duplicateRule "next")⟩,
      ⟨greetRule "next", some (.duplicateRule "next")⟩,
      ⟨greetRule "next", some (.duplicateRule "next")⟩,
      ⟨greetRule "next", some (.duplicateRule "next")⟩] ∧
    (∀ attempt ∈ (hall.episode (.dispatch visit)).attempts, attempt.rule.name ≠ "next") ∧
    (hall.performCalls calls).book.find? "next" = some (greetRule "next") := by
  intro calls
  have hadditions : allAdditions (hall.history calls) = [⟨greetRule "next", none⟩,
      ⟨greetRule "next", some (.duplicateRule "next")⟩,
      ⟨greetRule "next", some (.duplicateRule "next")⟩,
      ⟨greetRule "next", some (.duplicateRule "next")⟩,
      ⟨greetRule "next", some (.duplicateRule "next")⟩] := rfl
  obtain ⟨-, -, hlater, hfind⟩ := rules_grow hall calls
  have hfirst : ⟨greetRule "next", none⟩ ∈ (hall.episode (.dispatch visit)).additions :=
    List.mem_singleton_self _
  refine ⟨hadditions, ?_, (hfind "next" _).2 ⟨rfl, .inr ?_⟩⟩
  · exact (hlater [] _ _ _ rfl hfirst).1 _ (List.mem_singleton_self _)
  · rw [hadditions]
    exact List.mem_cons_self

end Dispatcher

end RequestRouting
