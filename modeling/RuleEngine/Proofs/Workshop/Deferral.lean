import RuleEngine.Proofs.Rule.Arguments
import RuleEngine.Proofs.Rule.Fire
import RuleEngine.Proofs.Workshop.Orders

/-!
# Deferred builds

A deferred consequence cannot be told from one that was built at once under the same name, but for
whether it is built.  Its name is drawn when it is ordered, and nothing that is asked of it later
draws another one.

Between two orders it stands on the shelf in one of two states, as it was ordered or as forcing it
leaves it.  Forcing comes to the same in both, and so does every call.
-/

namespace RuleEngine

/-! ## What a build answers -/

namespace Fireable.Call

/-- Whether a call needs what it calls to be built.  A firing does not get that far when the memory
of the session is out of order. -/
def builds : Call → Bool
  | .fire _ id w => !(w.session id).broken
  | _ => true

/-- The answer to a call of what a build came to.  A consequence that was built answers for itself.
A build that failed is reported and nothing else happens; memory that is out of order is reported
first, as it is in any firing. -/
def answerOf (outcome : Except Error Consequence) (call : Call) : Answer :=
  match outcome with
  | .ok c => ((ready c).answer call).1
  | .error e =>
    match call with
    | .force => .forced (.error e)
    | .evaluate _ s => .evaluated (.error e) s
    | .fire _ id w =>
      .fired ⟨.error (if (w.session id).broken then Session.brokenError else e), w, []⟩

end Fireable.Call

namespace Consequence

/-- A build never looks at the body of the action, which it only passes on. -/
theorem build_of_body (settings : Settings) (name : String) (source : RuleSource)
    (body : List Value → Program Unit) :
    build settings name { source with action := { source.action with body } } =
      (build settings name source).map fun c => { c with action := { c.action with body } } := by
  rcases source with ⟨rule, declarations, types, owner, method, signature, unused⟩
  dsimp only [build]
  cases Plan.ofDeclarations declarations (rule.rootDepthFor declarations) with
  | error e => rfl
  | ok plan =>
      cases Rule.withTypes types rule.globals with
      | error e => rfl
      | ok globals =>
          cases settings.checkParameters with
          | false => rfl
          | true =>
              cases verified : (Layout.ofPlan plan globals).verify signature with
              | error e =>
                  simp only [if_true, bind, Except.bind, verified]
                  rfl
              | ok _ =>
                  simp only [if_true, bind, Except.bind, verified]
                  rfl

end Consequence

/-! ## Forcing -/

namespace Deferred

variable {d : Deferred} {c : Consequence} {needed : Bool}

/-- Forcing twice is forcing once: a consequence that was built is kept, and a build that failed
fails again. -/
theorem force_force (d : Deferred) : d.force.2.force = d.force := by
  rcases d with ⟨name, settings, source, built | c⟩
  · cases built : Consequence.build settings name source with
    | ok c => simp only [force, built]
    | error e => simp only [force, built]
  · rfl

theorem force_of_unbuilt (unbuilt : d.built = none) :
    d.force.1 = Consequence.build d.settings d.name d.source := by
  simp only [force, unbuilt]
  cases Consequence.build d.settings d.name d.source <;> rfl

/-- A deferred consequence once it was needed, or as it is while it was not. -/
def after (d : Deferred) (needed : Bool) : Deferred :=
  if needed then d.force.2 else d

@[simp] theorem force_after (d : Deferred) (needed : Bool) : (d.after needed).force = d.force := by
  cases needed with
  | true => exact d.force_force
  | false => rfl

theorem after_after (d : Deferred) (needed later : Bool) :
    (d.after needed).after later = d.after (needed || later) := by
  cases later with
  | true => cases needed <;> simp [after, force_force]
  | false => simp [after]

@[simp] theorem name_after (d : Deferred) (needed : Bool) : (d.after needed).name = d.name := by
  cases needed with
  | true => exact (Fireable.deferred d).name_force
  | false => rfl

theorem isBuilt_after (unbuilt : d.built = none) :
    (d.after needed).isBuilt = true ↔ needed = true ∧ ∃ c, d.force.1 = .ok c := by
  cases needed with
  | false => simp [after, isBuilt, unbuilt]
  | true =>
      cases built : Consequence.build d.settings d.name d.source <;>
        simp [after, isBuilt, force, unbuilt, built]

end Deferred

/-! ## Calls -/

namespace Fireable

variable {d : Deferred} {c : Consequence} {e : Error}

theorem executable_of_forced (forced : d.force.1 = .ok c) (named : c.name = d.name) :
    (deferred d).executable = (ready c).executable := by
  simp only [executable, force, forced, name, named]

theorem run_of_unforced (forced : d.force.1 = .error e) (firing : Firing) (s : Progress) :
    (deferred d).executable.evaluate firing s = (.error e, s) := by
  simp only [executable, force, forced, Executable.evaluate, Program.run]

theorem answer_of_forced (forced : d.force.1 = .ok c) (named : c.name = d.name) (call : Call) :
    ((deferred d).answer call).1 = ((ready c).answer call).1 := by
  have same := executable_of_forced forced named
  cases call with
  | force => exact congrArg Answer.forced forced
  | evaluate firing s => simp only [answer, evaluate, same]
  | fire chain id w => simp only [answer, fire, same]

theorem answer_of_unforced (forced : d.force.1 = .error e) (call : Call) :
    ((deferred d).answer call).1 = call.answerOf (.error e) := by
  cases call with
  | force => exact congrArg Answer.forced forced
  | evaluate firing s => simp only [Call.answerOf, answer, evaluate, run_of_unforced forced]
  | fire chain id w =>
      cases broken : (w.session id).broken with
      | true =>
          have ended := Executable.fire_of_broken (deferred d).executable chain broken
          simp only [Call.answerOf, answer, fire, ended, broken, if_true]
      | false =>
          have failed := run_of_unforced forced (w.firing chain id) (.start w)
          have ended := Executable.fire_of_error broken failed
          simp [Call.answerOf, answer, fire, ended, broken, Progress.start]

theorem kept_answer (d : Deferred) (call : Call) :
    ((deferred d).answer call).2 = .deferred (d.after call.builds) := by
  cases call with
  | force => rfl
  | evaluate firing s => rfl
  | fire chain id w =>
      cases broken : (w.session id).broken <;>
        simp [answer, fire, Session.readMemory, Call.builds, Deferred.after, force, broken]

/-- A call of a deferred consequence is answered by what its build comes to, whether it was needed
before or not, and builds it if need be. -/
theorem answer_deferred (named : ∀ c, d.force.1 = .ok c → c.name = d.name) (needed : Bool)
    (call : Call) :
    (deferred (d.after needed)).answer call =
      (call.answerOf d.force.1, .deferred (d.after (needed || call.builds))) := by
  refine Prod.ext ?_ ?_
  · have same : (d.after needed).force.1 = d.force.1 := congrArg Prod.fst (d.force_after needed)
    cases forced : d.force.1 with
    | ok c =>
        have kept : c.name = (d.after needed).name := (named c forced).trans (d.name_after needed).symm
        exact answer_of_forced (same.trans forced) kept call
    | error e => exact answer_of_unforced (same.trans forced) call
  · rw [kept_answer, Deferred.after_after]

end Fireable

/-! ## On the shelf -/

/-- Whether an order needs what stands at a place to be built. -/
def Order.builds (place : Nat) : Order → Bool
  | .job _ => false
  | .call called asked => decide (called = place) && asked.builds

theorem Order.any_builds_iff {orders : List Order} {place : Nat} :
    orders.any (Order.builds place) = true ↔
      ∃ call, Order.call place call ∈ orders ∧ call.builds = true := by
  constructor
  · intro needed
    rcases List.any_eq_true.1 needed with ⟨_ | ⟨called, call⟩, ordered, builds⟩
    · cases builds
    · have ⟨same, builds⟩ : called = place ∧ call.builds = true := by simpa [Order.builds] using builds
      exact ⟨call, same ▸ ordered, builds⟩
  · rintro ⟨call, ordered, builds⟩
    exact List.any_eq_true.2 ⟨_, ordered, by simp [Order.builds, builds]⟩

namespace Workshop

variable {w : Workshop} {d : Deferred} {place : Nat} {needed : Bool}

/-- An order leaves a deferred consequence deferred, and builds it only if it needs it. -/
theorem standing_take (named : ∀ c, d.force.1 = .ok c → c.name = d.name)
    (standing : w.at? place = some (.deferred (d.after needed))) (o : Order) :
    (w.take o).2.at? place = some (.deferred (d.after (needed || o.builds place))) := by
  cases o with
  | job j =>
      have inside : place ≠ w.shelf.length := by
        rintro rfl
        simp [at?_of_beyond] at standing
      simp [at?_take_job, inside, standing, Order.builds]
  | call called call =>
      rw [at?_take_call, standing]
      split
      · rename_i same
        simp [Fireable.answer_deferred named, same, Order.builds]
      · rename_i other
        simp [Order.builds, Ne.symm other]

theorem standing_takeAll (named : ∀ c, d.force.1 = .ok c → c.name = d.name)
    (standing : w.at? place = some (.deferred (d.after needed))) (orders : List Order) :
    (w.takeAll orders).2.at? place =
      some (.deferred (d.after (needed || orders.any (Order.builds place)))) := by
  induction orders generalizing w needed with
  | nil => simpa [takeAll] using standing
  | cons o rest ih =>
      have later := ih (standing_take named standing o)
      simpa [takeAll, Bool.or_assoc] using later

theorem reply_of_standing (named : ∀ c, d.force.1 = .ok c → c.name = d.name)
    (standing : w.at? place = some (.deferred (d.after needed))) (call : Fireable.Call) :
    (w.take (.call place call)).1 = .answered (some (call.answerOf d.force.1)) := by
  simp [take, standing, Fireable.answer_deferred named]

/-- A deferred consequence stands for what the build under its name comes to.  After it was ordered,
and whatever else is ordered of the workshop in between,

* every call of it is answered as the outcome of that build answers it;
* it is deferred under the name that was drawn for it, and is built exactly when the build succeeds
  and a call needed it;
* when the build succeeds, its consequence has that name;
* when the build fails, it names the rule and the name, and fails alike whatever the body of the
  action is, which thus is never run;
* each token goes to an order that draws one, and a call is none of them. -/
theorem deferred_answers_as_built (w : Workshop) (settings : Settings) (source : RuleSource)
    (orders : List Order) :
    let place := w.shelf.length
    let name := (Consequence.drawName settings source.rule w.tokens).1
    let outcome := Consequence.build settings name source
    let ordered := (w.take (.job (.defer settings source))).2
    let run := ordered.takeAll orders
    (∀ (i : Nat) call, orders[i]? = some (.call place call) →
      run.1[i]? = some (.answered (some (call.answerOf outcome)))) ∧
    (∃ d, run.2.at? place = some (.deferred d) ∧ d.name = name ∧
      (d.isBuilt = true ↔
        (∃ c, outcome = .ok c) ∧ ∃ call, Order.call place call ∈ orders ∧ call.builds = true)) ∧
    (∀ c, outcome = .ok c → c.name = name) ∧
    (∀ e, outcome = .error e →
      e.context = some { rule := some source.rule.name, artifact := some name } ∧
        ∀ body, Consequence.build settings name
          { source with action := { source.action with body } } = .error e) ∧
    run.2.tokens = (ordered.tokens.drawMany (orders.countP Order.draws)).2 := by
  intro place name outcome ordered run
  let d : Deferred := ⟨name, settings, source, none⟩
  have forced : d.force.1 = outcome := Deferred.force_of_unbuilt rfl
  have named : ∀ c, d.force.1 = .ok c → c.name = d.name := fun c built =>
    (Consequence.names_of_build (forced.symm.trans built)).1
  have standing : ordered.at? place = some (.deferred (d.after false)) :=
    (at?_take_job w (.defer settings source) place).trans (if_pos rfl)
  refine ⟨?_, ?_, ?_, ?_, ?_⟩
  · intro i call asked
    have earlier := standing_takeAll named standing (orders.take i)
    rw [reply_takeAll, asked, Option.map_some, reply_of_standing named earlier, forced]
  · refine ⟨_, standing_takeAll named standing orders, d.name_after _, ?_⟩
    rw [Deferred.isBuilt_after rfl, Bool.false_or, Order.any_builds_iff, forced, and_comm]
  · exact fun c built => (Consequence.names_of_build built).1
  · intro e failed
    refine ⟨Consequence.context_of_build_error failed, fun body => ?_⟩
    exact (Consequence.build_of_body settings name source body).trans
      (Except.map_eq_error_iff.2 failed)
  · exact tokens_takeAll ordered orders

/-- A rule that reads globals and does nothing; there are none to read. -/
def reader (globals : List String) : RuleSource where
  rule := ⟨"reader", "", none, globals⟩
  declarations := []
  types := .empty
  action := ⟨"Rules", "consequence", [], fun _ => .done ()⟩

/-- An evaluation, and then a call to build. -/
def twoCalls : List Order :=
  [.call 0 (.evaluate ⟨⟨[]⟩, .empty, default⟩ (.start .empty)), .call 0 .force]

/-- The replies to the two calls of a reader, which was deferred. -/
def readerReplies (globals : List String) : List Reply × Workshop :=
  ((opened (.seeded 7 0)).take (.job (.defer {} (reader globals)))).2.takeAll twoCalls

theorem readers_deferred :
    (∃ c d, (readerReplies []).1[1]? = some (.answered (some (.forced (.ok c)))) ∧
      (readerReplies []).2.at? 0 = some (.deferred d) ∧ d.isBuilt = true ∧ c.name = d.name) ∧
    (∃ e, e.cause = .unresolvedGlobal "limit" ∧
      (readerReplies ["limit"]).1[0]? =
        some (.answered (some (.evaluated (.error e) (.start .empty)))) ∧
      (readerReplies ["limit"]).1[1]? = some (.answered (some (.forced (.error e)))) ∧
      e.context.isSome = true) := by
  constructor
  · rcases deferred_answers_as_built (opened (.seeded 7 0)) {} (reader []) twoCalls with
      ⟨replies, ⟨d, standing, named, built⟩, same, -⟩
    refine ⟨_, d, replies 1 .force rfl, standing, built.2 ⟨⟨_, rfl⟩, .force, ?_, rfl⟩, ?_⟩
    · exact List.mem_cons_of_mem _ (List.mem_singleton_self _)
    · exact (same _ rfl).trans named.symm
  · rcases deferred_answers_as_built (opened (.seeded 7 0)) {} (reader ["limit"]) twoCalls with
      ⟨replies, -, -, failed, -⟩
    refine ⟨_, rfl, replies 0 _ rfl, replies 1 .force rfl, ?_⟩
    rw [(failed _ rfl).1]
    rfl

end Workshop

end RuleEngine
