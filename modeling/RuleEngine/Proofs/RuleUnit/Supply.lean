import RuleEngine.Proofs.RuleUnit.Binding
import RuleEngine.Proofs.Rule.Evaluation
import RuleEngine.Proofs.World.Runs

/-!
# Bound units supply their rules

A rule of a unit is built against the types that the unit declares for its globals, and it reads those
globals in every firing.  Three tables must agree for that: the types that the rule was built with, the
types by which the session checks values, and the statements that bind the variables of the unit.

Binding sets a global for each variable.  From then on the global has a value of its declared type,
whatever is asked of the world later, because no step of a session takes it away.  So the engine never
misses a global for a rule, and what the evaluation can still fail with is its declarations and its
action.  These may fail as they like, also with the very error of a global that is missing: an action
sees all globals of the session, and nobody declares which of them it asks for.
-/

namespace RuleEngine

/-! ## Errors of globals -/

namespace Error

/-- An error speaks of a global: one is missing, or a value does not fit, in a step that is named for a
global. -/
def BlamesGlobal (e : Error) : Prop :=
  (∃ name, e.cause = .missingGlobal name) ∨
    (∃ expected actual, e.cause = .typeMismatch expected actual) ∧
      ∃ name, "global " ++ name ∈ (e.context.getD {}).stack

theorem blamesGlobal_inArtifact_iff {e : Error} {rule artifact : String} :
    (e.inArtifact rule artifact).BlamesGlobal ↔ e.BlamesGlobal :=
  Iff.rfl

/-- The step of a declaration is not that of a global. -/
theorem blamesGlobal_inStep_resolve_iff {e : Error} {name : String} :
    (e.inStep ("resolve " ++ name)).BlamesGlobal ↔ e.BlamesGlobal := by
  have other : ∀ global, "global " ++ global ≠ "resolve " ++ name := by
    intro global same
    have first := congrArg (·.toList.head?) same
    simp [String.toList_append] at first
  refine or_congr_right (and_congr_right fun _ => exists_congr fun global => ?_)
  show _ ∈ _ ++ [_] ↔ _
  rw [List.mem_append, List.mem_singleton]
  exact or_iff_left (other global)

end Error

namespace Declaration

variable {chain : Chain} {memory : WorkingMemory} {d : Declaration} {e : Error}

/-- The extractor of a declaration fails at the node of the declaration with an error that speaks of a
global. -/
def ExtractorBlamesGlobal (chain : Chain) (memory : WorkingMemory) (d : Declaration) (e : Error) :
    Prop :=
  ∃ node x, chain.node? d.depth = some node ∧ d.extractor? = some x ∧
    x.extract node.object memory = .error e ∧ e.BlamesGlobal

/-- A declaration fails with an error that speaks of a global only when its extractor does. -/
theorem extractor_of_blamesGlobal (failed : d.bindAlone chain memory = .error e) (blames : e.BlamesGlobal) :
    ∃ e', d.ExtractorBlamesGlobal chain memory e' ∧ e = e'.inStep ("resolve " ++ d.name) := by
  cases reached : chain.node? d.depth with
  | none =>
      rw [bindAlone_of_missed reached, Except.error.injEq] at failed
      subst failed
      rcases blames with ⟨_, missing⟩ | ⟨⟨_, _, mismatch⟩, _⟩
      · cases missing
      · cases mismatch
  | some node =>
      rw [bindAlone_of_node reached] at failed
      rcases error_of_resolve failed with ⟨v, rfl⟩ | ⟨x, e', extractor, extracting, rfl⟩
      · rcases Error.blamesGlobal_inStep_resolve_iff.1 blames with ⟨_, missing⟩ | ⟨_, _, step⟩
        · cases missing
        · cases step
      · have blames' := Error.blamesGlobal_inStep_resolve_iff.1 blames
        exact ⟨e', ⟨node, x, reached, extractor, extracting, blames'⟩, rfl⟩

end Declaration

/-! ## Units -/

theorem UnitDescription.setGlobal_mem_wirings {d : UnitDescription} {name : String} {type : Ty}
    (declared : d.globalTypes.find? name = some type) :
    ∃ getter, Wiring.setGlobal name getter ∈ d.wirings := by
  rcases List.mem_map.1 (Table.mem_of_find?_ofList declared) with ⟨v, listed, same⟩
  cases same
  refine ⟨v.getter, List.mem_flatMap.2 ⟨v, listed, ?_⟩⟩
  exact List.mem_append_right _ (List.mem_singleton.2 rfl)

theorem GeneratedUnit.statements_of_build {settings : Settings} {catalog : Catalog}
    {d : UnitDescription} {token : UInt64} {unit : GeneratedUnit}
    (built : build settings catalog d token = .ok unit) : unit.instances.statements = d.wirings := by
  rcases Except.bind_eq_ok_iff.1 built with ⟨instances, -, built⟩
  rcases Except.bind_eq_ok_iff.1 built with ⟨shape, -, built⟩
  cases built
  rfl

theorem Wiring.prepared_of_setGlobal {data : UnitData} {g : Globals} {statements : List Wiring}
    {prepared : List PreparedWiring} {name getter : String}
    (done : prepareAll data g statements = .ok prepared)
    (named : .setGlobal name getter ∈ statements) : ∃ v, .setGlobal name v ∈ prepared := by
  induction statements generalizing prepared with
  | nil => cases named
  | cons b rest ih =>
      rcases prepareAll_cons_eq_ok_iff.1 done with ⟨p, later, first, hlater, rfl⟩
      rcases List.mem_cons.1 named with rfl | named
      · rcases Except.bind_eq_ok_iff.1 first with ⟨v, -, first⟩
        rcases Except.bind_eq_ok_iff.1 first with ⟨_, -, same⟩
        cases same
        exact ⟨v, List.mem_cons_self⟩
      · rcases ih hlater named with ⟨v, there⟩
        exact ⟨v, List.mem_cons_of_mem _ there⟩

/-! ## Sessions -/

namespace World

variable {w w' : World} {id : SessionId} {name getter : String}

/-- Statements that are all executed leave a value for each global that they set. -/
theorem offers_of_wire {statements : List Wiring} {data : UnitData}
    (wired : w.wire statements data id = (w', none)) (known : w.Knows id)
    (named : .setGlobal name getter ∈ statements) : (w'.session id).globals.Offers name := by
  have known' : w'.Knows id := by
    have adds := Adds.wire w statements data id
    rw [wired] at adds
    exact Nat.lt_of_lt_of_eq known adds.length_eq.symm
  unfold wire at wired
  split at wired
  · rename_i prepared done
    rcases Wiring.prepared_of_setGlobal done named with ⟨v, there⟩
    refine eachUntilError_establishes (P := fun w => w.Knows id → (w.session id).globals.Offers name)
      there ?_ ?_ wired known'
    -- the statement that sets the global gives it a value
    · intro u success known
      rw [applyWiring] at success known ⊢
      split
      · rename_i s set
        rw [set] at known
        have here : u.Knows id := Nat.lt_of_lt_of_eq known (length_setSession u id s)
        rw [session_setSession_self here]
        exact Session.offers_of_setGlobal set
      · rename_i e refused
        rw [refused] at success
        cases success
    -- the other statements only add to the session
    · intro u p offers known
      have adds := Adds.applyWiring u id p
      have here : u.Knows id := Nat.lt_of_lt_of_eq known adds.length_eq
      exact (adds.additions id).steps.offers (offers here)
  · cases wired

end World

/-! ## Rules -/

namespace Consequence

variable {globals : Globals} {typed : List (String × Ty)}

theorem globalArguments_of_offers
    (offers : ∀ g ∈ typed, ∃ v, globals.require g.1 = .ok v ∧ v.fits g.2 = true) :
    ∃ vs, globalArguments globals typed = .ok vs := by
  induction typed with
  | nil => exact ⟨[], rfl⟩
  | cons g rest ih =>
      rcases offers g List.mem_cons_self with ⟨v, required, fits⟩
      rcases ih fun g' there => offers g' (List.mem_cons_of_mem _ there) with ⟨later, hlater⟩
      refine ⟨v :: later, Except.bind_eq_ok_iff.2 ⟨v, required, ?_⟩⟩
      rw [if_pos fits, hlater]
      rfl

end Consequence

/-! ## Rules of a bound unit -/

namespace World

variable {w : World} {id : SessionId} {d : UnitDescription} {unit : GeneratedUnit} {data : UnitData}

theorem wire_of_instantiate {i : UnitInstance} (bound : (w.instantiate unit data id).1 = .ok i) :
    w.wire unit.instances.statements data id = ((w.instantiate unit data id).2, none) := by
  unfold instantiate at bound ⊢
  rcases outcome : w.wire unit.instances.statements data id with ⟨w', _ | e⟩
  · rfl
  · rw [outcome] at bound
    cases bound

/-- However the world goes on after a unit was bound, the globals of the unit have values of their
types. -/
theorem fits_after_instantiate {settings : Settings} {catalog : Catalog} {token : UInt64}
    (built : GeneratedUnit.build settings catalog d token = .ok unit) (known : w.Knows id)
    (typed : (w.session id).globals.types = d.globalTypes) {i : UnitInstance}
    (bound : (w.instantiate unit data id).1 = .ok i) (later : List Request) {name : String}
    {type : Ty} (declared : d.globalTypes.find? name = some type) :
    ∃ v, ((later.foldl perform (w.instantiate unit data id).2).session id).globals.require name =
      .ok v ∧ v.fits type = true := by
  have wired := wire_of_instantiate bound
  rcases UnitDescription.setGlobal_mem_wirings declared with ⟨getter, named⟩
  rw [← GeneratedUnit.statements_of_build built] at named
  have offers := offers_of_wire wired known named
  -- binding and whatever comes later are steps of the session, which keep the types
  have adds := Adds.wire w unit.instances.statements data id
  rw [wired] at adds
  have known' := adds.advances.knows known
  have after := (Advances.performAll (w.instantiate unit data id).2 later).steps id known'
  have types := after.types_eq.trans ((adds.additions id).steps.types_eq.trans typed)
  rcases after.offers offers with ⟨v, found, fits⟩
  exact ⟨v, Globals.require_of_find? found, fits type (by rw [types]; exact declared)⟩

/-- Take a unit that was built and bound to a session with the types of its globals, and a rule that
was built against these types.  However the world goes on, a firing of the rule finds a value of its
type for every global of the unit, and for each global that the rule reads.  The arguments of the rule
then fail only as one of its declarations does, which is never for want of a global or for the type of
one, unless an extractor says so itself; and the evaluation fails only with the arguments, or as the
action does once it has them all.  So it never fails with an error that speaks of a global, unless the
action, or an extractor of the rule, itself fails with such an error. -/
theorem instantiate_supplies_rules (settings : Settings) (catalog : Catalog) (d : UnitDescription)
    (token : UInt64) (unit : GeneratedUnit)
    (built : GeneratedUnit.build settings catalog d token = .ok unit) (w : World) (id : SessionId)
    (known : w.Knows id) (typed : (w.session id).globals.types = d.globalTypes) (data : UnitData)
    (i : UnitInstance) (bound : (w.instantiate unit data id).1 = .ok i) (ruleSettings : Settings)
    (name : String) (source : RuleSource) (against : source.types = d.globalTypes) (c : Consequence)
    (compiled : Consequence.build ruleSettings name source = .ok c) (later : List Request)
    (chain : Chain) :
    let firing := (later.foldl perform (w.instantiate unit data id).2).firing chain id
    (∀ global type, d.globalTypes.find? global = some type →
      ∃ v, firing.globals.require global = .ok v ∧ v.fits type = true) ∧
    (∃ vs, Consequence.globalArguments firing.globals c.globals = .ok vs) ∧
    (∀ e, c.arguments firing = .error e →
      (∃ declaration ∈ source.declarations,
        declaration.bindAlone firing.chain firing.memory = .error e) ∧
      (∀ global, e ≠ (Cause.missingGlobal global : Error)) ∧
      (∀ global expected actual,
        e ≠ (Cause.typeMismatch expected actual : Error).inStep ("global " ++ global)) ∧
      ∀ global, e.cause = .missingGlobal global →
        ∃ declaration ∈ source.declarations,
          declaration.ExtractorFails firing.chain firing.memory (.missingGlobal global)) ∧
    (∀ s e s', c.executable.evaluate firing s = (.error e, s') →
      (∃ e', c.arguments firing = .error e' ∧ e = e'.inArtifact c.rule c.name) ∨
      (∃ args, c.arguments firing = .ok args ∧
        (c.action.body args).run firing s = (.error e, s'))) ∧
    ∀ s e s', c.executable.evaluate firing s = (.error e, s') → e.BlamesGlobal →
      (∃ args, c.arguments firing = .ok args ∧
        (c.action.body args).run firing s = (.error e, s')) ∨
      ∃ declaration ∈ source.declarations, ∃ e',
        declaration.ExtractorBlamesGlobal firing.chain firing.memory e' ∧
          e = (e'.inStep ("resolve " ++ declaration.name)).inArtifact c.rule c.name := by
  intro firing
  have from_source := Consequence.builtFrom_of_build compiled
  have offered : ∀ global type, d.globalTypes.find? global = some type →
      ∃ v, firing.globals.require global = .ok v ∧ v.fits type = true := by
    intro global type declared
    exact fits_after_instantiate built known typed bound later declared
  -- the globals of the rule are among those of the unit, with the same types
  have supplied : ∃ vs, Consequence.globalArguments firing.globals c.globals = .ok vs := by
    apply Consequence.globalArguments_of_offers
    intro g read
    have declared := (Rule.withTypes_eq_ok from_source.typed).2 g read
    exact offered g.1 g.2 (against ▸ declared)
  have origin : ∀ s e s', c.executable.evaluate firing s = (.error e, s') → _ :=
    fun s e s' failed => Consequence.origin_of_evaluate failed
  refine ⟨offered, supplied, ?_, origin, ?_⟩
  · intro e failed
    rcases Consequence.declaration_of_arguments from_source supplied failed with
      ⟨declaration, named, alone⟩
    have ⟨not_missing, not_mismatched⟩ := Declaration.not_of_global alone
    refine ⟨⟨declaration, named, alone⟩, not_missing, not_mismatched, ?_⟩
    intro global missing
    rcases Declaration.cause_of_bindAlone alone with ⟨max, deep⟩ | ⟨v, mismatch⟩ | extractor
    · cases missing.symm.trans deep
    · cases missing.symm.trans mismatch
    · exact ⟨declaration, named, missing ▸ extractor⟩
  · intro s e s' failed blames
    rcases origin s e s' failed with ⟨e', missed, rfl⟩ | by_action
    · rcases Consequence.declaration_of_arguments from_source supplied missed with
        ⟨declaration, named, alone⟩
      have blames' := Error.blamesGlobal_inArtifact_iff.1 blames
      rcases Declaration.extractor_of_blamesGlobal alone blames' with ⟨e'', extractor, rfl⟩
      exact Or.inr ⟨declaration, named, e'', extractor, rfl⟩
    · exact Or.inl by_action

/-- A rule that reads the limit. -/
def limitRule : RuleSource where
  rule := ⟨"check limit", "", none, ["limit"]⟩
  declarations := []
  types := orders.globalTypes
  action := ⟨"Rules", "check", [.int], fun _ => .done ()⟩

/-- A value that is refused for the limit, one that is taken, and another order. -/
def laterChanges : List Request :=
  [.setGlobal ⟨0⟩ "limit" .nil, .setGlobal ⟨0⟩ "limit" (.int 9), .publish ⟨0⟩ (.int 8)]

theorem limit_supplied :
    ∃ unit i c,
      GeneratedUnit.build {} Catalog.builtin orders 0 = .ok unit ∧
      ordersWorld.Knows ⟨0⟩ ∧ (ordersWorld.session ⟨0⟩).globals.types = orders.globalTypes ∧
      (ordersWorld.instantiate unit (ordersData (.int 5)) ⟨0⟩).1 = .ok i ∧
      limitRule.types = orders.globalTypes ∧
      Consequence.build {} "check" limitRule = .ok c ∧
      ∃ vs, Consequence.globalArguments
        ((laterChanges.foldl perform
          (ordersWorld.instantiate unit (ordersData (.int 5)) ⟨0⟩).2).firing default ⟨0⟩).globals
        c.globals = .ok vs := by
  refine ⟨_, _, _, rfl, by decide, rfl, rfl, rfl, rfl, ?_⟩
  exact (instantiate_supplies_rules {} Catalog.builtin orders 0 _ rfl ordersWorld ⟨0⟩ (by decide) rfl
    (ordersData (.int 5)) _ rfl {} "check" limitRule rfl _ rfl laterChanges default).2.1

/-- A rule whose action asks for a global that nobody has set. -/
def ghostRule : RuleSource where
  rule := ⟨"look for a ghost", "", none, ["limit"]⟩
  declarations := []
  types := orders.globalTypes
  action := ⟨"Rules", "look", [.int], fun _ => .look fun view =>
    (Program.ofExcept (view.globals.require "ghost")).andThen fun _ => .done ()⟩

def builtGhost : Consequence where
  name := "look"
  rule := "look for a ghost"
  plan := ⟨[], 0⟩
  globals := [("limit", .int)]
  layout := ⟨[.global "limit" .int], 0⟩
  action := ghostRule.action

/-- A unit is bound and a rule of it gets its limit, and yet the evaluation of the rule misses a
global. -/
theorem action_misses_global :
    ∃ unit i,
      GeneratedUnit.build {} Catalog.builtin orders 0 = .ok unit ∧
      ordersWorld.Knows ⟨0⟩ ∧ (ordersWorld.session ⟨0⟩).globals.types = orders.globalTypes ∧
      (ordersWorld.instantiate unit (ordersData (.int 5)) ⟨0⟩).1 = .ok i ∧
      ghostRule.types = orders.globalTypes ∧
      Consequence.build {} "look" ghostRule = .ok builtGhost ∧
      let bound := (ordersWorld.instantiate unit (ordersData (.int 5)) ⟨0⟩).2
      builtGhost.arguments (bound.firing default ⟨0⟩) = .ok [.int 5] ∧
        (builtGhost.executable.evaluate (bound.firing default ⟨0⟩) (.start bound)).1 =
          .error (Cause.missingGlobal "ghost") := by
  have no_steps : builtGhost.plan.steps = [] := by
    simp [builtGhost, Plan.steps]
  refine ⟨_, _, rfl, by decide, rfl, rfl, rfl, rfl, ?_⟩
  intro bound
  have computed : builtGhost.arguments (bound.firing default ⟨0⟩) = .ok [.int 5] := by
    unfold Consequence.arguments Plan.resolve
    rw [no_steps]
    rfl
  refine ⟨computed, ?_⟩
  simp only [Executable.evaluate, Consequence.executable, computed]
  rfl

end World
end RuleEngine
