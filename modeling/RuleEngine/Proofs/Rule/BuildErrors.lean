import RuleEngine.Proofs.Rule.Evaluation
import RuleEngine.Proofs.Rule.Fire
import RuleEngine.Rule.Deferred
import RuleEngine.RuleUnit.Generated

/-!
# Errors that abort a build

The causes of errors are divided into those that abort a build and those that belong to a firing.
Whatever a build fails with, of a rule or of a rule unit, aborts a build.

A firing keeps to the other causes with one exception.  A chain that does not reach a declaration is
reported with the cause by which a plan refuses a declaration that stands too deep, and that cause
aborts a build.  So when the extractors and the action of a rule bring up no error that aborts a
build, an evaluation fails with such an error exactly when the chain cuts off the first declaration
that is not bound.
-/

namespace RuleEngine

variable {settings : Settings} {name : String} {source : RuleSource} {c : Consequence}
  {catalog : Catalog} {d : UnitDescription}

/-- Whatever the result fails with aborts a build. -/
abbrev BuildErrorsOnly {α : Type} (x : Except Error α) : Prop :=
  x.FailsOnly fun e => e.abortsBuild = true

/-- Whatever the result fails with belongs to a firing. -/
abbrev FiringErrorsOnly {α : Type} (x : Except Error α) : Prop :=
  x.FailsOnly fun e => e.abortsBuild = false

theorem FiringErrorsOnly.not_abortsBuild {α : Type} {x : Except Error α} {e : Error}
    (hx : FiringErrorsOnly x) (failed : x = .error e) : ¬ e.abortsBuild = true := by
  simp only [hx e failed, Bool.false_eq_true, not_false_eq_true]

/-! ## Builds of rules -/

theorem Plan.place_buildErrorsOnly {rootDepth : Nat} {declarations : List Declaration}
    {places : List (Option Declaration)} :
    BuildErrorsOnly (place rootDepth declarations places) := by
  induction declarations generalizing places with
  | nil => exact Except.failsOnly_ok _
  | cons d rest ih =>
      unfold place
      split
      · exact Except.failsOnly_error rfl
      · split
        · exact Except.failsOnly_error rfl
        · exact Except.failsOnly_error rfl
        · exact ih

theorem Plan.ofDeclarations_buildErrorsOnly (declarations : List Declaration) (rootDepth : Nat) :
    BuildErrorsOnly (ofDeclarations declarations rootDepth) :=
  place_buildErrorsOnly.map _

theorem Rule.withTypes_buildErrorsOnly (types : GlobalTypes) (names : List String) :
    BuildErrorsOnly (withTypes types names) := by
  induction names with
  | nil => exact Except.failsOnly_ok _
  | cons name rest ih =>
      unfold withTypes
      split
      · exact Except.failsOnly_error rfl
      · exact ih.map _

theorem Layout.verify_buildErrorsOnly (l : Layout) (signature : List Ty) :
    BuildErrorsOnly (l.verify signature) := by
  unfold verify
  split
  · exact Except.failsOnly_error rfl
  · split
    · exact Except.failsOnly_ok _
    · exact Except.failsOnly_error rfl

theorem Consequence.build_buildErrorsOnly (settings : Settings) (name : String)
    (source : RuleSource) : BuildErrorsOnly (build settings name source) := by
  -- the context that is put on an error leaves its cause alone
  refine Except.FailsOnly.mapError ?_ fun e aborts => aborts
  refine (Plan.ofDeclarations_buildErrorsOnly _ _).bind fun plan => ?_
  refine (Rule.withTypes_buildErrorsOnly _ _).bind fun globals => ?_
  dsimp only
  split
  · exact (Layout.verify_buildErrorsOnly _ _).bind fun _ => Except.failsOnly_ok _
  · exact Except.failsOnly_ok _

theorem Deferred.force_buildErrorsOnly (d : Deferred) : BuildErrorsOnly d.force.1 := by
  unfold force
  split
  · exact Except.failsOnly_ok _
  · have builds := Consequence.build_buildErrorsOnly d.settings d.name d.source
    cases built : Consequence.build d.settings d.name d.source with
    | ok c => exact Except.failsOnly_ok c
    | error e => exact Except.failsOnly_error (builds e built)

/-! ## Builds of rule units -/

theorem Catalog.require_buildErrorsOnly (catalog : Catalog) (name : String) :
    BuildErrorsOnly (catalog.require name) := by
  unfold require
  split
  · exact Except.failsOnly_ok _
  · exact Except.failsOnly_error rfl

theorem Specialization.start_buildErrorsOnly (template : Template) :
    BuildErrorsOnly (start template) := by
  unfold start
  split
  · exact Except.failsOnly_ok _
  · exact Except.failsOnly_error rfl

theorem Specialization.withBody_buildErrorsOnly (s : Specialization) (name : String)
    (body : List Stmt) : BuildErrorsOnly (s.withBody name body) := by
  unfold withBody
  split
  · exact Except.failsOnly_error rfl
  · exact Except.failsOnly_ok _

theorem Specialization.finish_buildErrorsOnly (s : Specialization) : BuildErrorsOnly s.finish := by
  refine Except.FailsOnly.mapError (P := fun _ => True) (fun _ _ => trivial) fun slot _ => ?_
  rfl

theorem GeneratedUnit.instanceClass_buildErrorsOnly (package simple : String) :
    BuildErrorsOnly (instanceClass catalog d package simple) := by
  refine (Catalog.require_buildErrorsOnly _ _).bind fun template => ?_
  refine (Specialization.start_buildErrorsOnly _).bind fun s => ?_
  refine (Specialization.withBody_buildErrorsOnly _ _ _).bind fun s => ?_
  exact s.finish_buildErrorsOnly

theorem GeneratedUnit.unitClass_buildErrorsOnly (package simple instanceSimple : String) :
    BuildErrorsOnly (unitClass catalog d package simple instanceSimple) := by
  refine (Catalog.require_buildErrorsOnly _ _).bind fun template => ?_
  refine (Specialization.start_buildErrorsOnly _).bind fun s => ?_
  exact Specialization.finish_buildErrorsOnly _

theorem GeneratedUnit.build_buildErrorsOnly (settings : Settings) (catalog : Catalog)
    (d : UnitDescription) (token : UInt64) : BuildErrorsOnly (build settings catalog d token) := by
  refine ((instanceClass_buildErrorsOnly _ _).mapError fun e aborts => aborts).bind fun _ => ?_
  refine ((unitClass_buildErrorsOnly _ _ _).mapError fun e aborts => aborts).bind fun _ => ?_
  exact Except.failsOnly_ok _

/-! ## Declarations that a chain does not reach -/

namespace Declaration

variable {chain : Chain} {memory : WorkingMemory} {declarations : List Declaration}
  {d : Declaration} {e : Error}

/-- Among the declarations this is the first one that is not bound, and the chain does not reach
it. -/
structure CutOff (declarations : List Declaration) (chain : Chain) (memory : WorkingMemory)
    (d : Declaration) : Prop where
  named : d ∈ declarations
  beyond : chain.length ≤ d.depth
  first : ∀ d' ∈ declarations, d'.Precedes d → ∃ b, d'.bindAlone chain memory = .ok b

/-- What is reported of a declaration that the chain does not reach. -/
def unreached (chain : Chain) (d : Declaration) : Error :=
  Cause.depthOutOfRange d.name d.depth (chain.rootDepth?.getD 0)

theorem bindAlone_of_beyond (memory : WorkingMemory) (beyond : chain.length ≤ d.depth) :
    d.bindAlone chain memory = .error (d.unreached chain) :=
  bindAlone_of_missed (Chain.node?_eq_none_iff.2 beyond)

/-- When its extractor keeps to the causes of firings, a declaration aborts a build only because the
chain does not reach it. -/
theorem beyond_of_abortsBuild
    (quiet : ∀ cause, d.ExtractorFails chain memory cause → cause.abortsBuild = false)
    (failed : d.bindAlone chain memory = .error e) (aborts : e.abortsBuild = true) :
    chain.length ≤ d.depth := by
  rcases Nat.lt_or_ge d.depth chain.length with inside | beyond
  · rcases bindAlone_of_reached memory inside with ⟨node, reached, same⟩
    have belongs : e.abortsBuild = false := by
      rcases (cause_of_resolve (same.symm.trans failed)).2 with
        ⟨v, mismatch⟩ | ⟨x, e', extractor, extracting, raised⟩
      · simp only [Error.abortsBuild, mismatch, Cause.abortsBuild]
      · exact quiet e.cause ⟨node, x, e', reached, extractor, extracting, raised.symm⟩
    simp [aborts] at belongs
  · exact beyond

end Declaration

/-! ## Evaluations -/

namespace Consequence

variable {firing : Firing} {globals : Globals} {typed : List (String × Ty)} {s : Progress} {e : Error}

theorem globalArguments_firingErrorsOnly : FiringErrorsOnly (globalArguments globals typed) := by
  induction typed with
  | nil => exact Except.failsOnly_ok _
  | cons g rest ih =>
      have required : FiringErrorsOnly (globals.require g.1) := by
        unfold Globals.require
        split
        · exact Except.failsOnly_ok _
        · exact Except.failsOnly_error rfl
      refine required.bind fun v => ?_
      split
      · exact ih.bind fun _ => Except.failsOnly_ok _
      · exact Except.failsOnly_error rfl

/-- In a firing, the extractors and the action of a consequence keep to the causes of firings. -/
structure Quiet (c : Consequence) (firing : Firing) (s : Progress) : Prop where
  extractors : ∀ d ∈ c.plan.declarations, ∀ cause,
    d.ExtractorFails firing.chain firing.memory cause → cause.abortsBuild = false
  action : ∀ args, c.arguments firing = .ok args →
    FiringErrorsOnly ((c.action.body args).run firing s).1

/-- The arguments abort a build exactly when a declaration is cut off. -/
theorem arguments_aborts_iff (built : BuiltFrom settings source c)
    (quiet : ∀ d ∈ source.declarations, ∀ cause,
      d.ExtractorFails firing.chain firing.memory cause → cause.abortsBuild = false) :
    (c.arguments firing = .error e ∧ e.abortsBuild = true) ↔
      ∃ d : Declaration, d.CutOff source.declarations firing.chain firing.memory ∧
        e = d.unreached firing.chain := by
  constructor
  · rintro ⟨failed, aborts⟩
    rcases arguments_eq_error_iff.1 failed with unresolved | ⟨-, missing⟩
    · rcases (Plan.resolve_eq_error_iff built.planned).1 unresolved with ⟨d, named, alone, first⟩
      have beyond := Declaration.beyond_of_abortsBuild (quiet d named) alone aborts
      have same := alone.symm.trans (Declaration.bindAlone_of_beyond firing.memory beyond)
      exact ⟨d, ⟨named, beyond, first⟩, Except.error.inj same⟩
    · exact absurd aborts (globalArguments_firingErrorsOnly.not_abortsBuild missing)
  · rintro ⟨d, cut, rfl⟩
    have unresolved := (Plan.resolve_eq_error_iff built.planned).2
      ⟨d, cut.named, Declaration.bindAlone_of_beyond firing.memory cut.beyond, cut.first⟩
    exact ⟨arguments_eq_error_iff.2 (Or.inl unresolved), rfl⟩

theorem evaluate_aborts_iff (built : BuiltFrom settings source c) (quiet : c.Quiet firing s) :
    ((c.executable.evaluate firing s).1 = .error e ∧ e.abortsBuild = true) ↔
      ∃ d : Declaration, d.CutOff source.declarations firing.chain firing.memory ∧
        e = (d.unreached firing.chain).inArtifact c.rule c.name := by
  have arguments : ∀ e, (c.arguments firing = .error e ∧ e.abortsBuild = true) ↔ _ :=
    fun e => arguments_aborts_iff built fun d named =>
      quiet.extractors d ((Plan.mem_declarations_of_made built.planned).2 named)
  constructor
  · rintro ⟨failed, aborts⟩
    rcases origin_of_evaluate (Prod.ext failed rfl) with ⟨e', missing, rfl⟩ | ⟨args, computed, ran⟩
    · rcases (arguments e').1 ⟨missing, aborts⟩ with ⟨d, cut, rfl⟩
      exact ⟨d, cut, rfl⟩
    · have ends := quiet.action args computed
      exact absurd aborts (ends.not_abortsBuild (congrArg Prod.fst ran))
  · rintro ⟨d, cut, rfl⟩
    have ⟨failed, aborts⟩ := (arguments _).2 ⟨d, cut, rfl⟩
    exact ⟨congrArg Prod.fst (evaluate_of_arguments_error failed s), aborts⟩

end Consequence

/-! ## Firings -/

theorem Session.applyTo_firingErrorsOnly (s : Session) (memory : WorkingMemory) (effect : Effect) :
    FiringErrorsOnly (s.applyTo memory effect) := by
  cases effect with
  | insert entryPoint v =>
      have partition : FiringErrorsOnly (s.partitionOf entryPoint) := by
        simp only [partitionOf]
        split
        · exact Except.failsOnly_ok _
        · exact Except.failsOnly_error rfl
      simp only [applyTo]
      cases declared : s.partitionOf entryPoint with
      | ok partition => exact Except.failsOnly_ok _
      | error e => exact Except.failsOnly_error (partition e declared)
  | update h v =>
      refine Except.FailsOnly.map (fun e failed => ?_) _
      rw [(WorkingMemory.update_eq_error_iff.1 failed).2]
      rfl
  | retract h =>
      refine Except.FailsOnly.map (fun e failed => ?_) _
      rw [(WorkingMemory.retract_eq_error_iff.1 failed).2]
      rfl

theorem Session.applyAllTo_firingErrorsOnly (s : Session) (memory : WorkingMemory)
    (effects : List Effect) : FiringErrorsOnly (s.applyAllTo memory effects) := by
  induction effects generalizing memory with
  | nil => exact Except.failsOnly_ok _
  | cons effect rest ih =>
      unfold applyAllTo
      split
      · rename_i e failed
        exact Except.failsOnly_error (applyTo_firingErrorsOnly s memory effect e failed)
      · split
        · rename_i e failed
          exact Except.failsOnly_error (ih _ e failed)
        · exact Except.failsOnly_ok _

theorem Session.applyBatch_firingErrorsOnly (s : Session) (effects : List Effect) :
    FiringErrorsOnly (s.applyBatch effects).1 := by
  cases broken : s.broken with
  | true =>
      rw [applyBatch_of_broken broken]
      exact Except.failsOnly_error rfl
  | false =>
      rw [applyBatch_of_intact broken]
      have applied := applyAllTo_firingErrorsOnly (s.declareNamed effects) s.memory effects
      cases result : (s.declareNamed effects).applyAllTo s.memory effects with
      | error e => exact Except.failsOnly_error (applied e result)
      | ok r => exact Except.failsOnly_ok _

/-- A firing aborts a build exactly when its evaluation does. -/
theorem Executable.fire_aborts_iff (x : Executable) (chain : Chain) (id : SessionId) (w : World)
    {e : Error} :
    ((x.fire chain id w).result = .error e ∧ e.abortsBuild = true) ↔
      (w.session id).broken = false ∧
        (x.evaluate (w.firing chain id) (.start w)).1 = .error e ∧ e.abortsBuild = true := by
  cases broken : (w.session id).broken with
  | true =>
      rw [fire_of_broken x chain broken]
      constructor
      · rintro ⟨failed, aborts⟩
        have belongs : FiringErrorsOnly (.error Session.brokenError : Except Error FiringSummary) :=
          Except.failsOnly_error rfl
        exact absurd aborts (belongs.not_abortsBuild failed)
      · rintro ⟨contra, -⟩
        cases contra
  | false =>
      rcases evaluated : x.evaluate (w.firing chain id) (.start w) with ⟨e' | ⟨⟩, s⟩
      · rw [fire_of_error broken evaluated]
        simp
      · -- the batch is applied, and whatever it fails with belongs to a firing
        rw [fire_of_ok broken evaluated]
        have batch := Session.applyBatch_firingErrorsOnly (s.world.session id) s.effects
        rcases applied : (s.world.session id).applyBatch s.effects with ⟨e' | inserted, after⟩
        · have belongs : ¬ e'.abortsBuild = true := batch.not_abortsBuild (congrArg Prod.fst applied)
          constructor
          · rintro ⟨failed, aborts⟩
            cases failed
            exact absurd aborts belongs
          · rintro ⟨-, contra, -⟩
            cases contra
        · simp

/-! ## The two classes -/

namespace Consequence

/-- Whatever a build fails with aborts a build: that of a plan, of a rule under a name that is given
or drawn, of a deferred rule, and of a rule unit.

A firing keeps to the other class but for one case.  When its extractors and its action do, an
evaluation fails with an error that aborts a build exactly when the first declaration that is not
bound stands deeper than the chain reaches; the error is then the one that reports this declaration,
and the same goes for a firing, unless the memory is out of order.  So along a chain that reaches
every declaration no error aborts a build. -/
theorem abortsBuild_iff_build_or_cut_off (settings : Settings) (name : String)
    (source : RuleSource) (declarations : List Declaration) (rootDepth : Nat) (deferred : Deferred)
    (catalog : Catalog) (unit : UnitDescription) (tokens : TokenStream) :
    BuildErrorsOnly (Plan.ofDeclarations declarations rootDepth) ∧
    BuildErrorsOnly (build settings name source) ∧
    BuildErrorsOnly (buildFresh settings source tokens).1 ∧
    BuildErrorsOnly deferred.force.1 ∧
    BuildErrorsOnly (GeneratedUnit.buildFresh settings catalog unit tokens).1 ∧
    ∀ c, build settings name source = .ok c →
      (∀ firing s, c.Quiet firing s →
        (∀ e, (c.executable.evaluate firing s).1 = .error e ∧ e.abortsBuild = true ↔
          ∃ d : Declaration, d.CutOff source.declarations firing.chain firing.memory ∧
            e = (d.unreached firing.chain).inArtifact source.rule.name name) ∧
        ((∀ d ∈ source.declarations, d.depth < firing.chain.length) →
          FiringErrorsOnly (c.executable.evaluate firing s).1)) ∧
      ∀ chain id w, c.Quiet (w.firing chain id) (.start w) →
        (∀ e, (c.executable.fire chain id w).result = .error e ∧ e.abortsBuild = true ↔
          (w.session id).broken = false ∧
            ∃ d : Declaration, d.CutOff source.declarations chain (w.session id).memory ∧
              e = (d.unreached chain).inArtifact source.rule.name name) ∧
        ((∀ d ∈ source.declarations, d.depth < chain.length) →
          FiringErrorsOnly (c.executable.fire chain id w).result) := by
  refine ⟨Plan.ofDeclarations_buildErrorsOnly _ _, build_buildErrorsOnly _ _ _,
    build_buildErrorsOnly _ _ _, deferred.force_buildErrorsOnly,
    GeneratedUnit.build_buildErrorsOnly _ _ _ _, ?_⟩
  intro c built
  have ⟨named, ruled⟩ := names_of_build built
  have evaluated : ∀ firing s, c.Quiet firing s → ∀ e,
      (c.executable.evaluate firing s).1 = .error e ∧ e.abortsBuild = true ↔
        ∃ d : Declaration, d.CutOff source.declarations firing.chain firing.memory ∧
          e = (d.unreached firing.chain).inArtifact source.rule.name name := by
    intro firing s quiet e
    rw [evaluate_aborts_iff (builtFrom_of_build built) quiet, named, ruled]
  have fired : ∀ chain id w, c.Quiet (w.firing chain id) (.start w) → ∀ e,
      (c.executable.fire chain id w).result = .error e ∧ e.abortsBuild = true ↔
        (w.session id).broken = false ∧
          ∃ d : Declaration, d.CutOff source.declarations chain (w.session id).memory ∧
            e = (d.unreached chain).inArtifact source.rule.name name := by
    intro chain id w quiet e
    rw [c.executable.fire_aborts_iff chain id w]
    exact and_congr_right fun _ => evaluated (w.firing chain id) _ quiet e
  refine ⟨fun firing s quiet => ⟨evaluated firing s quiet, ?_⟩,
    fun chain id w quiet => ⟨fired chain id w quiet, ?_⟩⟩
  · intro inside e failed
    cases aborts : e.abortsBuild with
    | false => rfl
    | true =>
        rcases (evaluated firing s quiet e).1 ⟨failed, aborts⟩ with ⟨d, cut, -⟩
        exact absurd cut.beyond (Nat.not_le.2 (inside d cut.named))
  · intro inside e failed
    cases aborts : e.abortsBuild with
    | false => rfl
    | true =>
        rcases (fired chain id w quiet e).1 ⟨failed, aborts⟩ with ⟨-, d, cut, -⟩
        exact absurd cut.beyond (Nat.not_le.2 (inside d cut.named))

/-- A rule that binds the fact before the one that was matched last. -/
def previous : RuleSource where
  rule := ⟨"previous", "", none, []⟩
  declarations := [⟨"$previous", .any, 1, 0, none⟩]
  types := .empty
  action := ⟨"Rules", "consequence", [.any, .handle], fun _ => .done ()⟩

/-- A firing for a chain of one node. -/
def loneFiring : Firing :=
  ⟨⟨[⟨⟨0, 0⟩, .nil⟩]⟩, .empty, default⟩

theorem previous_cut_off :
    ∃ c, build {} "previous" previous = .ok c ∧ c.Quiet loneFiring (.start .empty) ∧
      ∃ e, (c.executable.evaluate loneFiring (.start .empty)).1 = .error e ∧
        e.cause = .depthOutOfRange "$previous" 1 0 ∧ e.abortsBuild = true := by
  have quiet : ∀ c, build {} "previous" previous = .ok c → c.Quiet loneFiring (.start .empty) := by
    rintro c ⟨⟩
    refine ⟨fun d named cause fails => ?_, fun args _ => Except.failsOnly_ok _⟩
    -- the only declaration is direct
    rcases List.mem_singleton.1 named with rfl
    rcases fails with ⟨node, x, e, reached, extractor, -⟩
    cases extractor
  have cut : Declaration.CutOff previous.declarations loneFiring.chain loneFiring.memory
      ⟨"$previous", .any, 1, 0, none⟩ := by
    refine ⟨List.mem_singleton_self _, Nat.le_refl 1, fun d' named precedes => ?_⟩
    rcases List.mem_singleton.1 named with rfl
    simp [Declaration.Precedes] at precedes
  rcases built : build {} "previous" previous with e | c
  · cases built
  · have classes := (abortsBuild_iff_build_or_cut_off {} "previous" previous [] 0
      ⟨"previous", {}, previous, none⟩ .empty (.ofName "" "unit") (.seeded 0 0)).2.2.2.2.2 c built
    have ⟨failed, aborts⟩ := ((classes.1 loneFiring _ (quiet c built)).1 _).2 ⟨_, cut, rfl⟩
    exact ⟨c, rfl, quiet c built, _, failed, rfl, aborts⟩

end Consequence

end RuleEngine
