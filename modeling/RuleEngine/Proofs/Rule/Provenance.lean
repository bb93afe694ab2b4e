import RuleEngine.Proofs.Resolution.Failures
import RuleEngine.Proofs.Rule.Evaluation

/-!
# Where the errors of an evaluation come from

The arguments of an action are computed in steps: the declarations first, by depth and then by index,
and then the globals, in the order in which the rule names them.  There are six ways in which a step
fails, four for a declaration and two for a global, and `Fails` says what is reported for each.

An evaluation stops at the first step that fails.  It reports what that step reports, adds the rule and
the artifact, and leaves everything else as it was, whatever the action is.  When no step fails it is
the action, and nothing else, that decides how the evaluation ends.
-/

namespace RuleEngine

/-! ## Steps -/

/-- A step in the computation of arguments.  A global is told apart by its place, as a rule may name it
twice. -/
inductive ArgumentStep where
  | declaration (d : Declaration)
  | global (place : Nat) (name : String) (type : Ty)

namespace ArgumentStep

/-- Whether one step is taken before another: declarations by depth and then by index, and globals by
place after all declarations. -/
def Before : ArgumentStep → ArgumentStep → Prop
  | declaration d, declaration d' => d.Precedes d'
  | declaration _, global .. => True
  | global .., declaration _ => False
  | global i .., global j .. => i < j

/-- How a step fails in a firing: for which cause, and in which steps. -/
inductive Fails (firing : Firing) : ArgumentStep → Cause → List String → Prop where
  | declaration {d : Declaration} {cause : Cause} {stack : List String}
      (fails : d.Fails firing.chain firing.memory cause stack) :
      Fails firing (.declaration d) cause stack
  | missing {place : Nat} {name : String} {type : Ty} (absent : firing.globals.find? name = none) :
      Fails firing (.global place name type) (.missingGlobal name) []
  | misfit {place : Nat} {name : String} {type : Ty} {v : Value}
      (found : firing.globals.find? name = some v) (misfit : v.fits type = false) :
      Fails firing (.global place name type) (.typeMismatch type v.type) ["global " ++ name]

end ArgumentStep

namespace RuleSource

/-- The steps of a rule: its declarations, and the globals that it names, with their declared types. -/
def Takes (source : RuleSource) : ArgumentStep → Prop
  | .declaration d => d ∈ source.declarations
  | .global place name type =>
    source.rule.globals[place]? = some name ∧ source.types.find? name = some type

/-- The first step of a rule that fails in a firing, with what it reports. -/
structure FirstFailing (source : RuleSource) (firing : Firing) (step : ArgumentStep) (cause : Cause)
    (stack : List String) : Prop where
  taken : source.Takes step
  fails : step.Fails firing cause stack
  first : ∀ earlier, source.Takes earlier → earlier.Before step →
    ∀ cause stack, ¬ earlier.Fails firing cause stack

end RuleSource

namespace Consequence

variable {settings : Settings} {name : String} {source : RuleSource} {c : Consequence}
  {firing : Firing} {place : Nat} {global : String} {type : Ty} {cause : Cause} {stack : List String}

/-! ## Globals -/

/-- The argument for a single global. -/
def globalArgument (globals : Globals) (g : String × Ty) : Except Error Value :=
  (globals.require g.1).bind fun v =>
    if v.fits g.2 then .ok v
    else .error ((Cause.typeMismatch g.2 v.type : Error).inStep ("global " ++ g.1))

theorem globalArguments_eq_mapM (globals : Globals) (typed : List (String × Ty)) :
    globalArguments globals typed = typed.mapM (globalArgument globals) := by
  induction typed with
  | nil => rfl
  | cons g rest ih =>
      rw [List.mapM_cons, ← ih, globalArguments, globalArgument]
      cases globals.require g.1 with
      | error e => rfl
      | ok v =>
          simp only [bind, Except.bind]
          split <;> rfl

/-- A global fails as the argument for it does. -/
theorem fails_global_iff :
    (ArgumentStep.global place global type).Fails firing cause stack ↔
      ∃ e, globalArgument firing.globals (global, type) = .error e ∧ e.cause = cause ∧
        e.steps = stack := by
  constructor
  · intro fails
    cases fails with
    | missing absent =>
        have failed : globalArgument firing.globals (global, type) =
            .error (Cause.missingGlobal global) := by
          simp [globalArgument, Globals.require, absent, Except.bind]
        exact ⟨_, failed, rfl, rfl⟩
    | @misfit _ _ _ v found misfit =>
        have failed : globalArgument firing.globals (global, type) =
            .error ((Cause.typeMismatch type v.type : Error).inStep ("global " ++ global)) := by
          simp [globalArgument, Globals.require, found, misfit, Except.bind]
        exact ⟨_, failed, rfl, rfl⟩
  · rintro ⟨e, failed, rfl, rfl⟩
    cases found : firing.globals.find? global with
    | none =>
        simp only [globalArgument, Globals.require, found, Except.bind, Except.error.injEq] at failed
        subst failed
        exact .missing found
    | some v =>
        simp only [globalArgument, Globals.require, found, Except.bind] at failed
        split at failed
        · cases failed
        · rename_i misfit
          cases failed
          exact .misfit found (Bool.eq_false_iff.2 misfit)

theorem not_fails_global_iff :
    (∀ cause stack, ¬ (ArgumentStep.global place global type).Fails firing cause stack) ↔
      ∃ v, globalArgument firing.globals (global, type) = .ok v := by
  simp only [fails_global_iff]
  cases globalArgument firing.globals (global, type) <;> simp

theorem BuiltFrom.takes_global_iff (built : BuiltFrom settings source c) :
    source.Takes (.global place global type) ↔ c.globals[place]? = some (global, type) := by
  obtain ⟨names, known⟩ := Rule.withTypes_eq_ok built.typed
  unfold RuleSource.Takes
  simp only [← names, List.getElem?_map, Option.map_eq_some_iff]
  constructor
  · rintro ⟨⟨g, listed, same⟩, declared⟩
    have found := known g (List.mem_of_getElem? listed)
    rw [same, declared, Option.some.injEq] at found
    have whole : g = (global, type) := Prod.ext same found.symm
    rw [listed, whole]
  · intro listed
    exact ⟨⟨_, listed, rfl⟩, known _ (List.mem_of_getElem? listed)⟩

/-! ## The first failing step -/

/-- The first step that fails is a declaration when the plan is not resolved. -/
theorem BuiltFrom.firstFailing_declaration_iff (built : BuiltFrom settings source c) :
    (∃ d, source.FirstFailing firing (.declaration d) cause stack) ↔
      ∃ e, c.plan.resolve firing.chain firing.memory = .error e ∧ e.cause = cause ∧
        e.steps = stack := by
  constructor
  · rintro ⟨d, named, ⟨fails⟩, first⟩
    obtain ⟨e, alone, rfl, rfl⟩ := Declaration.fails_iff.1 fails
    refine ⟨e, (Plan.resolve_eq_error_iff built.planned).2 ⟨d, named, alone, ?_⟩, rfl, rfl⟩
    intro d' named' before
    apply Declaration.not_fails_iff.1
    intro cause stack fails'
    exact first (.declaration d') named' before _ _ (.declaration fails')
  · rintro ⟨e, unresolved, rfl, rfl⟩
    obtain ⟨d, named, alone, first⟩ := (Plan.resolve_eq_error_iff built.planned).1 unresolved
    refine ⟨d, named, .declaration (Declaration.fails_iff.2 ⟨e, alone, rfl, rfl⟩), ?_⟩
    -- no global comes before a declaration
    rintro (d' | ⟨i, name, type⟩) taken before
    · rintro cause stack ⟨fails⟩
      exact Declaration.not_fails_iff.2 (first d' taken before) _ _ fails
    · cases before

/-- The first step that fails is a global when the plan is resolved and the globals are not what they
should be. -/
theorem BuiltFrom.firstFailing_global_iff (built : BuiltFrom settings source c) :
    (∃ place global type, source.FirstFailing firing (.global place global type) cause stack) ↔
      (∃ r, c.plan.resolve firing.chain firing.memory = .ok r) ∧
        ∃ e, globalArguments firing.globals c.globals = .error e ∧ e.cause = cause ∧
          e.steps = stack := by
  rw [globalArguments_eq_mapM]
  constructor
  · rintro ⟨place, global, type, taken, fails, first⟩
    obtain ⟨e, failed, rfl, rfl⟩ := fails_global_iff.1 fails
    refine ⟨(Plan.exists_resolve_iff built.planned).2 fun d named => ?_, e, ?_, rfl, rfl⟩
    · apply Declaration.not_fails_iff.1
      intro cause stack fails'
      exact first (.declaration d) named trivial _ _ (.declaration fails')
    · obtain ⟨inside, at_place⟩ := List.getElem?_eq_some_iff.1 (built.takes_global_iff.1 taken)
      have split : c.globals = c.globals.take place ++ (global, type) :: c.globals.drop (place + 1) := by
        rw [← at_place, List.getElem_cons_drop, List.take_append_drop]
      refine Except.mapM_eq_error_iff.2 ⟨_, _, _, split, fun g earlier => ?_, failed⟩
      -- a global that is read earlier stands at an earlier place
      obtain ⟨i, listed⟩ := List.mem_iff_getElem?.1 earlier
      have before : i < place := by
        have bound := (List.getElem?_eq_some_iff.1 listed).1
        simp only [List.length_take] at bound
        omega
      rw [List.getElem?_take_of_lt before] at listed
      exact not_fails_global_iff.1 (first _ (built.takes_global_iff.2 listed) before)
  · rintro ⟨resolved, e, failed, rfl, rfl⟩
    obtain ⟨earlier, ⟨global, type⟩, later, split, succeed, failed⟩ :=
      Except.mapM_eq_error_iff.1 failed
    -- the step is told apart by the number of globals before it
    have listed : c.globals[earlier.length]? = some (global, type) := by simp [split]
    refine ⟨earlier.length, global, type, built.takes_global_iff.2 listed,
      fails_global_iff.2 ⟨e, failed, rfl, rfl⟩, ?_⟩
    rintro (d | ⟨i, name, type⟩) taken before
    · rintro cause stack ⟨fails⟩
      have bound := (Plan.exists_resolve_iff built.planned).1 resolved d taken
      exact Declaration.not_fails_iff.2 bound _ _ fails
    · have at_i : c.globals[i]? = some (name, type) := built.takes_global_iff.1 taken
      rw [split, List.getElem?_append_left before] at at_i
      exact not_fails_global_iff.2 (succeed _ (List.mem_of_getElem? at_i))

/-- The arguments fail as the first step that fails. -/
theorem arguments_fail_iff (built : BuiltFrom settings source c) :
    (∃ e, c.arguments firing = .error e ∧ e.cause = cause ∧ e.steps = stack) ↔
      ∃ step, source.FirstFailing firing step cause stack := by
  simp only [arguments_eq_error_iff]
  constructor
  · rintro ⟨e, unresolved | ⟨resolved, missing⟩, same⟩
    · obtain ⟨d, first⟩ := built.firstFailing_declaration_iff.2 ⟨e, unresolved, same⟩
      exact ⟨_, first⟩
    · obtain ⟨_, _, _, first⟩ := built.firstFailing_global_iff.2 ⟨resolved, e, missing, same⟩
      exact ⟨_, first⟩
  · rintro ⟨d | ⟨place, name, type⟩, first⟩
    · obtain ⟨e, unresolved, same⟩ := built.firstFailing_declaration_iff.1 ⟨d, first⟩
      exact ⟨e, Or.inl unresolved, same⟩
    · obtain ⟨resolved, e, missing, same⟩ := built.firstFailing_global_iff.1 ⟨_, _, _, first⟩
      exact ⟨e, Or.inr ⟨resolved, missing⟩, same⟩

/-- The arguments of a consequence fail exactly when one of its steps does.

An evaluation then stops at the first step that fails, by depth and index among the declarations and
by place among the globals after them.  It reports the cause of that step in the steps inside it, under
the rule and the artifact of the consequence, whatever context an extractor gave to its error; and it
leaves the world, the effects and the notes as they were, whatever the action is.  Otherwise it ends
as the action does, with the same error and the same context if it fails. -/
theorem evaluate_reports_first_failing (settings : Settings) (name : String) (source : RuleSource)
    (c : Consequence) (built : build settings name source = .ok c) (firing : Firing) :
    ((∃ e, c.arguments firing = .error e) ↔
      ∃ step cause stack, source.FirstFailing firing step cause stack) ∧
    (∀ step cause stack, source.FirstFailing firing step cause stack →
      ∀ action s, { c with action := action }.executable.evaluate firing s =
        (.error ⟨cause, some ⟨some source.rule.name, some name, stack⟩⟩, s)) ∧
    ∀ args, c.arguments firing = .ok args →
      ∀ s, c.executable.evaluate firing s = (c.action.body args).run firing s := by
  have from_source := builtFrom_of_build built
  obtain ⟨named, ruled⟩ := names_of_build built
  refine ⟨?_, ?_, ?_⟩
  · constructor
    · rintro ⟨e, failed⟩
      obtain ⟨step, first⟩ := (arguments_fail_iff from_source).1 ⟨e, failed, rfl, rfl⟩
      exact ⟨step, _, _, first⟩
    · rintro ⟨step, cause, stack, first⟩
      obtain ⟨e, failed, -, -⟩ := (arguments_fail_iff from_source).2 ⟨step, first⟩
      exact ⟨e, failed⟩
  · intro step cause stack first action s
    obtain ⟨e, failed, rfl, rfl⟩ := (arguments_fail_iff from_source).2 ⟨step, first⟩
    -- the arguments do not depend on the action
    have failed' : { c with action := action }.arguments firing = .error e := failed
    rw [evaluate_of_arguments_error failed', Error.inArtifact_eq, ← named, ← ruled]
  · intro args computed s
    simp only [Executable.evaluate, executable, computed]

/-- A declaration whose extractor always refuses, and blames another rule. -/
def inner : Declaration :=
  ⟨"$inner", .string, 0, 1, some (.computed "name" fun _ _ =>
    .error ⟨.action "no name", some { rule := some "elsewhere", stack := ["name"] }⟩)⟩

/-- A rule that reads the object before the one that was matched last, what is inside the latter, and a
limit. -/
def strict : RuleSource where
  rule := ⟨"strict", "", none, ["limit"]⟩
  declarations := [⟨"$outer", .any, 1, 0, none⟩, inner]
  types := Table.empty.insert "limit" .int
  action := ⟨"Rules", "consequence", [.any, .handle, .string, .handle, .int], fun _ => .done ()⟩

/-- A firing in which nothing that the rule asks for is there. -/
def emptyHanded : Firing :=
  ⟨⟨[⟨⟨0, 0⟩, .string "matched"⟩]⟩, .empty, default⟩

/-- Every step of the rule fails.  The one at the node comes first, and its error keeps the steps that
the extractor gave to it but not the rule. -/
theorem strict_reports_extractor :
    ∃ c, build {} "unit" strict = .ok c ∧
      ∀ s, c.executable.evaluate emptyHanded s =
        (.error ⟨.action "no name", some ⟨some "strict", some "unit", ["name", "resolve $inner"]⟩⟩,
          s) := by
  have fails : inner.Fails emptyHanded.chain emptyHanded.memory (.action "no name")
      ["name", "resolve $inner"] := by
    have alone : inner.bindAlone emptyHanded.chain emptyHanded.memory = .error ⟨.action "no name",
        some { rule := some "elsewhere", stack := ["name", "resolve $inner"] }⟩ := rfl
    exact Declaration.fails_iff.2 ⟨_, alone, rfl, rfl⟩
  have first : strict.FirstFailing emptyHanded (.declaration inner) (.action "no name")
      ["name", "resolve $inner"] := by
    refine ⟨List.mem_cons_of_mem _ List.mem_cons_self, .declaration fails, ?_⟩
    rintro (d | ⟨place, name, type⟩) taken before
    -- the other declaration lies deeper
    · rcases List.mem_cons.1 taken with rfl | same
      · simp [ArgumentStep.Before, Declaration.Precedes, inner] at before
      · rcases List.mem_singleton.1 same with rfl
        simp [ArgumentStep.Before, Declaration.Precedes] at before
    · cases before
  rcases built : build {} "unit" strict with e | c
  · cases built
  · obtain ⟨_, reports, _⟩ := evaluate_reports_first_failing {} "unit" strict c built emptyHanded
    exact ⟨c, rfl, reports _ _ _ first c.action⟩

end Consequence
end RuleEngine
