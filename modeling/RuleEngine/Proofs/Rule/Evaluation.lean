import RuleEngine.Proofs.Resolution.SinglePass
import RuleEngine.Proofs.Rule.Arguments

/-!
# What an evaluation fails with

An evaluation first computes the arguments and then runs the action on them.  It fails with the
arguments, and then names the rule and the artifact, or it fails as the action does.  The arguments
fail with a declaration that is not bound, or with a global.
-/

namespace RuleEngine
namespace Consequence

variable {settings : Settings} {name : String} {source : RuleSource} {c : Consequence}
  {firing : Firing} {e : Error} {s s' : Progress}

/-- The arguments fail with the declarations, or past them with the globals. -/
theorem arguments_eq_error_iff :
    c.arguments firing = .error e ↔
      c.plan.resolve firing.chain firing.memory = .error e ∨
        (∃ r, c.plan.resolve firing.chain firing.memory = .ok r) ∧
          globalArguments firing.globals c.globals = .error e := by
  apply Iff.trans Except.bind_eq_error_iff
  apply or_congr_right
  rw [← exists_and_right]
  refine exists_congr fun r => and_congr_right fun _ => ?_
  apply Iff.trans Except.bind_eq_error_iff
  simp [pure, Except.pure]

/-- When the globals are there, the arguments can only fail with a declaration of the rule. -/
theorem declaration_of_arguments (built : BuiltFrom settings source c)
    (supplied : ∃ vs, globalArguments firing.globals c.globals = .ok vs)
    (failed : c.arguments firing = .error e) :
    ∃ d ∈ source.declarations, d.bindAlone firing.chain firing.memory = .error e := by
  rcases arguments_eq_error_iff.1 failed with unresolved | ⟨-, missing⟩
  · rcases (Plan.resolve_eq_error_iff built.planned).1 unresolved with ⟨d, named, alone, -⟩
    exact ⟨d, named, alone⟩
  · rcases supplied with ⟨vs, values⟩
    rw [values] at missing
    cases missing

theorem origin_of_evaluate (failed : c.executable.evaluate firing s = (.error e, s')) :
    (∃ e', c.arguments firing = .error e' ∧ e = e'.inArtifact c.rule c.name) ∨
      ∃ args, c.arguments firing = .ok args ∧
        (c.action.body args).run firing s = (.error e, s') := by
  unfold Executable.evaluate executable at failed
  cases computed : c.arguments firing with
  | error e' =>
      simp only [computed, Program.run, Prod.mk.injEq, Except.error.injEq] at failed
      exact Or.inl ⟨e', rfl, failed.1.symm⟩
  | ok args =>
      simp only [computed] at failed
      exact Or.inr ⟨args, rfl, failed⟩

/-- When the arguments fail, the action is not run. -/
theorem evaluate_of_arguments_error (failed : c.arguments firing = .error e) (s : Progress) :
    c.executable.evaluate firing s = (.error (e.inArtifact c.rule c.name), s) := by
  simp only [Executable.evaluate, executable, failed, Program.run]

end Consequence
end RuleEngine
