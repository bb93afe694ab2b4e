import RuleEngine.Proofs.Resolution.Words
import RuleEngine.Proofs.Rule.Arguments
import RuleEngine.Rule.InWords

/-!
# Evaluations in machine words

Arguments and evaluations resolve the plan of a rule.  In words they overflow where the resolution does:
when it comes to a declaration at the greatest depth.  In all other firings they are those in numbers.
-/

namespace RuleEngine

variable {settings : Settings} {source : RuleSource} {c : Consequence} {firing : Firing}

namespace Consequence

/-- In a firing, the resolution of a rule comes to a declaration at the greatest depth. -/
abbrev Overflows (source : RuleSource) (firing : Firing) : Prop :=
  Plan.ReachesGreatest firing.chain firing.memory source.declarations

theorem argumentsInWords_eq (built : BuiltFrom settings source c)
    (fit : ∀ d ∈ source.declarations, d.depth ≤ Word.greatest) (firing : Firing) :
    (Overflows source firing → c.argumentsInWords firing = .error (.sum Word.greatest 1)) ∧
    (¬ Overflows source firing → c.argumentsInWords firing = .ok (c.arguments firing)) := by
  have ⟨overflows, agrees⟩ := Plan.resolveInWords_eq built.planned fit firing.chain firing.memory
  constructor
  · intro reaches
    rw [argumentsInWords, overflows reaches]
    rfl
  · intro stays
    rw [argumentsInWords, agrees stays]
    rfl

/-- An evaluation in words is the one in numbers, unless the resolution comes to a declaration at the
greatest depth; then it overflows, and nothing has happened yet. -/
theorem evaluateInWords_eq (built : BuiltFrom settings source c)
    (fit : ∀ d ∈ source.declarations, d.depth ≤ Word.greatest) (firing : Firing) (s : Progress) :
    (Overflows source firing → c.evaluateInWords firing s = .error (.sum Word.greatest 1)) ∧
    (¬ Overflows source firing →
      c.evaluateInWords firing s = .ok (c.executable.evaluate firing s)) := by
  have ⟨overflows, agrees⟩ := argumentsInWords_eq built fit firing
  constructor
  · intro reaches
    rw [evaluateInWords, overflows reaches]
    rfl
  · intro stays
    rw [evaluateInWords, agrees stays, Executable.evaluate]
    cases computed : c.arguments firing <;> simp only [executable, computed] <;> rfl

end Consequence

namespace Fireable

/-- The same of a consequence that may be deferred.  One that cannot be built has nothing to resolve. -/
theorem evaluateInWords_eq {u : Fireable} (firing : Firing) (s : Progress) :
    (∀ e, u.force.1 = .error e → u.evaluateInWords firing s = .ok (u.evaluate firing s)) ∧
    ∀ c, u.force.1 = .ok c → Consequence.BuiltFrom settings source c →
      (∀ d ∈ source.declarations, d.depth ≤ Word.greatest) →
        (Consequence.Overflows source firing →
          u.evaluateInWords firing s = .error (.sum Word.greatest 1)) ∧
        (¬ Consequence.Overflows source firing →
          u.evaluateInWords firing s = .ok (u.evaluate firing s)) := by
  rcases forced : u.force with ⟨e | c, u'⟩
  · refine ⟨fun _ _ => ?_, nofun⟩
    simp only [evaluateInWords, evaluate, executable, Executable.evaluate, forced, Program.run]
  · refine ⟨nofun, ?_⟩
    rintro _ ⟨⟩ built fit
    have ⟨overflows, agrees⟩ := Consequence.evaluateInWords_eq built fit firing s
    constructor
    · intro reaches
      simp only [evaluateInWords, forced, overflows reaches, Except.map]
    · intro stays
      simp only [evaluateInWords, forced, agrees stays, Except.map, evaluate, executable,
        Executable.evaluate]

end Fireable
end RuleEngine
