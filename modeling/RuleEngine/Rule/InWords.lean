import RuleEngine.ResolutionInWords
import RuleEngine.Rule.Deferred

/-!
# Evaluation in machine words

The arguments of an action are computed by resolving a plan.  With the plan resolved in words, the
computation may end in an overflow, and then it does so before the globals are read and before the
action has begun.
-/

namespace RuleEngine

namespace Consequence

/-- The arguments of the action in a firing. -/
def argumentsInWords (c : Consequence) (firing : Firing) :
    Except Overflow (Except Error (List Value)) :=
  (c.plan.resolveInWords firing.chain firing.memory).map fun resolved => do
    let resolution ← resolved
    let globals ← globalArguments firing.globals c.globals
    return (resolution.bindings.flatMap fun b => [b.value, b.identity]) ++ globals

/-- Computes the arguments and runs the action on them. -/
def evaluateInWords (c : Consequence) (firing : Firing) (s : Progress) :
    Except Overflow (Except Error Unit × Progress) :=
  (c.argumentsInWords firing).map fun
    | .error e => (.error (e.inArtifact c.rule c.name), s)
    | .ok arguments => (c.action.body arguments).run firing s

end Consequence

namespace Fireable

/-- Evaluates in a firing; what was deferred is built by then. -/
def evaluateInWords (u : Fireable) (firing : Firing) (s : Progress) :
    Except Overflow (Except Error Unit × Fireable × Progress) :=
  match u.force with
  | (.error e, u) => .ok (.error e, u, s)
  | (.ok c, u) => (c.evaluateInWords firing s).map fun (result, s) => (result, u, s)

end Fireable
end RuleEngine
