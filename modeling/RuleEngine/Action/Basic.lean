import RuleEngine.Action.Program

/-!
# Actions

The action of a rule is a method of a rule class.  It declares the types of its parameters; its body
is a program that depends on the arguments.
-/

namespace RuleEngine

/-- The action of a rule. -/
structure Action where
  owner : String
  method : String
  signature : List Ty
  body : List Value → Program Unit

namespace Action

def debug (a : Action) : String :=
  s!"ActionBody({a.owner}::{a.method}/{a.signature.length})"

end Action
end RuleEngine
