import RuleEngine.Value.Basic

/-!
# Effects

An action does not change working memory.  It requests effects, and they are applied as one batch
once the action has returned.
-/

namespace RuleEngine

/-- A requested change of working memory. -/
inductive Effect where
  /-- Take an object in, through a named entry point or through the default one. -/
  | insert (entryPoint : Option String) (v : Value)
  /-- Put another object behind a handle. -/
  | update (h : Handle) (v : Value)
  /-- Take a handle out. -/
  | retract (h : Handle)

namespace Effect

def entryPoint? : Effect → Option String
  | insert entryPoint _ => entryPoint
  | _ => none

end Effect
end RuleEngine
