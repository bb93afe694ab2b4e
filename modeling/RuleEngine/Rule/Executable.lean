import RuleEngine.Action.Program

/-!
# Executables

What is fired is an executable.  It has a name, and in each firing it is a program: the program looks
at the firing, computes what the action needs, and goes on as the action.
-/

namespace RuleEngine

/-- The executable form of a consequence: its name, and the program that evaluates it in a firing. -/
structure Executable where
  name : String
  program : Firing → Program Unit

namespace Executable

/-- Evaluates an executable in a firing. -/
def evaluate (x : Executable) (firing : Firing) (s : Progress) : Except Error Unit × Progress :=
  (x.program firing).run firing s

end Executable
end RuleEngine
