import RuleEngine.Naming.Names

/-!
# Build settings

What the builds of rules and of rule units have in common.
-/

namespace RuleEngine

/-- The package of rules and units that do not name one, and whether the parameters of actions are
checked. -/
structure Settings where
  package : String := Naming.defaultPackage
  checkParameters : Bool := true
deriving DecidableEq

namespace Settings

/-- A package, or the package of the settings in place of none. -/
def packageFor (s : Settings) (package : String) : String :=
  if package.isEmpty then s.package else package

end Settings
end RuleEngine
