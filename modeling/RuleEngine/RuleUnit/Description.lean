import RuleEngine.Globals

/-!
# Descriptions of rule units

A rule unit groups rules that share data.  Its variables are bound in a session: each becomes a
global of its name, and a variable that is a source also feeds the entry point of its name.
-/

namespace RuleEngine

/-- A variable of a rule unit.  `getter` is the accessor by which the data of the unit answers its
value. -/
structure Variable where
  name : String
  getter : String
  isSource : Bool
  type : Ty
deriving DecidableEq

/-- A rule unit: its package, the qualified and the simple name of its data type, the name of its
compiled model, and its variables. -/
structure UnitDescription where
  package : String
  dataType : String
  name : String
  model : String
  vars : List Variable
deriving DecidableEq

namespace UnitDescription

/-- A unit of a name in a package, without variables. -/
def ofName (package name : String) : UnitDescription where
  package := package
  dataType := if package.isEmpty then name else package ++ "." ++ name
  name := name
  model := name ++ "Model"
  vars := []

/-- The types of the globals that the rules of a unit may read. -/
def globalTypes (d : UnitDescription) : GlobalTypes :=
  .ofList (d.vars.map fun v => (v.name, v.type))

end UnitDescription

/-- The data of a unit: what each accessor answers, if the data has it. -/
abbrev UnitData := String → Option Value

end RuleEngine
