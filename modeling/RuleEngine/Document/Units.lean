import RuleEngine.Document.Basic
import RuleEngine.RuleUnit.Generated

/-!
# Rule units as documents

What the description and the artifacts of a rule unit show of themselves.
-/

namespace RuleEngine

def GlobalTypes.toDocument (types : GlobalTypes) : Document :=
  .array (types.entries.map fun e => .strings [e.1, e.2.toText])

def UnitDescription.toDocument (d : UnitDescription) : Document :=
  .object
    [("package", .string d.package), ("unit_type", .string d.dataType),
      ("name", .string d.name), ("model", .string d.model),
      ("globals", GlobalTypes.toDocument d.globalTypes)]

def Naming.GeneratedName.members (n : Naming.GeneratedName) (c : Template) :
    List (String × Document) :=
  [("name", .string n.simple), ("qualified", .string n.qualified), ("path", .string n.path),
    ("source", .string c.render)]

def GeneratedUnit.toDocument (u : GeneratedUnit) : Document :=
  .object <| u.name.members u.shape ++
    [("unit_type", .string u.dataType), ("class", .string u.shape.name.text),
      ("package", .optional (u.shape.package.map .string))]

/-- The document of the class of the instances of a unit. -/
def GeneratedInstance.toDocument (i : GeneratedInstance) : Document :=
  let bind := i.shape.method? Catalog.bindMethod
  .object <| i.name.members i.shape ++
    [("bind", .strings (i.statements.map Wiring.display)),
      ("bind_body", .optional (bind.map fun m => .nat m.body.length))]

end RuleEngine
