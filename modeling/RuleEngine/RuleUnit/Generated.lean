import RuleEngine.Naming.Tokens
import RuleEngine.RuleUnit.Wiring
import RuleEngine.Settings
import RuleEngine.Template.Catalog
import RuleEngine.Template.Specialize

/-!
# Generated classes of rule units

A description and a catalog of templates give two classes, which share a token in their names: the
class of the unit, and the class of its instances, whose method `bind` holds the binding statements.
-/

namespace RuleEngine

/-- The generated class of the instances of a unit, and the statements that bind its variables. -/
structure GeneratedInstance where
  name : Naming.GeneratedName
  shape : Template
  statements : List Wiring

/-- The generated class of a unit, and that of its instances. -/
structure GeneratedUnit where
  name : Naming.GeneratedName
  dataType : String
  shape : Template
  instances : GeneratedInstance

namespace GeneratedUnit

def instanceClass (catalog : Catalog) (d : UnitDescription) (package simple : String) :
    Except Error Template := do
  let template ← catalog.require Catalog.instanceTemplate
  let s ← Specialization.start template
  let s := ((s.fill .className simple).fill .unitClass d.name).inPackage package
  let s ← s.withBody Catalog.bindMethod (d.wirings.map Wiring.statement)
  s.finish

def unitClass (catalog : Catalog) (d : UnitDescription) (package simple instanceSimple : String) :
    Except Error Template := do
  let template ← catalog.require Catalog.unitTemplate
  let s ← Specialization.start template
  let s := (s.fill .className simple).fill .unitClass d.name
  let s := (s.fill .instanceClass instanceSimple).fill .unitModel d.model
  (s.inPackage package).finish

/-- An error of a unit, with the unit and the artifact that was being built. -/
def inUnit (d : UnitDescription) (artifact : String) (e : Error) : Error :=
  e.inContext { rule := some d.dataType, artifact := some artifact }

/-- The classes of a unit whose names carry a token.  The class of the instances is built first. -/
def build (settings : Settings) (catalog : Catalog) (d : UnitDescription) (token : UInt64) :
    Except Error GeneratedUnit := do
  let package := settings.packageFor d.package
  let unitName := Naming.artifact package (Naming.unitClass d.name token)
  let instanceName := Naming.artifact package (Naming.instanceClass d.name token)
  let instanceClass ←
    (instanceClass catalog d package instanceName.simple).mapError (inUnit d instanceName.simple)
  let unitClass ←
    (unitClass catalog d package unitName.simple instanceName.simple).mapError
      (inUnit d unitName.simple)
  return ⟨unitName, d.dataType, unitClass, ⟨instanceName, instanceClass, d.wirings⟩⟩

/-- The classes of a unit under names drawn for it.  The token is drawn whether or not the build
succeeds. -/
def buildFresh (settings : Settings) (catalog : Catalog) (d : UnitDescription)
    (tokens : TokenStream) : Except Error GeneratedUnit × TokenStream :=
  let (token, tokens) := tokens.draw
  (build settings catalog d token, tokens)

end GeneratedUnit

/-! ## Builders -/

/-- What rule units are built with: settings, a catalog of templates, and the tokens that are left. -/
structure UnitBuilder where
  settings : Settings
  catalog : Catalog
  tokens : TokenStream

/-- Builds a unit under names drawn for it. -/
def UnitBuilder.build (b : UnitBuilder) (d : UnitDescription) :
    Except Error GeneratedUnit × UnitBuilder :=
  let (outcome, tokens) := GeneratedUnit.buildFresh b.settings b.catalog d b.tokens
  (outcome, { b with tokens })

/-! ## Instances -/

/-- A unit that was bound to a session, with its data. -/
structure UnitInstance where
  artifact : GeneratedInstance
  data : UnitData

namespace UnitInstance

def debug (i : UnitInstance) : String :=
  s!"RuleUnitInstance({i.artifact.name.simple})"

end UnitInstance

namespace World

/-- Creates an instance of a unit for a session, which binds its variables. -/
def instantiate (w : World) (unit : GeneratedUnit) (data : UnitData) (id : SessionId) :
    Except Error UnitInstance × World :=
  match w.wire unit.instances.statements data id with
  | (w, none) => (.ok ⟨unit.instances, data⟩, w)
  | (w, some e) => (.error e, w)

end World
end RuleEngine
