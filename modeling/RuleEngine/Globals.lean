import RuleEngine.Error
import RuleEngine.Table
import RuleEngine.Value.Basic

/-!
# Globals

Globals are named values that a session offers to its rules.  Their types may be declared; a value
that does not fit the declared type of its name is refused, and names without a declared type take
any value.
-/

namespace RuleEngine

abbrev GlobalTypes := Table Ty

/-- The values of globals and their declared types. -/
structure Globals where
  types : GlobalTypes
  values : Table Value

namespace Globals

def ofTypes (types : GlobalTypes) : Globals :=
  ⟨types, .empty⟩

instance : Inhabited Globals := ⟨ofTypes .empty⟩

/-- Declares the type of a name. -/
def declare (g : Globals) (name : String) (type : Ty) : Globals :=
  { g with types := g.types.insert name type }

def check (g : Globals) (name : String) (v : Value) : Except Error Unit :=
  match g.types.find? name with
  | some type =>
    if v.fits type then .ok () else .error (Cause.typeMismatch type v.type)
  | none => .ok ()

def set (g : Globals) (name : String) (v : Value) : Except Error Globals :=
  match g.check name v with
  | .ok () => .ok { g with values := g.values.insert name v }
  | .error e => .error e

def find? (g : Globals) (name : String) : Option Value :=
  g.values.find? name

def require (g : Globals) (name : String) : Except Error Value :=
  match g.find? name with
  | some v => .ok v
  | none => .error (Cause.missingGlobal name)

end Globals
end RuleEngine
