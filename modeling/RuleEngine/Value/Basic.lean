import RuleEngine.Table
import RuleEngine.Handle
import RuleEngine.Numeric.Binary64
import RuleEngine.Ty

/-!
# Values

The values that facts, bindings and actions are made of.  Values never change; two kinds of them
refer to something outside themselves.  A fact carries the number of its instance, so that a copy
of a fact can be told from another fact with the same content.  A source is the name of a shared
stream, whose content is kept by the world in which it lives.
-/

namespace RuleEngine

/-- The number of a fact instance. -/
structure InstanceId where
  index : Nat
deriving DecidableEq

/-- The number of a shared stream. -/
structure SourceId where
  index : Nat
deriving DecidableEq

/-- A value.  The fields of a fact ascend by name; the entries of a map stand in the order in which
their keys were first put in. -/
inductive Value where
  | nil
  | bool (b : Bool)
  | int (n : Int64)
  | float (x : Binary64)
  | string (s : String)
  | handle (h : Handle)
  | fact (inst : InstanceId) (typeName : String) (fields : List (String × Value))
  | vec (items : List Value)
  | map (entries : List (Value × Value))
  | source (id : SourceId)

namespace Value

instance : Inhabited Value := ⟨nil⟩

/-! ## Types -/

/-- The type of a value.  Collections do not know the types of their elements. -/
def type : Value → Ty
  | nil => .nil
  | bool _ => .bool
  | int _ => .int
  | float _ => .float
  | string _ => .string
  | handle _ => .handle
  | fact _ typeName _ => .fact typeName
  | vec _ => .vec .any
  | map _ => .map .any .any
  | source _ => .source

/-- Whether a value may stand where `declared` is asked for. -/
def fits (v : Value) (declared : Ty) : Bool :=
  declared.accepts v.type

/-! ## Parts -/

def isNil : Value → Bool
  | nil => true
  | _ => false

def int? : Value → Option Int64
  | int n => some n
  | _ => none

def string? : Value → Option String
  | string s => some s
  | _ => none

def handle? : Value → Option Handle
  | handle h => some h
  | _ => none

def source? : Value → Option SourceId
  | source id => some id
  | _ => none

def items? : Value → Option (List Value)
  | vec items => some items
  | _ => none

def factName? : Value → Option String
  | fact _ typeName _ => some typeName
  | _ => none

/-- The value of an optional handle: the handle, or nil. -/
def ofHandle? : Option Handle → Value
  | some h => handle h
  | none => nil

def field? (v : Value) (name : String) : Option Value :=
  match v with
  | fact _ _ fields => Entries.find? name fields
  | _ => none

end Value
end RuleEngine
