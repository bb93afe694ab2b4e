/-!
# Types

Types are declared for bindings, globals and action parameters.  `accepts` says which types of
values fit a declared type.  It is gradual: the collections of a running program carry no element
types, so unknown elements are taken on trust.
-/

namespace RuleEngine

/-- A declared type, or the type of a value. -/
inductive Ty where
  | nil
  | bool
  | int
  | float
  | string
  | handle
  | source
  | any
  | fact (name : String)
  | vec (element : Ty)
  | map (key value : Ty)
  | option (inner : Ty)
deriving DecidableEq

namespace Ty

def isAny : Ty → Bool
  | any => true
  | _ => false

def allowsNil : Ty → Bool
  | nil | any | option _ => true
  | _ => false

/-- Whether a value of the type `actual` may stand where `declared` is asked for.  An integer may
stand for a floating point number, and a collection of unknown elements for any collection. -/
def accepts (declared actual : Ty) : Bool :=
  match declared, actual with
  | any, _ => true
  | option _, nil => true
  | option inner, actual => inner.accepts actual
  | nil, nil | bool, bool | int, int | float, int | float, float => true
  | string, string | handle, handle | source, source => true
  | fact expected, fact actual => expected == actual
  | vec expected, vec actual => actual.isAny || expected.accepts actual
  | map key value, map key' value' =>
    (key'.isAny && value'.isAny) || (key.accepts key' && value.accepts value')
  | _, _ => false

def toText : Ty → String
  | nil => "nil"
  | bool => "bool"
  | int => "int"
  | float => "float"
  | string => "string"
  | handle => "handle"
  | source => "source"
  | any => "any"
  | fact name => name
  | vec element => "vec<" ++ element.toText ++ ">"
  | map key value => "map<" ++ key.toText ++ ", " ++ value.toText ++ ">"
  | option inner => "option<" ++ inner.toText ++ ">"

end Ty
end RuleEngine
