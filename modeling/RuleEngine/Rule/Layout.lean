import RuleEngine.Resolution

/-!
# Parameter layouts

The arguments of an action are laid out by its rule: for each declaration, by place, its value and
its handle, and then the globals in the order in which the rule names them.
-/

namespace RuleEngine

/-- One parameter of an action. -/
inductive Parameter where
  /-- The value of a declaration. -/
  | value (declaration : String) (type : Ty)
  /-- The handle of a declaration, or nil. -/
  | identity (declaration : String)
  /-- The value of a global. -/
  | global (name : String) (type : Ty)
deriving DecidableEq

namespace Parameter

/-- The type that an action must declare for a parameter. -/
def type : Parameter → Ty
  | value _ type => type
  | identity _ => .handle
  | global _ type => type

def display : Parameter → String
  | value declaration type => declaration ++ ": " ++ type.toText
  | identity declaration => declaration ++ "#handle"
  | global name type => "global " ++ name ++ ": " ++ type.toText

end Parameter

/-- The parameters of an action, in order, and the number of declarations among them. -/
structure Layout where
  parameters : List Parameter
  declarations : Nat
deriving DecidableEq

namespace Layout

def ofPlan (plan : Plan) (globals : List (String × Ty)) : Layout where
  parameters :=
    (plan.declarations.flatMap fun d => [.value d.name d.type, .identity d.name]) ++
      globals.map fun g => .global g.1 g.2
  declarations := plan.size

def size (l : Layout) : Nat :=
  l.parameters.length

def globals (l : Layout) : Nat :=
  l.size - 2 * l.declarations

def types (l : Layout) : List Ty :=
  l.parameters.map Parameter.type

/-- The first parameter whose type differs from the declared one, with its position and the declared
type. -/
def firstMismatch? (l : Layout) (signature : List Ty) : Option (Nat × Parameter × Ty) :=
  let numbered := (l.parameters.zip signature).zipIdx
  (numbered.find? fun ((parameter, declared), _) => parameter.type != declared).map
    fun ((parameter, declared), position) => (position, parameter, declared)

/-- Checks that the parameters that an action declares are those of the layout. -/
def verify (l : Layout) (signature : List Ty) : Except Error Unit :=
  if signature.length ≠ l.size then
    .error <| Cause.signatureMismatch
      s!"action declares {signature.length} parameters, layout has {l.size}"
  else
    match l.firstMismatch? signature with
    | none => .ok ()
    | some (position, parameter, declared) =>
      .error <| Cause.signatureMismatch <|
        s!"parameter {position} ({parameter.display}) expects {parameter.type.toText}, " ++
          "action declares " ++ declared.toText

end Layout
end RuleEngine
