/-!
# Class templates

A template is a small class whose types may hold open slots in place of names.  Filling all slots
gives a class; a class is a template without slots.
-/

namespace RuleEngine

/-! ## Slots -/

/-- An open place in a template. -/
inductive Slot where
  /-- The generated class. -/
  | className
  /-- The data type of the rule unit. -/
  | unitClass
  /-- The generated class of instances. -/
  | instanceClass
  /-- The compiled model of the unit. -/
  | unitModel
deriving DecidableEq

namespace Slot

def all : List Slot :=
  [className, unitClass, instanceClass, unitModel]

def marker : Slot → String
  | className => "CLASS_NAME"
  | unitClass => "RULE_UNIT_CLASS"
  | instanceClass => "RULE_UNIT_INSTANCE_CLASS"
  | unitModel => "RULE_UNIT_MODEL"

end Slot

/-! ## Types, expressions, statements -/

/-- A type in a template. -/
inductive TypeExpr where
  | named (name : String)
  | slot (s : Slot)
  | generic (name : String) (arguments : List TypeExpr)

/-- An expression in the body of a method. -/
inductive Expr where
  /-- A local name. -/
  | name (name : String)
  /-- A string literal. -/
  | str (text : String)
  /-- The receiver. -/
  | self
  /-- A call of a method on a target. -/
  | call (target : Expr) (method : String) (arguments : List Expr)
  /-- A call of a function. -/
  | apply (function : String) (arguments : List Expr)
  /-- A new object, made by the constructor of its type. -/
  | new (type : TypeExpr) (arguments : List Expr)
  /-- An object given by its fields. -/
  | init (type : TypeExpr) (fields : List (String × Expr))

/-- A statement in the body of a method. -/
inductive Stmt where
  /-- An expression whose result is dropped. -/
  | expr (e : Expr)
  /-- The result of the method. -/
  | result (e : Expr)

def Stmt.expression : Stmt → Expr
  | expr e => e
  | result e => e

/-! ## Templates -/

/-- A named and typed parameter or field. -/
structure TypedName where
  name : String
  type : TypeExpr

/-- A method. -/
structure Method where
  name : String
  receiver : Bool
  params : List TypedName
  returns : Option TypeExpr
  body : List Stmt

/-- A class whose types may hold open slots.  `origin` is the name of the template that the class
was made from, which for a template is its own. -/
structure Template where
  origin : String
  package : Option String
  name : TypeExpr
  implements : List TypeExpr
  fields : List TypedName
  maker? : Option Method
  methods : List Method

namespace Template

/-- The template of a name whose class name is open and that has nothing else. -/
def ofName (origin : String) : Template :=
  ⟨origin, none, .slot .className, [], [], none, []⟩

def method? (t : Template) (name : String) : Option Method :=
  t.methods.find? (·.name = name)

end Template

/-! ## Slots of a template, in the order in which they occur -/

mutual

def TypeExpr.slots : TypeExpr → List Slot
  | .named _ => []
  | .slot s => [s]
  | .generic _ arguments => TypeExpr.slotsOfAll arguments

def TypeExpr.slotsOfAll : List TypeExpr → List Slot
  | [] => []
  | t :: rest => t.slots ++ TypeExpr.slotsOfAll rest

end

mutual

def Expr.slots : Expr → List Slot
  | .name _ | .str _ | .self => []
  | .call target _ arguments => target.slots ++ Expr.slotsOfAll arguments
  | .apply _ arguments => Expr.slotsOfAll arguments
  | .new type arguments => type.slots ++ Expr.slotsOfAll arguments
  | .init type fields => type.slots ++ Expr.slotsOfFields fields

def Expr.slotsOfAll : List Expr → List Slot
  | [] => []
  | e :: rest => e.slots ++ Expr.slotsOfAll rest

def Expr.slotsOfField : String × Expr → List Slot
  | (_, e) => e.slots

def Expr.slotsOfFields : List (String × Expr) → List Slot
  | [] => []
  | f :: rest => Expr.slotsOfField f ++ Expr.slotsOfFields rest

end

def Method.slots (m : Method) : List Slot :=
  m.params.flatMap (·.type.slots) ++ (m.returns.map TypeExpr.slots).getD [] ++
    m.body.flatMap (·.expression.slots)

/-- The slots in a template: name, traits, fields, constructor, methods. -/
def Template.slots (t : Template) : List Slot :=
  t.name.slots ++ t.implements.flatMap TypeExpr.slots ++ t.fields.flatMap (·.type.slots) ++
    (t.maker?.map Method.slots).getD [] ++ t.methods.flatMap Method.slots

/-- The slots that occur in a template, each once, in the order of `Slot.all`. -/
def Template.placeholders (t : Template) : List Slot :=
  Slot.all.filter (· ∈ t.slots)

end RuleEngine
