import RuleEngine.Error
import RuleEngine.Template.SourceText

/-!
# Specialization

Specializing a template fills its slots with names and may replace the bodies of methods.  It ends
with a class without slots, or with the slot that was left open and that comes first in the
template.
-/

namespace RuleEngine

abbrev Fills := Slot → Option String

namespace Fills

def empty : Fills :=
  fun _ => none

def set (fills : Fills) (s : Slot) (name : String) : Fills :=
  fun t => if t = s then some name else fills t

end Fills

/-! ## Filling in

Each function answers the first slot that is not filled, if there is one. -/

/-- The results of a function on all items, or the first failure. -/
def fillAll {α : Type} (f : α → Except Slot α) : List α → Except Slot (List α)
  | [] => .ok []
  | a :: rest => do return (← f a) :: (← fillAll f rest)

/-- The result of a function on the item, if there is one. -/
def fillOption {α : Type} (f : α → Except Slot α) : Option α → Except Slot (Option α)
  | none => .ok none
  | some a => (f a).map some

mutual

def TypeExpr.fill (fills : Fills) : TypeExpr → Except Slot TypeExpr
  | .named name => .ok (.named name)
  | .slot s =>
    match fills s with
    | some name => .ok (.named name)
    | none => .error s
  | .generic name arguments => (TypeExpr.fillList fills arguments).map (.generic name)

def TypeExpr.fillList (fills : Fills) : List TypeExpr → Except Slot (List TypeExpr)
  | [] => .ok []
  | t :: rest => do return (← t.fill fills) :: (← TypeExpr.fillList fills rest)

end

mutual

def Expr.fill (fills : Fills) : Expr → Except Slot Expr
  | .name x => .ok (.name x)
  | .str text => .ok (.str text)
  | .self => .ok .self
  | .call target method arguments => do
    return .call (← target.fill fills) method (← Expr.fillList fills arguments)
  | .apply function arguments => do return .apply function (← Expr.fillList fills arguments)
  | .new type arguments => do return .new (← type.fill fills) (← Expr.fillList fills arguments)
  | .init type fields => do return .init (← type.fill fills) (← Expr.fillFields fills fields)

def Expr.fillList (fills : Fills) : List Expr → Except Slot (List Expr)
  | [] => .ok []
  | e :: rest => do return (← e.fill fills) :: (← Expr.fillList fills rest)

def Expr.fillField (fills : Fills) : String × Expr → Except Slot (String × Expr)
  | (field, e) => (e.fill fills).map (field, ·)

def Expr.fillFields (fills : Fills) : List (String × Expr) → Except Slot (List (String × Expr))
  | [] => .ok []
  | f :: rest => do return (← Expr.fillField fills f) :: (← Expr.fillFields fills rest)

end

def Stmt.fill (fills : Fills) : Stmt → Except Slot Stmt
  | .expr e => (e.fill fills).map .expr
  | .result e => (e.fill fills).map .result

def TypedName.fill (fills : Fills) (p : TypedName) : Except Slot TypedName :=
  (p.type.fill fills).map (⟨p.name, ·⟩)

def Method.fill (fills : Fills) (m : Method) : Except Slot Method := do
  let params ← fillAll (TypedName.fill fills) m.params
  let returns ← fillOption (TypeExpr.fill fills) m.returns
  let body ← fillAll (Stmt.fill fills) m.body
  return ⟨m.name, m.receiver, params, returns, body⟩

def Template.fill (fills : Fills) (t : Template) : Except Slot Template := do
  let name ← t.name.fill fills
  let implements ← fillAll (TypeExpr.fill fills) t.implements
  let fields ← fillAll (TypedName.fill fills) t.fields
  let maker? ← fillOption (Method.fill fills) t.maker?
  let methods ← fillAll (Method.fill fills) t.methods
  return ⟨t.origin, t.package, name, implements, fields, maker?, methods⟩

/-! ## Specializations -/

/-- A specialization under way: the template as it stands, and the names given so far. -/
structure Specialization where
  base : Template
  fills : Fills

namespace Specialization

/-- Begins to specialize a template, whose class name must be open. -/
def start (template : Template) : Except Error Specialization :=
  match template.name with
  | .slot .className => .ok ⟨template, .empty⟩
  | name =>
    .error <| Cause.malformedTemplate template.origin
      ("class name is " ++ name.text ++ ", not " ++ Slot.className.marker)

def fill (s : Specialization) (slot : Slot) (name : String) : Specialization :=
  { s with fills := s.fills.set slot name }

def inPackage (s : Specialization) (package : String) : Specialization :=
  { s with base := { s.base with package := some package } }

/-- Methods with another body for the first one of a name. -/
def replaceFirst (name : String) (body : List Stmt) : List Method → List Method
  | [] => []
  | m :: rest =>
    if m.name = name then { m with body := body } :: rest else m :: replaceFirst name body rest

def withBody (s : Specialization) (name : String) (body : List Stmt) :
    Except Error Specialization :=
  match s.base.method? name with
  | none => .error (Cause.malformedTemplate s.base.origin ("no method " ++ name))
  | some _ =>
    let methods := replaceFirst name body s.base.methods
    .ok { s with base := { s.base with methods := methods } }

def finish (s : Specialization) : Except Error Template :=
  (s.base.fill s.fills).mapError fun slot =>
    Cause.missingPlaceholder s.base.origin slot.marker

end Specialization
end RuleEngine
