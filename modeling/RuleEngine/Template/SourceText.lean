import RuleEngine.Template.Basic
import RuleEngine.Text.Quoted

/-!
# Source text of classes

A class is written as a struct, an implementation block with its constructor, and a block with its
methods, which belongs to the first trait that the class implements if there is one.

The text is made of lines, each with the level at which it is nested; only writing them out turns
levels into blanks.  All functions take the text that stands for an open slot.  `Template.render`
writes the marker of the slot.
-/

namespace RuleEngine

/-! ## Types and expressions -/

abbrev SlotText := Slot → String

def commaList (texts : List String) : String :=
  ", ".intercalate texts

def parenthesized (texts : List String) : String :=
  "(" ++ commaList texts ++ ")"

mutual

def TypeExpr.render (slotText : SlotText) : TypeExpr → String
  | .named name => name
  | .slot s => slotText s
  | .generic name arguments =>
    name ++ "<" ++ commaList (TypeExpr.renderAll slotText arguments) ++ ">"

def TypeExpr.renderAll (slotText : SlotText) : List TypeExpr → List String
  | [] => []
  | t :: rest => t.render slotText :: TypeExpr.renderAll slotText rest

end

/-- The text of a type inside an expression, where the arguments of a generic type are set apart by
colons. -/
def TypeExpr.renderPath (slotText : SlotText) : TypeExpr → String
  | .generic name arguments =>
    name ++ "::<" ++ commaList (TypeExpr.renderAll slotText arguments) ++ ">"
  | t => t.render slotText

mutual

def Expr.render (slotText : SlotText) : Expr → String
  | .name x => x
  | .str text => Text.quoted text
  | .self => "self"
  | .call target method arguments =>
    target.render slotText ++ "." ++ method ++ parenthesized (Expr.renderAll slotText arguments)
  | .apply function arguments => function ++ parenthesized (Expr.renderAll slotText arguments)
  | .new type arguments =>
    type.renderPath slotText ++ "::new" ++ parenthesized (Expr.renderAll slotText arguments)
  | .init type fields =>
    type.renderPath slotText ++ " \x7b " ++ commaList (Expr.renderFields slotText fields) ++ " \x7d"

def Expr.renderAll (slotText : SlotText) : List Expr → List String
  | [] => []
  | e :: rest => e.render slotText :: Expr.renderAll slotText rest

/-- The text of a field of an object.  A field that is given by a local name of its own name is
written once. -/
def Expr.renderField (slotText : SlotText) : String × Expr → String
  | (field, e) =>
    match e with
    | .name x => if x = field then field else field ++ ": " ++ x
    | e => field ++ ": " ++ e.render slotText

def Expr.renderFields (slotText : SlotText) : List (String × Expr) → List String
  | [] => []
  | f :: rest => Expr.renderField slotText f :: Expr.renderFields slotText rest

end

def Stmt.render (slotText : SlotText) : Stmt → String
  | .expr e => e.render slotText ++ ";"
  | .result e => e.render slotText

def TypedName.render (slotText : SlotText) (p : TypedName) : String :=
  p.name ++ ": " ++ p.type.render slotText

/-! ## Lines -/

/-- A line and the level at which it is nested. -/
structure Line where
  level : Nat
  text : String
deriving DecidableEq

namespace Method

def head (slotText : SlotText) (isPublic : Bool) (m : Method) : String :=
  let receiver := if m.receiver then ["&self"] else []
  let returns :=
    match m.returns with
    | some t => " -> " ++ t.render slotText
    | none => ""
  (if isPublic then "pub " else "") ++ "fn " ++ m.name ++
    parenthesized (receiver ++ m.params.map (TypedName.render slotText)) ++ returns

/-- The lines of a method.  A method without statements takes one line. -/
def lines (slotText : SlotText) (isPublic : Bool) (level : Nat) (m : Method) : List Line :=
  let head := m.head slotText isPublic
  if m.body.isEmpty then
    [⟨level, head ++ " \x7b\x7d"⟩]
  else
    ⟨level, head ++ " \x7b"⟩ ::
      m.body.map (fun s => ⟨level + 1, s.render slotText⟩) ++ [⟨level, "\x7d"⟩]

end Method

namespace Template

def headerLines (t : Template) : List Line :=
  let package :=
    match t.package with
    | some package => [⟨0, "// package " ++ package⟩]
    | none => []
  package ++ [⟨0, "// generated from " ++ t.origin⟩, ⟨0, ""⟩]

def structLines (slotText : SlotText) (t : Template) : List Line :=
  let head := "pub struct " ++ t.name.render slotText
  if t.fields.isEmpty then
    [⟨0, head ++ ";"⟩]
  else
    ⟨0, head ++ " \x7b"⟩ ::
      t.fields.map (fun f => ⟨1, f.render slotText ++ ","⟩) ++ [⟨0, "\x7d"⟩]

def blockLines (head : String) (body : List Line) : List Line :=
  ⟨0, ""⟩ :: ⟨0, "impl " ++ head ++ " \x7b"⟩ :: body ++ [⟨0, "\x7d"⟩]

def makerLines (slotText : SlotText) (t : Template) : List Line :=
  match t.maker? with
  | none => []
  | some m => blockLines (t.name.render slotText) (m.lines slotText true 1)

/-- The lines of methods, with an empty line between two of them. -/
def methodLines (slotText : SlotText) (isPublic : Bool) (methods : List Method) : List Line :=
  [(⟨1, ""⟩ : Line)].intercalate (methods.map (Method.lines slotText isPublic 1))

def methodsLines (slotText : SlotText) (t : Template) : List Line :=
  if t.methods.isEmpty then
    []
  else
    -- the methods of a trait are as public as the trait
    match t.implements with
    | [] => blockLines (t.name.render slotText) (methodLines slotText true t.methods)
    | first :: _ =>
      blockLines (first.render slotText ++ " for " ++ t.name.render slotText)
        (methodLines slotText false t.methods)

def bodyLines (slotText : SlotText) (t : Template) : List Line :=
  t.structLines slotText ++ t.makerLines slotText ++ t.methodsLines slotText

end Template

/-! ## Text -/

/-- How lines are written: the blanks for each level, and whether the header is written. -/
structure RenderStyle where
  indent : Nat := 4
  header : Bool := true
deriving DecidableEq

/-- A line with its blanks and its end.  An empty line has no blanks. -/
def Line.render (style : RenderStyle) (l : Line) : String :=
  if l.text.isEmpty then
    "\n"
  else
    String.ofList (List.replicate (l.level * style.indent) ' ') ++ l.text ++ "\n"

namespace Template

def lines (slotText : SlotText) (style : RenderStyle) (t : Template) : List Line :=
  (if style.header then t.headerLines else []) ++ t.bodyLines slotText

/-- The source text of a class, with given texts in the place of open slots. -/
def renderWith (slotText : SlotText) (style : RenderStyle) (t : Template) : String :=
  String.join ((t.lines slotText style).map (Line.render style))

def render (t : Template) (style : RenderStyle := {}) : String :=
  t.renderWith Slot.marker style

end Template

/-- The text of a type, with the markers of open slots. -/
def TypeExpr.text (t : TypeExpr) : String :=
  t.render Slot.marker

end RuleEngine
