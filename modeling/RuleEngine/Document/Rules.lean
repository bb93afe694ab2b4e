import RuleEngine.Document.Values
import RuleEngine.Rule.Deferred

/-!
# Built rules as documents

What a plan, a layout, a consequence and a resolution show of themselves.
-/

namespace RuleEngine

def Plan.toDocument (p : Plan) : Document :=
  .object
    [("declarations", .strings (p.declarations.map (·.name))),
      ("order", .array (p.order.map .nat)), ("chain_depth", .nat p.rootDepth),
      ("len", .nat p.size), ("empty", .bool p.declarations.isEmpty)]

def Parameter.kind : Parameter → String
  | .value .. => "value"
  | .identity _ => "identity"
  | .global .. => "global"

def Layout.toDocument (l : Layout) : Document :=
  .object
    [("slots", .array (l.parameters.map fun p => .strings [p.kind, p.display, p.type.toText])),
      ("len", .nat l.size), ("empty", .bool l.parameters.isEmpty),
      ("declarations", .nat l.declarations), ("globals", .nat l.globals),
      ("types", .strings (l.types.map Ty.toText))]

def Consequence.toDocument (c : Consequence) : Document :=
  .object
    [("name", .string c.name), ("rule", .string c.rule), ("layout", c.layout.toDocument),
      ("plan", c.plan.toDocument), ("action", .string c.action.debug),
      ("class", .string c.action.owner), ("method", .string c.action.method)]

def Deferred.toDocument (d : Deferred) : Document :=
  .object
    [("name", .string d.name), ("compiled", .bool d.isBuilt), ("debug", .string d.debug)]

def Resolution.toDocument (tally : SourceId → Tally) (r : Resolution) : Document :=
  let slot (b : Binding) : Document :=
    .array [b.value.toDocument tally, b.identity.toDocument tally]
  .object
    [("slots", .array (r.bindings.map slot)), ("visits", .nat r.visits),
      ("deepest", .nat r.deepest)]

end RuleEngine
