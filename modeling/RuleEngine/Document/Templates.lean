import RuleEngine.Document.Basic
import RuleEngine.Template.SourceText

/-!
# Classes as documents

The document of a class lists its parts with their types as text, and the slots that are still open.
Bodies of methods are shown by their lengths; `Template.render` shows them in full.
-/

namespace RuleEngine

def TypedName.listDocument (ps : List TypedName) : Document :=
  .strings (ps.map (TypedName.render Slot.marker))

def Method.toDocument (m : Method) : Document :=
  .object
    [("name", .string m.name), ("receiver", .bool m.receiver), ("body", .nat m.body.length),
      ("params", TypedName.listDocument m.params),
      ("returns", .optional (m.returns.map fun t => .string t.text))]

def Template.toDocument (t : Template) : Document :=
  .object
    [("template", .string t.origin), ("package", .optional (t.package.map .string)),
      ("name", .string t.name.text), ("implements", .strings (t.implements.map TypeExpr.text)),
      ("fields", TypedName.listDocument t.fields),
      ("constructor", .optional (t.maker?.map Method.toDocument)),
      ("methods", .array (t.methods.map Method.toDocument)),
      ("placeholders", .strings (t.placeholders.map Slot.marker))]

end RuleEngine
