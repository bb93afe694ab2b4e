import RuleEngine.Document.Basic
import RuleEngine.Error

/-!
# Errors as documents

The document of an error shows the kind of its cause, its wording, whether it aborts a build, and
the context in which it arose.
-/

namespace RuleEngine

def Cause.kind : Cause → String
  | typeMismatch .. => "TypeMismatch"
  | missingGlobal _ => "MissingGlobal"
  | unresolvedGlobal _ => "UnresolvedGlobal"
  | missingTemplate _ => "MissingTemplate"
  | malformedTemplate .. => "MalformedTemplate"
  | missingPlaceholder .. => "MissingPlaceholder"
  | depthOutOfRange .. => "DepthOutOfRange"
  | signatureMismatch _ => "SignatureMismatch"
  | invalidDeclaration _ => "InvalidDeclaration"
  | action _ => "Action"
  | missingAccessor _ => "MissingAccessor"
  | factNotFound _ => "FactNotFound"
  | internal _ => "Internal"

def Context.toDocument (c : Context) : Document :=
  .object
    [("rule", .optional (c.rule.map .string)), ("artifact", .optional (c.artifact.map .string)),
      ("stack", .strings c.stack), ("text", .string c.toText)]

def Error.members (e : Error) : List (String × Document) :=
  [("error", .string e.cause.kind), ("message", .string e.message), ("build", .bool e.abortsBuild),
    ("context", .optional (e.context.map Context.toDocument))]

end RuleEngine
