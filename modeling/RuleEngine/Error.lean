import RuleEngine.Handle
import RuleEngine.Ty

/-!
# Errors

An error has a cause and, once it is known where the error arose, a context.  Some causes abort the
build of a rule or of a rule unit; the others belong to a firing.
-/

namespace RuleEngine

/-- Why an operation failed. -/
inductive Cause where
  /-- A value does not fit the type declared for its place. -/
  | typeMismatch (expected actual : Ty)
  /-- A global has no value in the session. -/
  | missingGlobal (name : String)
  /-- A rule reads a global that was never declared. -/
  | unresolvedGlobal (name : String)
  /-- There is no template of the name. -/
  | missingTemplate (name : String)
  /-- A template lacks something that every template must have. -/
  | malformedTemplate (template reason : String)
  /-- A slot of a template was left open. -/
  | missingPlaceholder (template slot : String)
  /-- A declaration stands deeper than the chain reaches. -/
  | depthOutOfRange (declaration : String) (depth max : Nat)
  /-- An action declares other parameters than its rule passes. -/
  | signatureMismatch (message : String)
  /-- A list of declarations is not consistent. -/
  | invalidDeclaration (message : String)
  /-- An action refused. -/
  | action (message : String)
  /-- The data of a rule unit does not answer an accessor. -/
  | missingAccessor (getter : String)
  /-- A handle is not live. -/
  | factNotFound (handle : Handle)
  /-- The engine itself is out of order. -/
  | internal (message : String)
deriving DecidableEq

namespace Cause

def message : Cause → String
  | typeMismatch expected actual =>
    "type mismatch: expected " ++ expected.toText ++ ", got " ++ actual.toText
  | missingGlobal name => "missing global: " ++ name
  | unresolvedGlobal name => "unresolved global: " ++ name
  | missingTemplate name => "missing template: " ++ name
  | malformedTemplate template reason => "malformed template " ++ template ++ ": " ++ reason
  | missingPlaceholder template slot =>
    "placeholder " ++ slot ++ " left unfilled in template " ++ template
  | depthOutOfRange declaration depth max =>
    s!"declaration {declaration} at depth {depth} exceeds match chain depth {max}"
  | signatureMismatch message => "signature mismatch: " ++ message
  | invalidDeclaration message => "invalid declaration: " ++ message
  | action message => "action failed: " ++ message
  | missingAccessor getter => "rule unit has no accessor " ++ getter
  | factNotFound handle => "fact not found: " ++ handle.debug
  | internal message => "internal error: " ++ message

/-- Whether a cause aborts a build rather than a firing. -/
def abortsBuild : Cause → Bool
  | unresolvedGlobal _ | missingTemplate _ | malformedTemplate .. | missingPlaceholder ..
  | depthOutOfRange .. | signatureMismatch _ | invalidDeclaration _ => true
  | _ => false

end Cause

/-- Where an error arose: the rule or unit, the artifact built from it, and the steps inside. -/
structure Context where
  rule : Option String := none
  artifact : Option String := none
  stack : List String := []
deriving DecidableEq

namespace Context

/-- The wording of a context: the rule and the artifact on one line, then a line for each step. -/
def toText (c : Context) : String :=
  let rule := (c.rule.map ("in rule " ++ ·)).getD ""
  let artifact := (c.artifact.map fun a => " (" ++ a ++ ")").getD ""
  let steps := c.stack.map fun frame => "  in " ++ frame ++ "\n"
  rule ++ artifact ++ (if steps.isEmpty then "" else "\n" ++ String.join steps)

end Context

/-- A cause, with the context in which it arose. -/
structure Error where
  cause : Cause
  context : Option Context := none
deriving DecidableEq

namespace Error

/-- The wording of an error, which is that of its cause. -/
def message (e : Error) : String :=
  e.cause.message

/-- Whether an error aborts a build rather than a firing. -/
def abortsBuild (e : Error) : Bool :=
  e.cause.abortsBuild

def inContext (e : Error) (context : Context) : Error :=
  { e with context := some context }

/-- The error in its context, with a step added at the end. -/
def inStep (e : Error) (frame : String) : Error :=
  let context := e.context.getD {}
  e.inContext { context with stack := context.stack ++ [frame] }

/-- The error in its context, with the rule and the artifact named. -/
def inArtifact (e : Error) (rule artifact : String) : Error :=
  e.inContext { e.context.getD {} with rule := some rule, artifact := some artifact }

instance : Coe Cause Error := ⟨fun cause => { cause }⟩

end Error
end RuleEngine
