import RuleEngine.Text.Quoted
import RuleEngine.Value.Equality
import RuleEngine.WorkingMemory

/-!
# Declarations

A declaration binds a name for the action of a rule.  A direct declaration binds the fact at a depth
of the match chain.  An indirect one extracts a value from that fact; when the value is a fact or a
source itself, its handle is looked up in working memory.
-/

namespace RuleEngine

/-! ## Extractors -/

/-- How a value is extracted from a matched object. -/
inductive Extractor where
  /-- The object itself. -/
  | itself
  /-- A field of a fact, or the value under a string key of a map. -/
  | field (name : String)
  /-- Whatever a function answers.  It looks at the object and at working memory, and changes nothing; a
  function that remembers what it was asked, or publishes on the way, is not among these. -/
  | computed (label : String) (answer : Value → WorkingMemory → Except Error Value)

namespace Extractor

/-- Reads a field of a fact or the value under a string key of a map.  A field that is not there,
and any field of nil, is nil. -/
def readField (name : String) (object : Value) : Except Error Value :=
  match object with
  | .fact _ _ fields => .ok ((Entries.find? name fields).getD .nil)
  | .map entries => .ok ((Value.lookup (.string name) entries).getD .nil)
  | .nil => .ok .nil
  | other => .error (Cause.typeMismatch (.fact ("<record with " ++ name ++ ">")) other.type)

def extract (x : Extractor) (object : Value) (memory : WorkingMemory) : Except Error Value :=
  match x with
  | itself => .ok object
  | field name => readField name object
  | computed _ answer => answer object memory

def label : Extractor → String
  | itself => "this"
  | field name => "." ++ name
  | computed label _ => label

end Extractor

/-! ## Declarations -/

/-- A binding of a rule.  `depth` is the depth of its node and `index` its place among the
declarations of the rule.  A declaration without an extractor is direct. -/
structure Declaration where
  name : String
  type : Ty
  depth : Nat
  index : Nat
  extractor? : Option Extractor

namespace Declaration

def isIndirect (d : Declaration) : Bool :=
  d.extractor?.isSome

def extractor (d : Declaration) : Extractor :=
  d.extractor?.getD .itself

def debug (d : Declaration) : String :=
  let name := Text.quoted d.name
  let type := d.type.toText
  let indirect := if d.isIndirect then "true" else "false"
  let extractor := Text.quoted d.extractor.label
  "Declaration \x7b name: " ++ name ++ ", type: " ++ type ++
    s!", depth: {d.depth}, index: {d.index}" ++
    ", indirect: " ++ indirect ++ ", extractor: " ++ extractor ++ " \x7d"

def check (d : Declaration) (v : Value) : Except Error Unit :=
  if v.fits d.type then .ok () else .error (Cause.typeMismatch d.type v.type)

end Declaration
end RuleEngine
