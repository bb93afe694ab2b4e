import RuleEngine.Document.Basic
import RuleEngine.Handle
import RuleEngine.Ty

/-!
# Types and handles as documents

Readers and writers of types and handles are derived from their declarations; what stands here is the
documented format that such code follows, the one for externally tagged data.  A type without parts is
written as its tag alone, and a type with parts as an object with one member, named by the tag; a
handle is an object with a member for each of its numbers.  Reading accepts a little more than writing
produces: a tag without parts may also carry null, a handle may also be the list of its two numbers,
and members that a handle does not have are ignored.  A handle in which one of its two members occurs
twice is refused.
-/

namespace RuleEngine

namespace Ty

def toDocument : Ty → Document
  | nil => .string "Nil"
  | bool => .string "Bool"
  | int => .string "Int"
  | float => .string "Float"
  | string => .string "String"
  | handle => .string "Handle"
  | source => .string "Source"
  | any => .string "Any"
  | fact name => .object [("Fact", .string name)]
  | vec element => .object [("Vec", element.toDocument)]
  | map key value => .object [("Map", .array [key.toDocument, value.toDocument])]
  | option inner => .object [("Option", inner.toDocument)]

def ofTag? (tag : String) : Option Ty :=
  match tag with
  | "Nil" => some nil
  | "Bool" => some bool
  | "Int" => some int
  | "Float" => some float
  | "String" => some string
  | "Handle" => some handle
  | "Source" => some source
  | "Any" => some any
  | _ => none

def ofDocument? : Document → Option Ty
  | .string tag => ofTag? tag
  | .object [("Fact", .string name)] => some (fact name)
  | .object [("Vec", element)] => (ofDocument? element).map vec
  | .object [("Map", .array [key, value])] =>
    match ofDocument? key, ofDocument? value with
    | some key, some value => some (map key value)
    | _, _ => none
  | .object [("Option", inner)] => (ofDocument? inner).map option
  | .object [(tag, .null)] => ofTag? tag
  | _ => none

end Ty

namespace Handle

def toDocument (h : Handle) : Document :=
  .object [("id", .nat h.id), ("partition", .nat h.partition)]

def ofNumbers? (id partition : Document) : Option Handle :=
  match id, partition with
  | .number (.ofNat id) 0, .number (.ofNat partition) 0 =>
    let h : Handle := ⟨id, partition⟩
    if h.fits then some h else none
  | _, _ => none

def ofDocument? : Document → Option Handle
  | .array [id, partition] => ofNumbers? id partition
  | .object members =>
    match members.filter (·.1 = "id"), members.filter (·.1 = "partition") with
    | [(_, id)], [(_, partition)] => ofNumbers? id partition
    | _, _ => none
  | _ => none

end Handle
end RuleEngine
