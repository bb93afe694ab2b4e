import RuleEngine.Document.Basic
import RuleEngine.Value.Text

/-!
# Values as documents

The document of a value shows all of its content: the bits of a number, the fields of a fact, the
tallies of a stream.  The entries of a map have no order of their own and are listed by the compact
text of their keys, then of their values.
-/

namespace RuleEngine
namespace Value

/-- The order of two entries of a map by their compact texts. -/
def entryBefore (a b : Document × Document) : Bool :=
  let (keyA, keyB) := (a.1.compact, b.1.compact)
  if keyA = keyB then a.2.compact ≤ b.2.compact else keyA ≤ keyB

/-- The document of entries that are documents already. -/
def mapDocument (entries : List (Document × Document)) : Document :=
  .object [("map", .array ((entries.mergeSort entryBefore).map fun e => .array [e.1, e.2]))]

mutual

def toDocument (tally : SourceId → Tally) : Value → Document
  | nil => .null
  | bool b => .bool b
  | int n => .int n.toInt
  | float x =>
    let digits := Document.paddedHexadecimal 16 x.bits.toNat
    .object [("float", .string (String.ofList digits))]
  | string s => .string s
  | handle h => .object [("handle", .string h.name)]
  | fact _ typeName fields =>
    .object [("fact", .string typeName), ("fields", .array (fieldDocuments tally fields))]
  | vec items => .object [("vec", .array (itemDocuments tally items))]
  | map entries => mapDocument (entryDocuments tally entries)
  | source id =>
    .object [("source", .nat (tally id).values), ("subscribers", .nat (tally id).subscribers)]

def fieldDocument (tally : SourceId → Tally) : String × Value → Document
  | (name, v) => .array [.string name, toDocument tally v]

def fieldDocuments (tally : SourceId → Tally) : List (String × Value) → List Document
  | [] => []
  | e :: rest => fieldDocument tally e :: fieldDocuments tally rest

def itemDocuments (tally : SourceId → Tally) : List Value → List Document
  | [] => []
  | v :: rest => toDocument tally v :: itemDocuments tally rest

def entryDocument (tally : SourceId → Tally) : Value × Value → Document × Document
  | (k, v) => (toDocument tally k, toDocument tally v)

def entryDocuments (tally : SourceId → Tally) : List (Value × Value) → List (Document × Document)
  | [] => []
  | e :: rest => entryDocument tally e :: entryDocuments tally rest

end

end Value
end RuleEngine
