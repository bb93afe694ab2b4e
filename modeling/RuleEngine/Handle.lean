/-!
# Fact handles

A fact that enters a working memory is known from then on by its handle: a number that the memory
gives out once, and the partition of the entry point through which the fact came in.
-/

namespace RuleEngine

/-- The identity of a fact in a working memory. -/
structure Handle where
  id : Nat
  partition : Nat
deriving DecidableEq

namespace Handle

/-- Handles are ordered by age, and by partition where the ages agree. -/
def order (a b : Handle) : Ordering :=
  (compare a.id b.id).then (compare a.partition b.partition)

/-- Whether a handle fits its written form: 64 bits for the number, 32 for the partition. -/
def fits (h : Handle) : Bool :=
  h.id < UInt64.size && h.partition < UInt32.size

/-- The name of a handle: its number and its partition. -/
def name (h : Handle) : String :=
  s!"{h.id}@{h.partition}"

def debug (h : Handle) : String :=
  s!"FactHandle({h.name})"

def display (h : Handle) : String :=
  s!"Fact({h.id})"

end Handle
end RuleEngine
