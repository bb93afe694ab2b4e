import RuleEngine.Value.Equality
import RuleEngine.Value.Text

/-!
# Match chains

A chain holds the facts that a rule matched, from the root to the tip.  Nodes are addressed by their
depth, which counts from the tip: the tip is at depth zero, and the root is deepest.

A walk ascends a chain from the tip towards the root and never goes back.
-/

namespace RuleEngine

/-- A matched fact: its handle and its object at the time of the match. -/
structure Node where
  handle : Handle
  object : Value

/-- A chain of matched facts, root first. -/
structure Chain where
  nodes : List Node

namespace Chain

instance : Inhabited Chain := ⟨⟨[]⟩⟩

def length (c : Chain) : Nat :=
  c.nodes.length

def extend (c : Chain) (node : Node) : Chain :=
  ⟨c.nodes ++ [node]⟩

def rootDepth? (c : Chain) : Option Nat :=
  if c.nodes.isEmpty then none else some (c.length - 1)

def tip? (c : Chain) : Option Node :=
  c.nodes.getLast?

def node? (c : Chain) (depth : Nat) : Option Node :=
  if depth < c.length then c.nodes[c.length - (depth + 1)]? else none

/-- Whether two nodes have the same handle and equal objects. -/
def sameNode (a b : Node) : Bool :=
  a.handle == b.handle && a.object == b.object

/-- Whether two chains hold equal nodes. -/
def beq (a b : Chain) : Bool :=
  a.length == b.length && (a.nodes.zip b.nodes).all fun (m, n) => sameNode m n

instance : BEq Chain := ⟨beq⟩

/-- The form of a chain in diagnostics: its handles, root first. -/
def debug (c : Chain) : String :=
  Value.bracketed "MatchChain[" " <- " "]" (c.nodes.map (·.handle.debug))

end Chain

/-! ## Walks -/

/-- Where a walk stands, and how many nodes it has passed. -/
structure Walk where
  depth : Nat
  visits : Nat
deriving DecidableEq

namespace Walk

/-- A walk that has not begun. -/
def start : Walk :=
  ⟨0, 0⟩

/-- Ascends to a depth and answers the node there.  A depth that was passed already or that lies
beyond the root is refused. -/
def ascend (w : Walk) (chain : Chain) (target : Nat) : Option (Node × Walk) :=
  if target < w.depth then
    none
  else
    (chain.node? target).map fun node =>
      -- the first step also passes the tip; later ones pass what lies above
      let visits := if w.visits = 0 then target + 1 else w.visits + (target - w.depth)
      (node, ⟨target, visits⟩)

end Walk
end RuleEngine
