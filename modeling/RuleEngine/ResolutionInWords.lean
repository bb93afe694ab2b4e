import RuleEngine.Resolution

/-!
# Resolution in machine words

Depths, and the numbers of nodes that walks have passed, are kept in machine words, of which there is
a greatest one.  Here chains, walks and plans count in words: what is no word any more is an overflow,
and the computation ends there without an answer.
-/

namespace RuleEngine

/-! ## Words -/

/-- A sum or a difference that is not a word. -/
inductive Overflow where
  | sum (a b : Nat)
  | difference (a b : Nat)
deriving DecidableEq, Repr

namespace Word

def greatest : Nat :=
  UInt64.size - 1

def add (a b : Nat) : Except Overflow Nat :=
  if a + b ≤ greatest then .ok (a + b) else .error (.sum a b)

def sub (a b : Nat) : Except Overflow Nat :=
  if b ≤ a then .ok (a - b) else .error (.difference a b)

/-- The difference, or none where it would overflow. -/
def sub? (a b : Nat) : Option Nat :=
  if b ≤ a then some (a - b) else none

end Word

/-! ## Chains and walks -/

/-- The node at a depth.  The nodes from the tip down to it are counted before their number is
compared with the length. -/
def Chain.nodeInWords (c : Chain) (depth : Nat) : Except Overflow (Option Node) :=
  (Word.add depth 1).map fun count => (Word.sub? c.length count).bind (c.nodes[·]?)

namespace Walk

/-- The number of nodes passed once the walk has ascended to a depth. -/
def visitsInWords (w : Walk) (target : Nat) : Except Overflow Nat :=
  if w.visits = 0 then
    Word.add target 1
  else
    (Word.sub target w.depth).bind (Word.add w.visits)

/-- Ascends to a depth and answers the node there. -/
def ascendInWords (w : Walk) (chain : Chain) (target : Nat) :
    Except Overflow (Option (Node × Walk)) :=
  if target < w.depth then
    .ok none
  else
    match chain.nodeInWords target with
    | .error o => .error o
    | .ok none => .ok none
    | .ok (some node) => (w.visitsInWords target).map fun visits => some (node, ⟨target, visits⟩)

/-- Ascends to one depth after the other.  Each answer comes with the walk as it stands then; when an
ascent is refused, it stands where it stood. -/
def trailInWords (chain : Chain) :
    Walk → List Nat → Except Overflow (List (Option Node × Walk))
  | _, [] => .ok []
  | w, target :: rest =>
    match w.ascendInWords chain target with
    | .error o => .error o
    | .ok none => (trailInWords chain w rest).map ((none, w) :: ·)
    | .ok (some (node, w')) => (trailInWords chain w' rest).map ((some node, w') :: ·)

end Walk

/-! ## Plans -/

namespace Plan

/-- Binds the declarations one after the other along a walk. -/
def resolveStepsInWords (chain : Chain) (memory : WorkingMemory) :
    List (Declaration × Nat) → Walk → List Binding →
      Except Overflow (Except Error (List Binding × Walk))
  | [], walk, bindings => .ok (.ok (bindings, walk))
  | (d, place) :: rest, walk, bindings =>
    match walk.ascendInWords chain d.depth with
    | .error o => .error o
    | .ok none => .ok (.error (Cause.depthOutOfRange d.name d.depth (chain.rootDepth?.getD 0)))
    | .ok (some (node, walk)) =>
      match Binding.resolve d memory node with
      | .error e => .ok (.error e)
      | .ok binding => resolveStepsInWords chain memory rest walk (bindings.set place binding)

def resolveInWords (p : Plan) (chain : Chain) (memory : WorkingMemory) :
    Except Overflow (Except Error Resolution) :=
  (resolveStepsInWords chain memory p.steps .start (List.replicate p.size .unbound)).map
    fun resolved => resolved.map fun (bindings, walk) => ⟨bindings, walk.visits, walk.depth⟩

end Plan
end RuleEngine
