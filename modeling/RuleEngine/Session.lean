import RuleEngine.Effect
import RuleEngine.Globals
import RuleEngine.WorkingMemory

/-!
# Sessions

A session is a working memory with named entry points into it and globals beside it.  Each entry
point owns a partition; partitions are numbered in the order in which the entry points are declared,
and the default entry point is declared first.

A session whose memory is out of order refuses every access to the memory.  Its entry points and its
globals can still be used.
-/

namespace RuleEngine

/-- A running session.  Entry points map to their partitions. -/
structure Session where
  memory : WorkingMemory
  broken : Bool
  entryPoints : Table Nat
  defaultEntryPoint : String
  globals : Globals

namespace Session

/-- What is answered when the memory is out of order. -/
def brokenError : Error :=
  Cause.internal "working memory lock poisoned"

def maxPartition : Nat :=
  UInt32.size - 1

/-- Declares an entry point, unless it is declared already, and answers its partition. -/
def declare (s : Session) (name : String) : Nat × Session :=
  match s.entryPoints.find? name with
  | some partition => (partition, s)
  | none =>
    let partition := min s.entryPoints.size maxPartition
    (partition, { s with entryPoints := s.entryPoints.insert name partition })

/-- A new session with a default entry point and declared types of globals. -/
def start (defaultEntryPoint : String) (types : GlobalTypes) : Session :=
  (declare
    { memory := .empty
      broken := false
      entryPoints := .empty
      defaultEntryPoint := defaultEntryPoint
      globals := .ofTypes types }
    defaultEntryPoint).2

instance : Inhabited Session := ⟨start "DEFAULT" .empty⟩

def readMemory (s : Session) : Except Error WorkingMemory :=
  if s.broken then .error brokenError else .ok s.memory

def insertThrough (s : Session) (partition : Nat) (v : Value) : Except Error (Handle × Session) :=
  match s.readMemory with
  | .ok memory =>
    let (h, memory) := memory.insert v partition
    .ok (h, { s with memory := memory })
  | .error e => .error e

/-- The number of live facts of a partition; none can be seen when the memory is out of order. -/
def count (s : Session) (partition : Nat) : Nat :=
  match s.readMemory with
  | .ok memory => (memory.inPartition partition).length
  | .error _ => 0

def objects (s : Session) (partition : Nat) : Except Error (List Value) :=
  s.readMemory.map fun memory => (memory.inPartition partition).map (·.2)

def setGlobal (s : Session) (name : String) (v : Value) : Except Error Session :=
  (s.globals.set name v).map fun globals => { s with globals := globals }

/-! ## Batches of effects -/

def partitionOf (s : Session) (entryPoint : Option String) : Except Error Nat :=
  let name := entryPoint.getD s.defaultEntryPoint
  match s.entryPoints.find? name with
  | some partition => .ok partition
  | none => .error (Cause.internal ("entry point " ++ name ++ " not declared"))

/-- Applies one effect to a memory; answers the handle of an insertion. -/
def applyTo (s : Session) (memory : WorkingMemory) :
    Effect → Except Error (Option Handle × WorkingMemory)
  | .insert entryPoint v =>
    match s.partitionOf entryPoint with
    | .ok partition =>
      let (h, memory) := memory.insert v partition
      .ok (some h, memory)
    | .error e => .error e
  | .update h v => (memory.update h v).map fun memory => (none, memory)
  | .retract h => (memory.retract h).map fun (_, memory) => (none, memory)

/-- Applies effects to a memory one after the other; answers the handles of the insertions. -/
def applyAllTo (s : Session) (memory : WorkingMemory) :
    List Effect → Except Error (List Handle × WorkingMemory)
  | [] => .ok ([], memory)
  | effect :: rest =>
    match s.applyTo memory effect with
    | .error e => .error e
    | .ok (inserted, memory) =>
      match s.applyAllTo memory rest with
      | .error e => .error e
      | .ok (later, memory) => .ok (inserted.toList ++ later, memory)

def declareNamed (s : Session) (effects : List Effect) : Session :=
  (effects.filterMap Effect.entryPoint?).foldl (fun s name => (s.declare name).2) s

/-- Applies a batch of effects: all of them, or, when one fails, none.  The entry points that the
batch names are declared first and stay declared either way. -/
def applyBatch (s : Session) (effects : List Effect) : Except Error (List Handle) × Session :=
  let s := s.declareNamed effects
  -- all effects go to a copy, which takes the place of the memory only at the end
  match s.readMemory with
  | .error e => (.error e, s)
  | .ok memory =>
    match s.applyAllTo memory effects with
    | .error e => (.error e, s)
    | .ok (inserted, memory) => (.ok inserted, { s with memory := memory })

end Session
end RuleEngine
