import RuleEngine.Action.Program
import RuleEngine.Value.Equality

/-!
# Terms

A term says how a value is made.  Terms are evaluated from left to right; every fact and every
stream that a term makes is a new one.  An operation that does not apply to its operand answers nil.
-/

namespace RuleEngine

/-- How a value is made. -/
inductive Term where
  | const (v : Value)
  /-- An argument of the action. -/
  | argument (place : Nat)
  /-- A new fact; the last value under a field name counts. -/
  | fact (typeName : String) (fields : List (String × Term))
  | vec (items : List Term)
  /-- A map; the last value under a key counts. -/
  | map (entries : List (Term × Term))
  /-- A new stream to which values were published. -/
  | stream (values : List Term)
  /-- A field of a fact. -/
  | field (fact : Term) (name : String)
  /-- A new fact with another value in a field. -/
  | withField (fact : Term) (name : String) (v : Term)
  /-- A vector with another item at its end. -/
  | push (vec v : Term)
  /-- The item at a place of a vector. -/
  | item (vec : Term) (place : Nat)
  /-- A map with another value under a key. -/
  | withEntry (map key v : Term)
  /-- The value under a key of a map. -/
  | entry (map key : Term)
  /-- The number of items, entries or published values. -/
  | length (t : Term)
  /-- A sum of integers, which wraps. -/
  | add (t : Term) (n : Int64)

namespace Term

/-- The number of things in a collection or a stream. -/
def lengthOf (tally : SourceId → Tally) : Value → Value
  | .vec items => .int (.ofNat items.length)
  | .map entries => .int (.ofNat entries.length)
  | .source id => .int (.ofNat (tally id).values)
  | _ => .nil

/-- Publishes values to a stream that has no subscribers. -/
def publishAll (id : SourceId) : List Value → Program Unit
  | [] => pure ()
  | v :: rest => .publish id v fun _ => publishAll id rest

mutual

def eval (arguments : List Value) : Term → Program Value
  | const v => pure v
  | argument place => pure ((arguments[place]?).getD .nil)
  | fact typeName fields => do
    let fields ← evalFields arguments fields
    .newFact typeName fields pure
  | vec items => do return .vec (← evalAll arguments items)
  | map entries => do return Value.mapOfList (← evalEntries arguments entries)
  | stream values => do
    let values ← evalAll arguments values
    .openStream fun id => do
      publishAll id values
      return .source id
  | field t name => do return ((← eval arguments t).field? name).getD .nil
  | withField t name u => do
    let v ← eval arguments t
    let w ← eval arguments u
    match v with
    | .fact _ typeName fields => .newFact typeName (Entries.put name w fields) pure
    | _ => pure .nil
  | push t u => do
    let v ← eval arguments t
    let w ← eval arguments u
    match v with
    | .vec items => return .vec (items ++ [w])
    | _ => return .nil
  | item t place => do
    match ← eval arguments t with
    | .vec items => return (items[place]?).getD .nil
    | _ => return .nil
  | withEntry t k u => do
    let v ← eval arguments t
    let key ← eval arguments k
    let w ← eval arguments u
    match v with
    | .map entries => return .map (Value.putEntry key w entries)
    | _ => return .nil
  | entry t k => do
    let v ← eval arguments t
    let key ← eval arguments k
    match v with
    | .map entries => return (Value.lookup key entries).getD .nil
    | _ => return .nil
  | length t => do
    let v ← eval arguments t
    let view ← Program.view
    return lengthOf view.tally v
  | add t n => do
    match ← eval arguments t with
    | .int m => return .int (m + n)
    | _ => return .nil

def evalAll (arguments : List Value) : List Term → Program (List Value)
  | [] => pure []
  | t :: rest => do return (← eval arguments t) :: (← evalAll arguments rest)

def evalField (arguments : List Value) : String × Term → Program (String × Value)
  | (name, t) => do return (name, ← eval arguments t)

def evalFields (arguments : List Value) : List (String × Term) → Program (List (String × Value))
  | [] => pure []
  | f :: rest => do return (← evalField arguments f) :: (← evalFields arguments rest)

def evalEntry (arguments : List Value) : Term × Term → Program (Value × Value)
  | (k, t) => do return (← eval arguments k, ← eval arguments t)

def evalEntries (arguments : List Value) : List (Term × Term) → Program (List (Value × Value))
  | [] => pure []
  | e :: rest => do return (← evalEntry arguments e) :: (← evalEntries arguments rest)

end

/-- Evaluates a term outside of any action. -/
def evaluate (t : Term) (w : World) : Value × World :=
  match (t.eval []).run default (.start w) with
  | (.ok v, s) => (v, s.world)
  | (.error _, s) => (.nil, s.world)

end Term
end RuleEngine
