import RuleEngine.RuleUnit.Description
import RuleEngine.Template.SourceText
import RuleEngine.World.Publish

/-!
# Binding the variables of a rule unit

Binding is a list of statements.  Each can be written as source text and can be executed against a
session.  Executing has two halves: preparing reads and checks a value and touches nothing, and
applying then changes the session.
-/

namespace RuleEngine

/-- A statement that binds a variable. -/
inductive Wiring where
  /-- Lets a source feed an entry point. -/
  | subscribe (getter entryPoint : String)
  /-- Makes a value a global. -/
  | setGlobal (name getter : String)
deriving DecidableEq

/-- A statement whose value was read and checked. -/
inductive PreparedWiring where
  | subscribe (source : SourceId) (entryPoint : String)
  | setGlobal (name : String) (v : Value)

namespace UnitDescription

/-- The statements for a variable: a source feeds its entry point, and each variable is a global. -/
def wiringsFor (v : Variable) : List Wiring :=
  (if v.isSource then [.subscribe v.getter v.name] else []) ++ [.setGlobal v.name v.getter]

/-- The statements that bind the variables of a unit, in their order. -/
def wirings (d : UnitDescription) : List Wiring :=
  d.vars.flatMap wiringsFor

end UnitDescription

namespace Wiring

/-! ## Source text -/

def accessor (getter : String) : Expr :=
  .call (.name "rule_unit") getter []

def statement : Wiring → Stmt
  | subscribe getter entryPoint =>
    .expr <| .call (accessor getter) "subscribe"
      [.new (.named "EntryPointDataProcessor")
        [.call (.name "evaluator") "entry_point" [.str entryPoint]]]
  | setGlobal name getter =>
    .expr <| .call (.name "evaluator") "set_global" [.str name, accessor getter]

def display (b : Wiring) : String :=
  b.statement.render Slot.marker

/-! ## Execution -/

/-- The value behind an accessor, which must be there. -/
def read (data : UnitData) (getter : String) : Except Error Value :=
  match data getter with
  | some v => .ok v
  | none => .error (Cause.missingAccessor getter)

def prepare (b : Wiring) (data : UnitData) (globals : Globals) :
    Except Error PreparedWiring :=
  match b with
  | subscribe getter entryPoint => do
    let v ← read data getter
    match v.source? with
    | some source => return .subscribe source entryPoint
    | none => throw (Cause.typeMismatch .source v.type : Error)
  | setGlobal name getter => do
    let v ← read data getter
    globals.check name v
    return .setGlobal name v

def prepareAll (data : UnitData) (globals : Globals) :
    List Wiring → Except Error (List PreparedWiring)
  | [] => .ok []
  | b :: rest => do return (← b.prepare data globals) :: (← prepareAll data globals rest)

end Wiring

namespace World

def applyWiring (id : SessionId) (w : World) : PreparedWiring → Outcome
  | .subscribe source entryPoint =>
    -- the entry point is declared even if the delivery of earlier values fails
    let (partition, w) := w.declareEntryPoint id entryPoint
    w.subscribe source (.enter id partition)
  | .setGlobal name v =>
    match (w.session id).setGlobal name v with
    | .ok s => (w.setSession id s, none)
    | .error e => (w, some e)

def executeWiring (w : World) (b : Wiring) (data : UnitData) (id : SessionId) : Outcome :=
  match b.prepare data (w.session id).globals with
  | .ok prepared => w.applyWiring id prepared
  | .error e => (w, some e)

/-- Executes statements against a session.  All of them are prepared before the first is applied, so
that incomplete data leaves the world as it was. -/
def wire (w : World) (statements : List Wiring) (data : UnitData) (id : SessionId) : Outcome :=
  match Wiring.prepareAll data (w.session id).globals statements with
  | .ok prepared => eachUntilError (applyWiring id) w prepared
  | .error e => (w, some e)

end World
end RuleEngine
