import RuleEngine.Action.Basic
import RuleEngine.Document.Values
import RuleEngine.Script.Term
import RuleEngine.Value.Order

/-!
# Scripted actions

A script is a list of statements.  Its program first notes the arguments and then runs the
statements in order; an error ends it.  Statements that look at the firing leave what they see as a
note.
-/

namespace RuleEngine

/-- A condition on two values. -/
inductive Relation where
  | less
  | atLeast
  | equal
  | unordered
deriving DecidableEq

/-- Whether two values are in a relation.  Values without an order are neither less nor at least. -/
def Relation.holds (r : Relation) (a b : Value) : Bool :=
  match r with
  | less => a.compare? b == some .lt
  | atLeast => a.compare? b == some .gt || a.compare? b == some .eq
  | equal => a == b
  | unordered => (a.compare? b).isNone

/-- Whether two facts are the same instance, if both values are facts. -/
def Value.sameFact? : Value → Value → Option Bool
  | fact a _ _, fact b _ _ => some (a == b)
  | _, _ => none

/-- A statement of a script. -/
inductive Statement where
  | insert (v : Term)
  | insertInto (entryPoint : String) (v : Term)
  | update (handle v : Term)
  | retract (handle : Term)
  /-- Publishes to a stream right away. -/
  | publish (stream v : Term)
  | raise (e : Error)
  /-- Takes the requested effects back and notes them. -/
  | take
  | noteEffects
  | noteHolder (v : Term)
  | noteMemory
  | noteChain
  /-- Notes a global, which must have a value. -/
  | noteGlobal (name : String)
  | noteSame (a b : Term)
  /-- Runs one of two scripts. -/
  | when (a : Term) (relation : Relation) (b : Term) (yes no : List Statement)

/-! ## Notes -/

namespace Document

def handle? (h : Option Handle) : Document :=
  optional (h.map fun h => string h.name)

def facts (tally : SourceId → Tally) (facts : List (Handle × Value)) : Document :=
  array (facts.map fun f => array [string f.1.name, f.2.toDocument tally])

/-- An effect: what is done, to which handle or through which entry point, and the object. -/
def effect (tally : SourceId → Tally) : Effect → Document
  | .insert entryPoint v =>
    array [string "insert", optional (entryPoint.map string), v.toDocument tally]
  | .update h v => array [string "update", string h.name, v.toDocument tally]
  | .retract h => array [string "retract", string h.name]

def effects (tally : SourceId → Tally) (es : List Effect) : Document :=
  array (es.map (effect tally))

def labelled (label : String) (seen : Document) : Document :=
  array [string label, seen]

end Document

/-! ## Programs of scripts -/

namespace Statement

def evalHandle (arguments : List Value) (t : Term) : Program Handle := do
  match (← t.eval arguments).handle? with
  | some h => return h
  | none => .fail (Cause.action "no handle")

def requestEffect (effect : Effect) : Program Unit :=
  .request effect (pure ())

def leaveNote (label : String) (seen : Document) : Program Unit :=
  .note (.labelled label seen) (pure ())

mutual

/-- The program of a statement. -/
def run (arguments : List Value) : Statement → Program Unit
  | insert t => do requestEffect (.insert none (← t.eval arguments))
  | insertInto entryPoint t => do requestEffect (.insert (some entryPoint) (← t.eval arguments))
  | update target t => do
    let h ← evalHandle arguments target
    requestEffect (.update h (← t.eval arguments))
  | retract target => do requestEffect (.retract (← evalHandle arguments target))
  | publish stream t => do
    let s ← stream.eval arguments
    let v ← t.eval arguments
    match s.source? with
    | none => .fail (Cause.action "no source")
    | some id =>
      .publish id v fun
        | some e => .fail e
        | none => pure ()
  | raise e => .fail e
  | take =>
    .look fun view => .takeBack fun effects => leaveNote "take" (.effects view.tally effects)
  | noteEffects =>
    .look fun view => leaveNote "effects" (.effects view.tally view.effects)
  | noteHolder t => do
    let v ← t.eval arguments
    .look fun view => leaveNote "handle_of" (.handle? (view.memory.holder? v))
  | noteMemory =>
    .look fun view => leaveNote "memory" (.facts view.tally view.memory.facts)
  | noteChain =>
    .look fun view => leaveNote "chain" (.string view.chain.debug)
  | noteGlobal name =>
    .look fun view => do
      let v ← .ofExcept (view.globals.require name)
      leaveNote "global" (v.toDocument view.tally)
  | noteSame a b => do
    let v ← a.eval arguments
    let w ← b.eval arguments
    leaveNote "same" (.optional ((v.sameFact? w).map .bool))
  | when a relation b yes no => do
    let v ← a.eval arguments
    let w ← b.eval arguments
    if relation.holds v w then runAll arguments yes else runAll arguments no

def runAll (arguments : List Value) : List Statement → Program Unit
  | [] => pure ()
  | s :: rest => do
    run arguments s
    runAll arguments rest

end

def body (script : List Statement) (arguments : List Value) : Program Unit := do
  let view ← Program.view
  leaveNote "args" (.array (arguments.map (·.toDocument view.tally)))
  runAll arguments script

end Statement
end RuleEngine
