import Mathlib.Logic.Relation
import RuleEngine.Proofs.Session.Batch
import RuleEngine.Proofs.World.Delivery

/-!
# Steps of a session

Whatever is done to a session comes down to five steps: an entry point is declared, an operation is
made on the memory while it is in order, another memory takes its place, a global is set, and the
memory goes out of order.  What holds of a new session and is kept by these steps holds of every
session at any time.
-/

namespace RuleEngine
namespace Session

/-- One step of a session. -/
inductive Step : Session → Session → Prop where
  | declare (s : Session) (name : String) : Step s (s.declare name).2
  | operate (s : Session) (operation : WorkingMemory.Operation) (intact : s.broken = false) :
      Step s { s with memory := s.memory.perform operation }
  | replace (s : Session) (operations : List WorkingMemory.Operation)
      (intact : s.broken = false) : Step s { s with memory := .run operations }
  | setGlobal {s s' : Session} {name : String} {v : Value} (set : s.setGlobal name v = .ok s') :
      Step s s'
  | damage (s : Session) : Step s { s with broken := true }

abbrev Steps : Session → Session → Prop :=
  Relation.ReflTransGen Step

/-- Some steps lead to the session from a new one. -/
def Reachable (s : Session) : Prop :=
  ∃ defaultEntryPoint types, Steps (start defaultEntryPoint types) s

variable {s s' : Session} {v : Value}

theorem reachable_start (defaultEntryPoint : String) (types : GlobalTypes) :
    (start defaultEntryPoint types).Reachable :=
  ⟨defaultEntryPoint, types, .refl⟩

theorem Reachable.steps (hs : s.Reachable) (steps : Steps s s') : s'.Reachable := by
  rcases hs with ⟨defaultEntryPoint, types, earlier⟩
  exact ⟨defaultEntryPoint, types, earlier.trans steps⟩

/-- What holds of new sessions and is kept by each step holds of all reachable sessions. -/
theorem Reachable.invariant {P : Session → Prop}
    (start : ∀ defaultEntryPoint types, P (start defaultEntryPoint types))
    (step : ∀ s s', Step s s' → P s → P s') (hs : s.Reachable) : P s := by
  rcases hs with ⟨defaultEntryPoint, types, steps⟩
  induction steps with
  | refl => exact start _ _
  | tail _ last ih => exact step _ _ last ih

/-! ## The default entry point -/

theorem Step.rooted (step : Step s s') (rooted : s.Rooted) : s'.Rooted := by
  cases step with
  | declare name => exact rooted.declare name
  | operate operation intact => exact rooted
  | replace operations intact => exact rooted
  | setGlobal set =>
      rcases Except.map_eq_ok_iff.1 set with ⟨globals, -, rfl⟩
      exact rooted
  | damage => exact rooted

/-- The default entry point of a session is always declared. -/
theorem Reachable.rooted (hs : s.Reachable) : s.Rooted :=
  hs.invariant rooted_start fun _ _ step => step.rooted

/-- An entry point keeps its partition. -/
theorem Step.find?_entryPoint {name : String} {partition : Nat} (step : Step s s')
    (found : s.entryPoints.find? name = some partition) :
    s'.entryPoints.find? name = some partition := by
  cases step with
  | declare other => exact find?_declare_of_find? found other
  | operate operation intact => exact found
  | replace operations intact => exact found
  | setGlobal set =>
      rcases Except.map_eq_ok_iff.1 set with ⟨globals, -, rfl⟩
      exact found
  | damage => exact found

theorem Steps.find?_entryPoint {name : String} {partition : Nat} (steps : Steps s s')
    (found : s.entryPoints.find? name = some partition) :
    s'.entryPoints.find? name = some partition := by
  induction steps with
  | refl => exact found
  | tail _ last ih => exact last.find?_entryPoint ih

/-! ## Additions

Streams and rule units only add to a session: an entry point, an object while the memory is in order,
or the value of a global.
-/

/-- One addition to a session. -/
inductive Addition : Session → Session → Prop where
  | declare (s : Session) (name : String) : Addition s (s.declare name).2
  | insert (s : Session) (v : Value) (partition : Nat) (intact : s.broken = false) :
      Addition s (s.fed [(v, partition)])
  | setGlobal {s s' : Session} {name : String} {v : Value} (set : s.setGlobal name v = .ok s') :
      Addition s s'

abbrev Additions : Session → Session → Prop :=
  Relation.ReflTransGen Addition

theorem setGlobal_eq_ok {name : String} (set : s.setGlobal name v = .ok s') :
    s.globals.check name v = .ok () ∧
      s' = { s with globals := { s.globals with values := s.globals.values.insert name v } } := by
  rcases Except.map_eq_ok_iff.1 set with ⟨globals, stored, rfl⟩
  unfold Globals.set at stored
  split at stored
  · rename_i checked
    exact ⟨checked, by rw [← Except.ok.inj stored]⟩
  · cases stored

theorem Addition.step (addition : Addition s s') : Step s s' := by
  cases addition with
  | declare name => exact .declare s name
  | insert v partition intact => exact .operate s (.insert v partition) intact
  | setGlobal set => exact .setGlobal set

/-- Additions do not bring the memory out of order. -/
theorem Addition.broken_eq (addition : Addition s s') : s'.broken = s.broken := by
  cases addition with
  | declare name => exact declare_broken
  | insert v partition intact => rfl
  | setGlobal set =>
      rcases Except.map_eq_ok_iff.1 set with ⟨globals, -, rfl⟩
      rfl

theorem Additions.steps (additions : Additions s s') : Steps s s' :=
  Relation.ReflTransGen.mono (fun _ _ => Addition.step) _ _ additions

theorem Additions.broken_eq (additions : Additions s s') : s'.broken = s.broken := by
  induction additions with
  | refl => rfl
  | tail _ last ih => exact last.broken_eq.trans ih

theorem additions_fed {objects : List (Value × Nat)} (none : s.broken = true → objects = []) :
    Additions s (s.fed objects) := by
  cases broken : s.broken with
  | true =>
      rw [none broken]
      exact .refl
  | false =>
      clear none
      induction objects generalizing s with
      | nil => exact .refl
      | cons object rest ih => exact .head (.insert s object.1 object.2 broken) (ih broken)

/-! ## Compound changes -/

theorem steps_operations (intact : s.broken = false) (operations : List WorkingMemory.Operation) :
    Steps s { s with memory := operations.foldl WorkingMemory.perform s.memory } := by
  induction operations generalizing s with
  | nil => exact .refl
  | cons operation rest ih =>
      have later := ih (s := { s with memory := s.memory.perform operation }) intact
      exact .head (.operate s operation intact) later

/-- An effect that is applied to a memory is one operation on it. -/
theorem applyTo_eq_operation {memory memory' : WorkingMemory} {effect : Effect}
    {inserted : Option Handle} (applied : s.applyTo memory effect = .ok (inserted, memory')) :
    ∃ operation, memory' = memory.perform operation := by
  cases effect with
  | insert entryPoint v =>
      unfold applyTo at applied
      cases h : s.partitionOf entryPoint with
      | error e => simp [h] at applied
      | ok partition =>
          simp only [h, Except.ok.injEq, Prod.mk.injEq] at applied
          exact ⟨.insert v partition, applied.2.symm⟩
  | update h v =>
      rcases Except.map_eq_ok_iff.1 applied with ⟨updated, hu, same⟩
      simp only [Prod.mk.injEq] at same
      exact ⟨.update h v, by simp [WorkingMemory.perform, hu, same.2]⟩
  | retract h =>
      rcases Except.map_eq_ok_iff.1 applied with ⟨r, hr, same⟩
      simp only [Prod.mk.injEq] at same
      exact ⟨.retract h, by simp [WorkingMemory.perform, hr, same.2]⟩

theorem applyAllTo_eq_operations {memory memory' : WorkingMemory} {effects : List Effect}
    {inserted : List Handle} (applied : s.applyAllTo memory effects = .ok (inserted, memory')) :
    ∃ operations : List WorkingMemory.Operation,
      memory' = operations.foldl WorkingMemory.perform memory := by
  induction effects generalizing memory inserted with
  | nil =>
      simp only [applyAllTo, Except.ok.injEq, Prod.mk.injEq] at applied
      exact ⟨[], applied.2.symm⟩
  | cons effect rest ih =>
      rw [applyAllTo] at applied
      cases first : s.applyTo memory effect with
      | error e => simp [first] at applied
      | ok r =>
          cases later : s.applyAllTo r.2 rest with
          | error e => simp [first, later] at applied
          | ok r' =>
              rcases r' with ⟨inserted', last⟩
              simp only [first, later, Except.ok.injEq, Prod.mk.injEq] at applied
              rcases applied with ⟨-, rfl⟩
              rcases applyTo_eq_operation first with ⟨operation, hfirst⟩
              rcases ih later with ⟨operations, hlater⟩
              exact ⟨operation :: operations, by rw [hlater, hfirst, List.foldl_cons]⟩

theorem steps_declareNamed (s : Session) (effects : List Effect) :
    Steps s (s.declareNamed effects) :=
  declareNamed_keeps (P := Steps s) (fun t name steps => steps.tail (.declare t name)) .refl effects

theorem steps_applyBatch (s : Session) (effects : List Effect) :
    Steps s (s.applyBatch effects).2 := by
  have declared := steps_declareNamed s effects
  cases broken : s.broken with
  | true => simpa only [applyBatch_of_broken broken] using declared
  | false =>
      rw [applyBatch_of_intact broken]
      cases applied : (s.declareNamed effects).applyAllTo s.memory effects with
      | error e => exact declared
      | ok r =>
          -- first the declarations, then the effects as operations on the memory
          rcases applyAllTo_eq_operations applied with ⟨operations, same⟩
          have operated :=
            steps_operations (s := s.declareNamed effects) (declareNamed_broken.trans broken)
              operations
          rw [declareNamed_memory, ← same] at operated
          exact declared.trans operated

end Session
end RuleEngine
