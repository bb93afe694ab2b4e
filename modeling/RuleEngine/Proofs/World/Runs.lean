import RuleEngine.Proofs.Rule.Fire
import RuleEngine.Proofs.World.Additions

/-!
# Runs of a world

A world begins empty and changes with each request that is made of it, whether the request succeeds
or fails.  Requests open sessions, streams and what subscribes to streams, publish and subscribe, change
sessions directly, fire executables and bind the variables of a rule unit.

Each request takes every session through steps of sessions and opens at most new ones.  What a single
step of a session keeps, a run of requests keeps, and all sessions that a run leaves are reachable.
-/

namespace RuleEngine
namespace World

/-- What can be asked of a world. -/
inductive Request where
  | openSession (defaultEntryPoint : String) (types : GlobalTypes)
  | openStream
  | openCollector (limit : Option Nat) (message : String)
  | openProcessor (reactions : List Reaction)
  | newFact (typeName : String) (fields : List (String × Value))
  | publish (id : SourceId) (v : Value)
  | subscribe (id : SourceId) (subscriber : Subscriber)
  | declare (id : SessionId) (name : String)
  | enter (id : SessionId) (partition : Nat) (v : Value)
  | operate (id : SessionId) (operation : WorkingMemory.Operation)
  | replaceMemory (id : SessionId) (operations : List WorkingMemory.Operation)
  | setGlobal (id : SessionId) (name : String) (v : Value)
  | damage (id : SessionId)
  | fire (x : Executable) (chain : Chain) (id : SessionId)
  | wire (statements : List Wiring) (data : UnitData) (id : SessionId)

/-- Changes the memory of a session, if it is in order. -/
def changeMemory (w : World) (id : SessionId) (f : WorkingMemory → WorkingMemory) : World :=
  match (w.session id).readMemory with
  | .ok memory => w.setSession id { w.session id with memory := f memory }
  | .error _ => w

def perform (w : World) : Request → World
  | .openSession defaultEntryPoint types => (w.openSession (.start defaultEntryPoint types)).2
  | .openStream => w.openStream.2
  | .openCollector limit message => (w.openCollector limit message).2
  | .openProcessor reactions => (w.openProcessor reactions).2
  | .newFact typeName fields => (w.newFact typeName fields).2
  | .publish id v => (w.publish id v).1
  | .subscribe id subscriber => (w.subscribe id subscriber).1
  | .declare id name => (w.declareEntryPoint id name).2
  | .enter id partition v => (w.enter id partition v).1
  | .operate id operation => w.changeMemory id (·.perform operation)
  | .replaceMemory id operations => w.changeMemory id fun _ => .run operations
  | .setGlobal id name v => (w.applyWiring id (.setGlobal name v)).1
  | .damage id => w.setSession id { w.session id with broken := true }
  | .fire x chain id => (x.fire chain id w).world
  | .wire statements data id => (w.wire statements data id).1

/-- The world after requests, from the beginning. -/
def run (requests : List Request) : World :=
  requests.foldl perform empty

/-! ## Sessions -/

variable {w w' w'' : World} {id : SessionId} {s : Session}

/-- Every session went through some steps, and sessions that are new are reachable. -/
structure Advances (w w' : World) : Prop where
  length_le : w.sessions.length ≤ w'.sessions.length
  steps : ∀ id, w.Knows id → Session.Steps (w.session id) (w'.session id)
  opened : ∀ id, ¬ w.Knows id → (w'.session id).Reachable

/-- A number that was not given to a session stands for a new one. -/
theorem session_of_unknown (unknown : ¬ w.Knows id) : w.session id = .start "DEFAULT" .empty := by
  unfold session
  rw [List.getElem?_eq_none (Nat.not_lt.1 unknown)]
  rfl

theorem reachable_of_unknown (unknown : ¬ w.Knows id) : (w.session id).Reachable :=
  session_of_unknown unknown ▸ Session.reachable_start _ _

theorem Advances.of_steps (length_eq : w'.sessions.length = w.sessions.length)
    (steps : ∀ id, Session.Steps (w.session id) (w'.session id)) : Advances w w' where
  length_le := Nat.le_of_eq length_eq.symm
  steps id _ := steps id
  opened id unknown := (reachable_of_unknown unknown).steps (steps id)

theorem Advances.refl (w : World) : Advances w w :=
  .of_steps rfl fun _ => .refl

theorem Advances.knows (advances : Advances w w') (known : w.Knows id) : w'.Knows id :=
  Nat.lt_of_lt_of_le known advances.length_le

theorem Advances.trans (advances : Advances w w') (later : Advances w' w'') : Advances w w'' where
  length_le := Nat.le_trans advances.length_le later.length_le
  steps id known := (advances.steps id known).trans (later.steps id (advances.knows known))
  opened id unknown := by
    by_cases known' : w'.Knows id
    · exact (advances.opened id unknown).steps (later.steps id known')
    · exact later.opened id known'

theorem Adds.advances (adds : Adds w w') : Advances w w' :=
  .of_steps adds.length_eq fun id => (adds.additions id).steps

theorem Advances.of_sessions (same : w'.sessions = w.sessions) : Advances w w' :=
  (Adds.of_sessions same).advances

theorem Advances.setSession (steps : Session.Steps (w.session id) s) :
    Advances w (w.setSession id s) := by
  refine .of_steps (length_setSession w id s) ?_
  intro other
  rw [session_setSession]
  split
  · rename_i here
    rw [here.1]
    exact steps
  · exact .refl

theorem Advances.openSession (w : World) (hs : s.Reachable) : Advances w (w.openSession s).2 := by
  have opened : ∀ id, (w.openSession s).2.session id =
      if id.index = w.sessions.length then s else w.session id := by
    intro id
    exact getD_concat _ _ _ _
  refine ⟨?_, ?_, ?_⟩
  · exact Nat.le_of_lt (by simp [World.openSession])
  · intro id known
    rw [opened, if_neg (Nat.ne_of_lt known)]
  · intro id unknown
    rw [opened]
    split
    · exact hs
    · exact reachable_of_unknown unknown

theorem Advances.changeMemory {f : WorkingMemory → WorkingMemory}
    (step : (w.session id).broken = false →
      Session.Step (w.session id) { w.session id with memory := f (w.session id).memory }) :
    Advances w (w.changeMemory id f) := by
  unfold World.changeMemory
  cases broken : (w.session id).broken with
  | true => simpa [Session.readMemory, broken] using Advances.refl w
  | false =>
      rw [Session.readMemory_of_intact broken]
      exact .setSession (.single (step broken))

theorem Advances.fire (w : World) (x : Executable) (chain : Chain) (id : SessionId) :
    Advances w (x.fire chain id w).world := by
  cases broken : (w.session id).broken with
  | true =>
      rw [Executable.fire_of_broken x chain broken]
      exact .refl w
  | false =>
      rcases evaluated : x.evaluate (w.firing chain id) (.start w) with ⟨e | ⟨⟩, s⟩
      · rw [Executable.fire_of_error broken evaluated]
        exact (Executable.fed_of_evaluate evaluated).adds.advances
      · rw [Executable.fire_of_ok broken evaluated]
        -- the batch is applied to the session as the evaluation left it
        have fed := (Executable.fed_of_evaluate evaluated).adds.advances
        have steps := Session.steps_applyBatch (s.world.session id) s.effects
        rcases applied : (s.world.session id).applyBatch s.effects with ⟨e | inserted, s'⟩
        all_goals
          rw [applied] at steps
          exact fed.trans (.setSession steps)

/-- A request takes the sessions of the world through steps. -/
theorem Advances.perform (w : World) (request : Request) : Advances w (w.perform request) := by
  cases request with
  | openSession defaultEntryPoint types => exact .openSession w (Session.reachable_start _ _)
  | openStream => exact .of_sessions rfl
  | openCollector limit message => exact .of_sessions rfl
  | openProcessor reactions => exact .of_sessions rfl
  | newFact typeName fields => exact .of_sessions rfl
  | publish id v => exact (Adds.publish w id v).advances
  | subscribe id subscriber => exact (Adds.subscribe w id subscriber).advances
  | declare id name => exact (Adds.declareEntryPoint w id name).advances
  | enter id partition v => exact (Adds.enter w id partition v).advances
  | operate id operation => exact .changeMemory (.operate _ operation)
  | replaceMemory id operations => exact .changeMemory (.replace _ operations)
  | setGlobal id name v => exact (Adds.applyWiring w id (.setGlobal name v)).advances
  | damage id => exact .setSession (.single (.damage _))
  | fire x chain id => exact .fire w x chain id
  | wire statements data id => exact (Adds.wire w statements data id).advances

/-- Requests take the sessions of the world through steps. -/
theorem Advances.performAll (w : World) (requests : List Request) :
    Advances w (requests.foldl World.perform w) := by
  induction requests generalizing w with
  | nil => exact .refl w
  | cons request rest ih => exact (Advances.perform w request).trans (ih _)

/-- All sessions of the world are reachable. -/
def Sound (w : World) : Prop :=
  ∀ id, (w.session id).Reachable

theorem sound_empty : empty.Sound :=
  fun _ => Session.reachable_start _ _

theorem Sound.advance (sound : w.Sound) (advances : Advances w w') : w'.Sound := by
  intro id
  by_cases known : w.Knows id
  · exact (sound id).steps (advances.steps id known)
  · exact advances.opened id known

theorem Sound.fed (sound : w.Sound) (fed : Fed w w') : w'.Sound :=
  sound.advance fed.adds.advances

/-- All sessions that a run leaves are reachable. -/
theorem sound_run (requests : List Request) : (run requests).Sound :=
  sound_empty.advance (.performAll empty requests)

end World
end RuleEngine
