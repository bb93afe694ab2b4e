import RuleEngine.Proofs.RuleUnit.Binding
import RuleEngine.Proofs.World.Firing

/-!
# Calls

Users of a world name entry points and know nothing of partitions: they open sessions, streams and
processors, publish and subscribe, declare entry points and insert through them, update and retract
what they hold, set globals, fire consequences and bind units.

A call comes down to acts.  A firing publishes what its program publishes, and then its effects are
acts of their own, one after the other; when one of them would fail, only the declarations of the
batch are left.  A binding is one act for each of its statements, or none.  So whatever every act
keeps, every run of calls keeps (`serve_eq_acts`).
-/

namespace RuleEngine
namespace World

/-! ## Acts -/

/-- Who can subscribe to a stream. -/
inductive Reader where
  | collector (id : CollectorId)
  | stream (id : SourceId)
  | entryPoint (id : SessionId) (name : String)
  | processor (id : ProcessorId)

/-- One change that is asked of a world.  An object is inserted through a named entry point, or
through the default one. -/
inductive Act where
  | openSession (defaultEntryPoint : String) (types : GlobalTypes)
  | openStream
  | openCollector (limit : Option Nat) (message : String)
  | openProcessor (reactions : List Reaction)
  | newFact (typeName : String) (fields : List (String × Value))
  | publish (id : SourceId) (v : Value)
  | subscribe (source : SourceId) (reader : Reader)
  | declare (id : SessionId) (name : String)
  | insert (id : SessionId) (entryPoint : Option String) (v : Value)
  | update (id : SessionId) (h : Handle) (v : Value)
  | retract (id : SessionId) (h : Handle)
  | setGlobal (id : SessionId) (name : String) (v : Value)

namespace Act

/-- The session that an act is about, if it is about one. -/
def session? : Act → Option SessionId
  | subscribe _ (.entryPoint id _) | declare id _ | insert id _ _ | update id _ _ | retract id _
  | setGlobal id _ _ => some id
  | _ => none

/-- The operation that an act makes on a handle of a session. -/
def operation? : Act → Option (SessionId × WorkingMemory.Operation)
  | update id h v => some (id, .update h v)
  | retract id h => some (id, .retract h)
  | _ => none

end Act

/-- Inserts an object through an entry point of a session, which is declared if it is new. -/
def insertAt (w : World) (id : SessionId) (entryPoint : Option String) (v : Value) : Outcome :=
  let (partition, w) :=
    w.declareEntryPoint id (entryPoint.getD (w.session id).defaultEntryPoint)
  w.enter id partition v

def act (w : World) : Act → World
  | .openSession defaultEntryPoint types => (w.openSession (.start defaultEntryPoint types)).2
  | .openStream => w.openStream.2
  | .openCollector limit message => (w.openCollector limit message).2
  | .openProcessor reactions => (w.openProcessor reactions).2
  | .newFact typeName fields => (w.newFact typeName fields).2
  | .publish id v => (w.publish id v).1
  | .subscribe source (.collector id) => (w.subscribe source (.collect id)).1
  | .subscribe source (.stream id) => (w.subscribe source (.forward id)).1
  | .subscribe source (.processor id) => (w.subscribe source (.process id)).1
  | .subscribe source (.entryPoint id name) => (w.applyWiring id (.subscribe source name)).1
  | .declare id name => (w.declareEntryPoint id name).2
  | .insert id entryPoint v => (w.insertAt id entryPoint v).1
  | .update id h v => w.changeMemory id (·.perform (.update h v))
  | .retract id h => w.changeMemory id (·.perform (.retract h))
  | .setGlobal id name v => (w.applyWiring id (.setGlobal name v)).1

/-! ## Calls -/

/-- What can be called: an act, a firing, or the binding of a unit. -/
inductive Call where
  | act (a : Act)
  | fire (x : Executable) (chain : Chain) (id : SessionId)
  | instantiate (unit : GeneratedUnit) (data : UnitData) (id : SessionId)

def Call.session? : Call → Option SessionId
  | act a => a.session?
  | fire _ _ id | instantiate _ _ id => some id

/-- Whether the session that a call is about was opened. -/
def Admits (w : World) (call : Call) : Bool :=
  call.session?.all fun id => w.Knows id

/-- The world after a call; nobody can call on a session that was not opened. -/
def serve (w : World) (call : Call) : World :=
  if w.Admits call then
    match call with
    | .act a => w.act a
    | .fire x chain id => (x.fire chain id w).world
    | .instantiate unit data id => (w.instantiate unit data id).2
  else
    w

/-- The world after calls, from the beginning. -/
def serveAll (calls : List Call) : World :=
  calls.foldl serve empty

/-! ## The acts of a call -/

end World

open World in
/-- What a program asks of the world while it runs. -/
def Program.acts {α : Type} (firing : Firing) : Program α → Progress → List Act
  | done _, _ => []
  | fail _, _ => []
  | look next, s => acts firing (next ⟨firing, s.effects, s.world.tally⟩) s
  | request effect next, s => acts firing next { s with effects := s.effects ++ [effect] }
  | takeBack next, s => acts firing (next s.effects) { s with effects := [] }
  | newFact typeName fields next, s =>
    let (v, w) := s.world.newFact typeName fields
    .newFact typeName fields :: acts firing (next v) { s with world := w }
  | openStream next, s =>
    let (id, w) := s.world.openStream
    .openStream :: acts firing (next id) { s with world := w }
  | publish id v next, s =>
    let (w, e) := s.world.publish id v
    .publish id v :: acts firing (next e) { s with world := w }
  | note line next, s => acts firing next { s with notes := s.notes ++ [line] }

/-- A program makes facts, opens streams and publishes; whatever else it asks for has to wait. -/
theorem Program.mem_acts {α : Type} {firing : Firing} {p : Program α} {s : Progress}
    {a : World.Act} (there : a ∈ p.acts firing s) :
    (∃ typeName fields, a = .newFact typeName fields) ∨ a = .openStream ∨
      ∃ id v, a = .publish id v := by
  induction p generalizing s with
  | done a => cases there
  | fail e => cases there
  | look next ih => exact ih _ there
  | request effect next ih => exact ih there
  | takeBack next ih => exact ih _ there
  | newFact typeName fields next ih =>
      rcases List.mem_cons.1 there with rfl | later
      · exact Or.inl ⟨_, _, rfl⟩
      · exact ih _ later
  | openStream next ih =>
      rcases List.mem_cons.1 there with rfl | later
      · exact Or.inr (Or.inl rfl)
      · exact ih _ later
  | publish id v next ih =>
      rcases List.mem_cons.1 there with rfl | later
      · exact Or.inr (Or.inr ⟨_, _, rfl⟩)
      · exact ih _ later
  | note line next ih => exact ih there

def Effect.act (id : SessionId) : Effect → World.Act
  | insert entryPoint v => .insert id entryPoint v
  | update h v => .update id h v
  | retract h => .retract id h

def PreparedWiring.act (id : SessionId) : PreparedWiring → World.Act
  | subscribe source entryPoint => .subscribe source (.entryPoint id entryPoint)
  | setGlobal name v => .setGlobal id name v

/-- What a batch of effects comes down to: the effects, or only their declarations if one fails. -/
def Session.batchActs (id : SessionId) (s : Session) (effects : List Effect) : List World.Act :=
  match s.carryOutAll effects with
  | .ok _ => effects.map (Effect.act id)
  | .error _ => (effects.filterMap Effect.entryPoint?).map (.declare id)

namespace World

def Call.acts (w : World) : Call → List Act
  | .act a => [a]
  | .fire x chain id =>
    let evaluation := x.evaluate (w.firing chain id) (.start w)
    (x.program (w.firing chain id)).acts (w.firing chain id) (.start w) ++
      match evaluation.1 with
      | .error _ => []
      | .ok () => (evaluation.2.world.session id).batchActs id evaluation.2.effects
  | .instantiate unit data id =>
    match Wiring.prepareAll data (w.session id).globals unit.instances.statements with
    | .ok prepared => prepared.map (PreparedWiring.act id)
    | .error _ => []

variable {w w' : World} {id : SessionId}

/-! ### What an act can do -/

/-- An act adds to the sessions, opens one, or operates on a handle. -/
theorem act_cases (w : World) (a : Act) :
    Adds w (w.act a) ∨
    (∃ defaultEntryPoint types, a = .openSession defaultEntryPoint types) ∨
    ∃ id operation, a.operation? = some (id, operation) ∧
      w.act a = w.changeMemory id (·.perform operation) := by
  cases a with
  | openSession defaultEntryPoint types => exact Or.inr (Or.inl ⟨_, _, rfl⟩)
  | openStream => exact Or.inl (.of_sessions rfl)
  | openCollector limit message => exact Or.inl (.of_sessions rfl)
  | openProcessor reactions => exact Or.inl (.of_sessions rfl)
  | newFact typeName fields => exact Or.inl (.of_sessions rfl)
  | publish id v => exact Or.inl (.publish w id v)
  | subscribe source reader =>
      cases reader with
      | collector id => exact Or.inl (.subscribe w source _)
      | stream id => exact Or.inl (.subscribe w source _)
      | processor id => exact Or.inl (.subscribe w source _)
      | entryPoint id name => exact Or.inl (.applyWiring w id _)
  | declare id name => exact Or.inl (.declareEntryPoint w id name)
  | insert id entryPoint v =>
      exact Or.inl ((Adds.declareEntryPoint w id _).trans (.enter _ id _ v))
  | update id h v => exact Or.inr (Or.inr ⟨id, _, rfl, rfl⟩)
  | retract id h => exact Or.inr (Or.inr ⟨id, _, rfl, rfl⟩)
  | setGlobal id name v => exact Or.inl (.applyWiring w id _)

theorem Advances.act (w : World) (a : Act) : Advances w (w.act a) := by
  rcases act_cases w a with adds | ⟨defaultEntryPoint, types, rfl⟩ | ⟨id, operation, -, same⟩
  · exact adds.advances
  · exact .openSession w (Session.reachable_start _ _)
  · rw [same]
    exact .changeMemory (.operate _ operation)

theorem session_openSession (w : World) (s : Session) (id : SessionId) :
    (w.openSession s).2.session id =
      if id.index = w.sessions.length then s else w.session id :=
  getD_concat _ _ _ _

theorem changeMemory_eq (intact : (w.session id).broken = false)
    (f : WorkingMemory → WorkingMemory) :
    w.changeMemory id f =
      w.setSession id { w.session id with memory := f (w.session id).memory } := by
  unfold changeMemory
  rw [Session.readMemory_of_intact intact]

/-- All sessions are reachable, and their memories are in order. -/
structure Regular (w : World) : Prop where
  sound : w.Sound
  intact : ∀ id, (w.session id).broken = false

theorem regular_empty : empty.Regular :=
  ⟨sound_empty, fun _ => rfl⟩

theorem Regular.act (regular : w.Regular) (a : Act) : (w.act a).Regular := by
  refine ⟨regular.sound.advance (.act w a), fun other => ?_⟩
  have intact := regular.intact
  rcases act_cases w a with adds | ⟨defaultEntryPoint, types, rfl⟩ | ⟨id, operation, -, same⟩
  · exact (adds.additions other).broken_eq.trans (intact other)
  · show ((w.openSession _).2.session other).broken = false
    rw [session_openSession]
    split
    · exact Session.declare_broken
    · exact intact other
  · rw [same, changeMemory_eq (intact id), session_setSession]
    split
    · exact intact id
    · exact intact other

theorem Regular.acts (regular : w.Regular) (acts : List Act) : (acts.foldl World.act w).Regular :=
  List.foldlRecOn acts World.act regular fun _ regular a _ => regular.act a

/-! ### A call is its acts -/

/-- What a program does to the world is what it asks for, act by act. -/
theorem run_world {α : Type} (firing : Firing) (p : Program α) (s : Progress) :
    (p.run firing s).2.world = (p.acts firing s).foldl World.act s.world := by
  induction p generalizing s with
  | done a => rfl
  | fail e => rfl
  | look next ih => exact ih _ _
  | request effect next ih => exact ih _
  | takeBack next ih => exact ih _ _
  | newFact typeName fields next ih => exact ih _ _
  | openStream next ih => exact ih _ _
  | publish id v next ih => exact ih _ _
  | note line next ih => exact ih _

theorem setSession_session (w : World) (id : SessionId) : w.setSession id (w.session id) = w := by
  have same : w.sessions.set id.index (w.session id) = w.sessions := by
    by_cases known : id.index < w.sessions.length
    · have found : w.session id = w.sessions[id.index] := by
        simp only [session, List.getElem?_eq_getElem known, Option.getD_some]
      rw [found, List.set_getElem_self]
    · -- there is no such session to write to
      exact List.set_eq_of_length_le (Nat.not_lt.1 known)
  unfold setSession
  rw [same]

theorem setSession_setSession (w : World) (id : SessionId) (s s' : Session) :
    (w.setSession id s).setSession id s' = w.setSession id s' := by
  simp only [setSession, List.set_set]

theorem knows_setSession {s : Session} (known : w.Knows id) : (w.setSession id s).Knows id :=
  Nat.lt_of_lt_of_eq known (length_setSession w id s).symm

/-- An insertion through an entry point declares it and then feeds the session. -/
theorem insertAt_eq {entryPoint : Option String} {partition : Nat} {s : Session} (known : w.Knows id)
    (intact : (w.session id).broken = false)
    (declared :
      (w.session id).declare (entryPoint.getD (w.session id).defaultEntryPoint) = (partition, s))
    (v : Value) :
    w.insertAt id entryPoint v = (w.setSession id (s.fed [(v, partition)]), none) := by
  -- a declaration does not damage the session, so the object gets in
  have intact' : s.broken = false := by
    have same :
        ((w.session id).declare (entryPoint.getD (w.session id).defaultEntryPoint)).2.broken =
          (w.session id).broken := Session.declare_broken
    rw [declared] at same
    exact same.trans intact
  simp only [insertAt, declareEntryPoint, declared, enter, session_setSession_self known,
    Session.insertThrough_eq, intact', Bool.false_eq_true, if_false, setSession_setSession]

theorem act_effect {effect : Effect} {s' : Session} {inserted : Option Handle} (known : w.Knows id)
    (intact : (w.session id).broken = false)
    (done : (w.session id).carryOut effect = .ok (inserted, s')) :
    w.act (effect.act id) = w.setSession id s' := by
  cases effect with
  | insert entryPoint v =>
      rw [Session.carryOut_insert intact] at done
      have memory :
          ((w.session id).declare (entryPoint.getD (w.session id).defaultEntryPoint)).2.memory =
            (w.session id).memory := Session.declare_memory
      rcases declared : (w.session id).declare (entryPoint.getD (w.session id).defaultEntryPoint) with
        ⟨partition, s⟩
      rw [declared] at memory
      simp only [declared, Except.ok.injEq, Prod.mk.injEq] at done
      rw [← done.2, ← memory, Effect.act, act, insertAt_eq known intact declared v]
      rfl
  | update h v =>
      rw [Session.carryOut_update intact] at done
      rcases Except.map_eq_ok_iff.1 done with ⟨memory, updated, same⟩
      simp only [Prod.mk.injEq] at same
      rw [← same.2, Effect.act, act, changeMemory_eq intact]
      simp only [WorkingMemory.perform, updated]
  | retract h =>
      rw [Session.carryOut_retract intact] at done
      rcases Except.map_eq_ok_iff.1 done with ⟨r, retracted, same⟩
      simp only [Prod.mk.injEq] at same
      rw [← same.2, Effect.act, act, changeMemory_eq intact]
      simp only [WorkingMemory.perform, retracted]

/-- Effects that are carried out are acts on the session, one after the other. -/
theorem acts_effects {effects : List Effect} {s' : Session} {inserted : List Handle}
    (known : w.Knows id) (intact : (w.session id).broken = false) (rooted : (w.session id).Rooted)
    (done : (w.session id).carryOutAll effects = .ok (inserted, s')) :
    (effects.map (Effect.act id)).foldl act w = w.setSession id s' := by
  -- each effect writes the whole session, so what counts is the last one written
  induction effects generalizing w inserted with
  | nil =>
      simp only [Session.carryOutAll, Except.ok.injEq, Prod.mk.injEq] at done
      rw [← done.2, setSession_session]
      rfl
  | cons effect rest ih =>
      rw [Session.carryOutAll] at done
      cases first : (w.session id).carryOut effect with
      | error e => simp [first] at done
      | ok r =>
          obtain ⟨intact', rooted'⟩ := Session.carryOut_keeps intact rooted first
          have acted := act_effect known intact first
          have here : (w.act (effect.act id)).session id = r.2 := by
            rw [acted, session_setSession_self known]
          cases later : r.2.carryOutAll rest with
          | error e => simp [first, later] at done
          | ok r' =>
              rcases r' with ⟨inserted', final⟩
              simp only [first, later, Except.ok.injEq, Prod.mk.injEq] at done
              rcases done with ⟨-, rfl⟩
              have known' : (w.act (effect.act id)).Knows id := (Advances.act w _).knows known
              have remaining := ih known' (here ▸ intact') (here ▸ rooted') (here ▸ later)
              rw [List.map_cons, List.foldl_cons, remaining, acted, setSession_setSession]

/-- The declarations of a batch are acts on the session. -/
theorem acts_declarations (known : w.Knows id) (effects : List Effect) :
    ((effects.filterMap Effect.entryPoint?).map (Act.declare id)).foldl act w =
      w.setSession id ((w.session id).declareNamed effects) := by
  unfold Session.declareNamed
  generalize effects.filterMap Effect.entryPoint? = names
  -- as with effects, each declaration writes the whole session
  induction names generalizing w with
  | nil => exact (setSession_session w id).symm
  | cons name rest ih =>
      have declared :
          w.act (.declare id name) = w.setSession id ((w.session id).declare name).2 := rfl
      have later := ih (knows_setSession (s := ((w.session id).declare name).2) known)
      rw [session_setSession_self known, setSession_setSession] at later
      exact later

theorem acts_batch (known : w.Knows id) (intact : (w.session id).broken = false)
    (rooted : (w.session id).Rooted) (effects : List Effect) :
    ((w.session id).batchActs id effects).foldl act w =
      w.setSession id ((w.session id).applyBatch effects).2 := by
  rw [Session.applyBatch_eq intact rooted, Session.batchActs]
  cases done : (w.session id).carryOutAll effects with
  | ok r => exact acts_effects known intact rooted done
  | error e => exact acts_declarations known effects

theorem acts_fire (regular : w.Regular) (known : w.Knows id) (x : Executable) (chain : Chain) :
    (x.fire chain id w).world = ((Call.fire x chain id).acts w).foldl act w := by
  have intact := regular.intact id
  have ran : (x.evaluate (w.firing chain id) (.start w)).2.world =
      ((x.program (w.firing chain id)).acts (w.firing chain id) (.start w)).foldl act w :=
    run_world _ _ _
  rcases evaluated : x.evaluate (w.firing chain id) (.start w) with ⟨e | ⟨⟩, s⟩
  · rw [evaluated] at ran
    simp only [Call.acts, evaluated, List.append_nil]
    rw [← ran, Executable.fire_of_error intact evaluated]
  · rw [evaluated] at ran
    -- the batch begins in the world that the program has left
    have batch := acts_batch (Executable.knows_of_evaluate evaluated known)
      (Executable.intact_of_evaluate evaluated intact)
      (Executable.rooted_of_evaluate evaluated regular.sound) s.effects
    simp only [Call.acts, evaluated]
    rw [List.foldl_append, ← ran, batch, Executable.fire_of_ok intact evaluated]
    rcases (s.world.session id).applyBatch s.effects with ⟨_ | _, _⟩ <;> rfl

theorem acts_prepared {prepared : List PreparedWiring}
    (applied : (eachUntilError (applyWiring id) w prepared).2 = none) :
    (eachUntilError (applyWiring id) w prepared).1 =
      (prepared.map (PreparedWiring.act id)).foldl act w := by
  -- nothing is refused, so the loop goes on to the end as the acts do
  induction prepared generalizing w with
  | nil => rfl
  | cons p rest ih =>
      have same : w.act (p.act id) = (w.applyWiring id p).1 := by
        cases p <;> rfl
      rcases outcome : w.applyWiring id p with ⟨w', _ | e⟩
      · simp only [eachUntilError, outcome] at applied ⊢
        rw [ih applied, List.map_cons, List.foldl_cons, same, outcome]
      · simp [eachUntilError, outcome] at applied

theorem acts_instantiate (intact : (w.session id).broken = false) (unit : GeneratedUnit)
    (data : UnitData) :
    (w.instantiate unit data id).2 = ((Call.instantiate unit data id).acts w).foldl act w := by
  have left : (w.instantiate unit data id).2 = (w.wire unit.instances.statements data id).1 := by
    unfold instantiate
    rcases w.wire unit.instances.statements data id with ⟨w', _ | e⟩ <;> rfl
  rw [left]
  cases done : Wiring.prepareAll data (w.session id).globals unit.instances.statements with
  | error e =>
      simp only [wire, Call.acts, done]
      rfl
  | ok prepared =>
      simp only [wire, Call.acts, done]
      -- a session takes in whatever was prepared for it
      exact acts_prepared (wireEach_of_prepared intact done).2

/-- A call leaves what its acts leave one after the other. -/
theorem serve_eq_acts (regular : w.Regular) {call : Call} (admitted : w.Admits call = true) :
    w.serve call = (call.acts w).foldl act w := by
  unfold serve
  rw [if_pos admitted]
  cases call with
  | act a => rfl
  | fire x chain id => exact acts_fire regular (of_decide_eq_true admitted) x chain
  | instantiate unit data id => exact acts_instantiate (regular.intact id) unit data

/-- The acts of a firing: what the action asks for at once, and then its effects, when all of them can
be carried out, or declarations. -/
theorem mem_acts_fire {x : Executable} {chain : Chain} {a : Act}
    (there : a ∈ (Call.fire x chain id).acts w) :
    ((∃ typeName fields, a = .newFact typeName fields) ∨ a = .openStream ∨
      ∃ source v, a = .publish source v) ∨
    (∃ name, a = .declare id name) ∨
    ∃ s r effect, x.evaluate (w.firing chain id) (.start w) = (.ok (), s) ∧
      (s.world.session id).carryOutAll s.effects = .ok r ∧ effect ∈ s.effects ∧
      a = effect.act id := by
  rcases List.mem_append.1 there with of_program | of_batch
  · exact Or.inl (Program.mem_acts of_program)
  · refine Or.inr ?_
    rcases evaluated : x.evaluate (w.firing chain id) (.start w) with ⟨e | ⟨⟩, s⟩
    · rw [evaluated] at of_batch
      cases of_batch
    · rw [evaluated] at of_batch
      cases carried : (s.world.session id).carryOutAll s.effects with
      | error e =>
          simp only [Session.batchActs, carried] at of_batch
          rcases List.mem_map.1 of_batch with ⟨name, -, rfl⟩
          exact Or.inl ⟨name, rfl⟩
      | ok r =>
          simp only [Session.batchActs, carried] at of_batch
          rcases List.mem_map.1 of_batch with ⟨effect, requested, rfl⟩
          exact Or.inr ⟨s, r, effect, rfl, carried, requested, rfl⟩

/-- The acts of a binding connect streams and set globals. -/
theorem mem_acts_instantiate {unit : GeneratedUnit} {data : UnitData} {a : Act}
    (there : a ∈ (Call.instantiate unit data id).acts w) :
    (∃ source name, a = .subscribe source (.entryPoint id name)) ∨
      ∃ name v, a = .setGlobal id name v := by
  simp only [Call.acts] at there
  split at there
  · rcases List.mem_map.1 there with ⟨p, -, rfl⟩
    cases p with
    | subscribe source entryPoint => exact Or.inl ⟨source, entryPoint, rfl⟩
    | setGlobal name v => exact Or.inr ⟨name, v, rfl⟩
  · cases there

/-- The acts of a call are about the session of the call, or about none. -/
theorem session?_of_mem_acts {call : Call} {a : Act} (there : a ∈ call.acts w) :
    a.session? = none ∨ a.session? = call.session? := by
  cases call with
  | act b => exact Or.inr (congrArg Act.session? (List.mem_singleton.1 there))
  | fire x chain id =>
      rcases mem_acts_fire there with
        (⟨_, _, rfl⟩ | rfl | ⟨_, _, rfl⟩) | ⟨_, rfl⟩ | ⟨_, _, effect, _, _, _, rfl⟩
      · exact Or.inl rfl
      · exact Or.inl rfl
      · exact Or.inl rfl
      · exact Or.inr rfl
      · cases effect <;> exact Or.inr rfl
  | instantiate unit data id =>
      rcases mem_acts_instantiate there with ⟨_, _, rfl⟩ | ⟨_, _, rfl⟩ <;> exact Or.inr rfl

/-- The acts of a call that is admitted are admitted, also after others. -/
theorem admits_of_mem_acts {call : Call} {a : Act} (admitted : w.Admits call = true)
    (there : a ∈ call.acts w) (advances : Advances w w') : w'.Admits (.act a) = true := by
  rw [Admits, Option.all_eq_true] at *
  intro id about
  rcases session?_of_mem_acts there with none | same
  · rw [Call.session?, none] at about
    cases about
  · -- sessions are never closed, so what was known is known after other acts
    have known : w.Knows id := of_decide_eq_true (admitted id (same ▸ about))
    exact decide_eq_true (advances.knows known)

theorem serve_of_not_admitted {call : Call} (refused : w.Admits call = false) :
    w.serve call = w := by
  unfold serve
  rw [refused]
  rfl

/-- What every act keeps, a call keeps. -/
theorem serve_keeps {P : World → Prop} (step : ∀ w a, P w → P (w.act a)) (regular : w.Regular)
    (hw : P w) (call : Call) : P (w.serve call) := by
  cases admitted : w.Admits call with
  | true =>
      rw [serve_eq_acts regular admitted]
      exact List.foldlRecOn _ act hw fun w hw a _ => step w a hw
  | false =>
      rw [serve_of_not_admitted admitted]
      exact hw

theorem Advances.serve (regular : w.Regular) (call : Call) : Advances w (w.serve call) :=
  serve_keeps (fun w' a advances => advances.trans (.act w' a)) regular (.refl w) call

theorem Regular.serve (regular : w.Regular) (call : Call) : (w.serve call).Regular :=
  serve_keeps (fun _ a regular => regular.act a) regular regular call

theorem Regular.calls (regular : w.Regular) (calls : List Call) :
    (calls.foldl World.serve w).Regular :=
  List.foldlRecOn calls World.serve regular fun _ regular call _ => regular.serve call

theorem Advances.calls (regular : w.Regular) (calls : List Call) :
    Advances w (calls.foldl World.serve w) := by
  induction calls generalizing w with
  | nil => exact .refl w
  | cons call rest ih => exact (Advances.serve regular call).trans (ih (regular.serve call))

theorem regular_serveAll (calls : List Call) : (serveAll calls).Regular :=
  regular_empty.calls calls

end World
end RuleEngine
