import RuleEngine.Proofs.Memory.Ageing
import RuleEngine.Proofs.Memory.Agreement
import RuleEngine.Proofs.World.Calls

/-!
# Handles are given out once

An insertion gives its handle to the caller, and a firing reports those of its insertions.  The handles
that a session gives out ascend, whatever else is called in between: a batch that fails has counted
on a copy and given nothing out, and what is published while an action runs counts before the batch
does.

Below the next handle the memories of all sessions only age, act by act.  So a handle that is dead is
dead for good, and a live one changes only by a call that operates on it.
-/

namespace RuleEngine

/-! ## The handles of a batch -/

namespace Session

variable {s s' : Session} {effect : Effect} {effects : List Effect}

/-- The memory of a session agrees with its index at any time. -/
theorem Reachable.indexed (hs : s.Reachable) : s.memory.Indexed := by
  refine hs.invariant (P := fun s => s.memory.Indexed) ?_ ?_
  · intro defaultEntryPoint types
    unfold start
    rw [declare_memory]
    exact .empty
  · intro s s' step indexed
    cases step with
    | declare name =>
        rw [declare_memory]
        exact indexed
    | operate operation intact => exact indexed.perform operation
    | replace operations intact => exact WorkingMemory.indexed_run operations
    | setGlobal set =>
        rcases setGlobal_eq_ok set with ⟨-, rfl⟩
        exact indexed
    | damage => exact indexed

/-- An effect takes the next handle if it inserts, and none otherwise. -/
theorem carryOut_numbers (intact : s.broken = false) {inserted : Option Handle}
    (done : s.carryOut effect = .ok (inserted, s')) :
    inserted.toList.map (·.id) = List.range' s.memory.nextId inserted.toList.length ∧
      s'.memory.nextId = s.memory.nextId + inserted.toList.length := by
  cases effect with
  | insert entryPoint v =>
      -- declaring the entry point does not count, so the object gets the next number
      rw [carryOut_insert intact] at done
      simp only [Except.ok.injEq, Prod.mk.injEq] at done
      rcases done with ⟨rfl, rfl⟩
      exact ⟨rfl, rfl⟩
  | update h v =>
      rw [carryOut_update intact] at done
      rcases Except.map_eq_ok_iff.1 done with ⟨memory, updated, same⟩
      simp only [Prod.mk.injEq] at same
      rcases same with ⟨rfl, rfl⟩
      rcases WorkingMemory.update_eq_ok updated with ⟨old, -, rfl⟩
      exact ⟨rfl, rfl⟩
  | retract h =>
      rw [carryOut_retract intact] at done
      rcases Except.map_eq_ok_iff.1 done with ⟨⟨old, memory⟩, retracted, same⟩
      simp only [Prod.mk.injEq] at same
      rcases same with ⟨rfl, rfl⟩
      rcases WorkingMemory.retract_eq_ok retracted with ⟨-, rfl⟩
      exact ⟨rfl, rfl⟩

/-- Effects that are carried out take the next handles, without a gap. -/
theorem carryOutAll_numbers (intact : s.broken = false) (rooted : s.Rooted)
    {inserted : List Handle} (done : s.carryOutAll effects = .ok (inserted, s')) :
    inserted.map (·.id) = List.range' s.memory.nextId inserted.length ∧
      s'.memory.nextId = s.memory.nextId + inserted.length := by
  induction effects generalizing s inserted with
  | nil =>
      simp only [carryOutAll, Except.ok.injEq, Prod.mk.injEq] at done
      rcases done with ⟨rfl, rfl⟩
      exact ⟨rfl, rfl⟩
  | cons effect rest ih =>
      rw [carryOutAll] at done
      cases first : s.carryOut effect with
      | error e => simp [first] at done
      | ok r =>
          rcases r with ⟨here, mid⟩
          obtain ⟨intact', rooted'⟩ := carryOut_keeps intact rooted first
          obtain ⟨numbers, next⟩ := carryOut_numbers intact first
          cases later : mid.carryOutAll rest with
          | error e => simp [first, later] at done
          | ok r' =>
              rcases r' with ⟨others, final⟩
              simp only [first, later, Except.ok.injEq, Prod.mk.injEq] at done
              rcases done with ⟨rfl, rfl⟩
              -- the rest goes on counting where the first effect has stopped
              obtain ⟨numbers', next'⟩ := ih intact' rooted' later
              constructor
              · rw [List.map_append, numbers, numbers', next, List.length_append,
                  List.range'_append_1]
              · rw [next', next, List.length_append, Nat.add_assoc]

/-- Effects that are carried out bring no dead handle back to life. -/
theorem ages_of_carryOutAll (intact : s.broken = false) (rooted : s.Rooted)
    {inserted : List Handle} (done : s.carryOutAll effects = .ok (inserted, s')) :
    s.memory.Ages (fun _ => True) s'.memory := by
  rw [carryOutAll_eq intact rooted] at done
  rcases Except.map_eq_ok_iff.1 done with ⟨r, applied, same⟩
  simp only [Prod.mk.injEq] at same
  rcases same with ⟨-, rfl⟩
  rcases applyAllTo_eq_operations applied with ⟨operations, operated⟩
  simp only [operated]
  exact .performAll s.memory operations

end Session

namespace World

variable {w w' w'' : World} {id : SessionId} {h : Handle}
  {touched touched' : SessionId → Handle → Prop}

/-! ## Ageing -/

/-- The memories of all sessions aged, and operations were made only on handles in `touched`. -/
def Ages (touched : SessionId → Handle → Prop) (w w' : World) : Prop :=
  ∀ id, (w.session id).memory.Ages (touched id) (w'.session id).memory

theorem Ages.refl (touched : SessionId → Handle → Prop) (w : World) : Ages touched w w :=
  fun _ => .refl _ _

theorem Ages.trans (first : Ages touched w w') (second : Ages touched w' w'') :
    Ages touched w w'' :=
  fun id => (first id).trans (second id)

theorem Ages.mono (ages : Ages touched w w') (wider : ∀ id h, touched id h → touched' id h) :
    Ages touched' w w' :=
  fun id => (ages id).mono (wider id)

/-- Additions make no operation on a handle. -/
theorem ages_of_additions {s s' : Session} (additions : Session.Additions s s')
    (touched : Handle → Prop) : s.memory.Ages touched s'.memory := by
  induction additions with
  | refl => exact .refl _ _
  | tail _ last ih =>
      refine ih.trans ?_
      cases last with
      | declare name =>
          rw [Session.declare_memory]
          exact .refl _ _
      | insert v partition intact => exact .insert _ v partition
      | setGlobal set =>
          rcases Session.setGlobal_eq_ok set with ⟨-, rfl⟩
          exact .refl _ _

theorem memory_of_unknown (unknown : ¬ w.Knows id) : (w.session id).memory = .empty := by
  rw [session_of_unknown unknown]
  exact Session.declare_memory

/-- A session that has given a handle out was opened. -/
theorem knows_of_given (given : h.id < (w.session id).memory.nextId) : w.Knows id := by
  by_contra unknown
  rw [memory_of_unknown unknown] at given
  exact Nat.not_lt_zero _ given

/-- The handle that an act operates on. -/
def Act.target? (a : Act) : Option (SessionId × Handle) :=
  a.operation?.bind fun (id, operation) => operation.target?.map (id, ·)

theorem Ages.act (regular : w.Regular) (a : Act) :
    Ages (fun id h => a.target? = some (id, h)) w (w.act a) := by
  intro other
  rcases act_cases w a with adds | ⟨defaultEntryPoint, types, rfl⟩ | ⟨id, operation, of_act, same⟩
  · exact ages_of_additions (adds.additions other) _
  · show (w.session other).memory.Ages _ ((w.openSession _).2.session other).memory
    rw [session_openSession]
    split
    · rename_i new
      have unknown : ¬ w.Knows other := Nat.not_lt.2 (Nat.le_of_eq new.symm)
      -- the new session begins with the memory that its number has stood for
      rw [memory_of_unknown unknown, Session.start, Session.declare_memory]
      exact .refl _ _
    · exact .refl _ _
  · rw [same, changeMemory_eq (regular.intact id), session_setSession]
    split
    · rename_i here
      rcases here with ⟨rfl, -⟩
      refine (WorkingMemory.Ages.perform _ operation).mono fun h target => ?_
      simp [Act.target?, of_act, target]
    · exact .refl _ _

theorem Ages.acts (regular : w.Regular) (acts : List Act) :
    Ages (fun id h => ∃ a ∈ acts, a.target? = some (id, h)) w (acts.foldl World.act w) := by
  induction acts generalizing w with
  | nil => exact .refl _ w
  | cons a rest ih =>
      have first := Ages.act regular a
      have later := ih (regular.act a)
      refine (first.mono ?_).trans (later.mono ?_)
      · intro id h target
        exact ⟨a, List.mem_cons_self, target⟩
      · rintro id h ⟨b, there, target⟩
        exact ⟨b, List.mem_cons_of_mem _ there, target⟩

/-- Among some acts, a retraction leaves its handle dead to the end. -/
theorem dead_of_retract (regular : w.Regular) {acts : List Act} (there : .retract id h ∈ acts)
    (given : h.id < (w.session id).memory.nextId) :
    ((acts.foldl World.act w).session id).memory.find? h = none := by
  -- up to the retraction the handle stays one that was given out, and after it a dead one
  rcases List.append_of_mem there with ⟨earlier, later, rfl⟩
  rw [List.foldl_append, List.foldl_cons]
  have before := Ages.acts regular earlier
  have regular' := regular.acts earlier
  generalize earlier.foldl World.act w = mid at before regular'
  have given' : h.id < (mid.session id).memory.nextId :=
    Nat.lt_of_lt_of_le given (before id).nextId_le
  have after := Ages.acts (regular'.act (.retract id h)) later
  have here := Ages.act regular' (.retract id h)
  apply (after id).dead h (Nat.lt_of_lt_of_le given' (here id).nextId_le)
  show ((mid.changeMemory id _).session id).memory.find? h = none
  rw [changeMemory_eq (regular'.intact id), session_setSession_self (knows_of_given given')]
  exact WorkingMemory.find?_perform_retract _ h

/-! ## Calls -/

/-- A call operates on a handle: it is such an act, or a firing that succeeds with such an effect. -/
def Touches (w : World) (id : SessionId) (h : Handle) : Call → Prop
  | .act a => a.target? = some (id, h)
  | .fire x chain other =>
    other = id ∧ ∃ summary, (x.fire chain id w).result = .ok summary ∧
      ∃ effect ∈ summary.effects, effect.target? = some h
  | .instantiate .. => False

/-- A call retracts a handle. -/
def Retracts (w : World) (id : SessionId) (h : Handle) : Call → Prop
  | .act (.retract other g) => other = id ∧ g = h
  | .fire x chain other =>
    other = id ∧ ∃ summary, (x.fire chain id w).result = .ok summary ∧
      .retract h ∈ summary.effects
  | _ => False

/-- The handles that a call gives back, with the session that they are of. -/
def returned (w : World) (call : Call) : List (SessionId × Handle) :=
  if w.Admits call then
    match call with
    | .act (.insert id entryPoint v) =>
      match (w.session id).carryOut (.insert entryPoint v) with
      | .ok (inserted, _) => inserted.toList.map (id, ·)
      | .error _ => []
    | .fire x chain id =>
      match (x.fire chain id w).result with
      | .ok summary => summary.inserted.map (id, ·)
      | .error _ => []
    | _ => []
  else
    []

/-- The handles that calls give back, one call after the other. -/
def returnedAll : World → List Call → List (SessionId × Handle)
  | _, [] => []
  | w, call :: rest => w.returned call ++ returnedAll (w.serve call) rest

theorem target?_act (id : SessionId) (effect : Effect) :
    (effect.act id).target? = effect.target?.map (id, ·) := by
  cases effect <;> rfl

/-- The acts of a call operate only on handles that the call operates on. -/
theorem touches_of_mem_acts (regular : w.Regular) {call : Call} {a : Act}
    (there : a ∈ call.acts w) (target : a.target? = some (id, h)) : w.Touches id h call := by
  cases call with
  | act b =>
      rw [List.mem_singleton.1 there] at target
      exact target
  | instantiate unit data other =>
      rcases mem_acts_instantiate there with ⟨_, _, rfl⟩ | ⟨_, _, rfl⟩ <;> cases target
  | fire x chain other =>
      rcases mem_acts_fire there with
        (⟨_, _, rfl⟩ | rfl | ⟨_, _, rfl⟩) | ⟨_, rfl⟩ |
          ⟨s, r, effect, evaluated, carried, requested, rfl⟩
      · cases target
      · cases target
      · cases target
      · cases target
      · have fired := Executable.fire_eq_carryOutAll (regular.intact other) regular.sound evaluated
        simp only [carried] at fired
        rw [target?_act, Option.map_eq_some_iff] at target
        rcases target with ⟨g, target, same⟩
        cases same
        exact ⟨rfl, _, by rw [fired], effect, requested, target⟩

theorem mem_acts_of_retracts (regular : w.Regular) {call : Call}
    (retracts : w.Retracts id h call) : .retract id h ∈ call.acts w := by
  cases call with
  | act a =>
      cases a with
      | retract other g =>
          rcases retracts with ⟨rfl, rfl⟩
          exact List.mem_singleton_self _
      | _ => cases retracts
  | instantiate unit data other => cases retracts
  | fire x chain other =>
      rcases retracts with ⟨rfl, summary, succeeded, requested⟩
      rcases evaluated : x.evaluate (w.firing chain other) (.start w) with ⟨e | ⟨⟩, s⟩
      · rw [Executable.fire_of_error (regular.intact other) evaluated] at succeeded
        cases succeeded
      · rw [Executable.fire_eq_carryOutAll (regular.intact other) regular.sound evaluated]
          at succeeded
        cases carried : (s.world.session other).carryOutAll s.effects with
        | error e => simp [carried] at succeeded
        | ok r =>
            simp only [carried, Except.ok.injEq] at succeeded
            subst succeeded
            simp only [Call.acts, evaluated, Session.batchActs, carried]
            exact List.mem_append_right _ (List.mem_map_of_mem requested)

theorem Ages.serve (regular : w.Regular) (call : Call) :
    Ages (fun id h => w.Touches id h call) w (w.serve call) := by
  cases admitted : w.Admits call with
  | false =>
      rw [serve_of_not_admitted admitted]
      exact .refl _ w
  | true =>
      rw [serve_eq_acts regular admitted]
      refine (Ages.acts regular (call.acts w)).mono ?_
      rintro id h ⟨a, there, target⟩
      exact touches_of_mem_acts regular there target

/-! ## The handles that are given back -/

/-- What a firing that succeeds does to its session: it adds what the action publishes, and then it
carries the effects out. -/
theorem carried_of_fire (regular : w.Regular) (known : w.Knows id) {x : Executable} {chain : Chain}
    {summary : FiringSummary} (succeeded : (x.fire chain id w).result = .ok summary) :
    ∃ before, Session.Additions (w.session id) before ∧ before.broken = false ∧ before.Rooted ∧
      before.carryOutAll summary.effects =
        .ok (summary.inserted, (x.fire chain id w).world.session id) := by
  have intact := regular.intact id
  rcases evaluated : x.evaluate (w.firing chain id) (.start w) with ⟨e | ⟨⟩, s⟩
  · rw [Executable.fire_of_error intact evaluated] at succeeded
    cases succeeded
  · have fired := Executable.fire_eq_carryOutAll intact regular.sound evaluated
    have known' := Executable.knows_of_evaluate evaluated known
    refine ⟨s.world.session id, (Executable.fed_of_evaluate evaluated).adds.additions id,
      Executable.intact_of_evaluate evaluated intact,
      Executable.rooted_of_evaluate evaluated regular.sound, ?_⟩
    cases carried : (s.world.session id).carryOutAll s.effects with
    | error e => simp [fired, carried] at succeeded
    | ok r =>
        simp only [fired, carried, Except.ok.injEq] at succeeded ⊢
        subst succeeded
        rw [session_setSession_self known', carried]

/-- Handles that a session gives out without a gap ascend, and they are new. -/
theorem within_of_numbers {m m' : WorkingMemory} {n : Nat} {handles : List Handle}
    (earlier : m.nextId ≤ n) (numbers : handles.map (·.id) = List.range' n handles.length)
    (next : m'.nextId = n + handles.length) (id : SessionId) :
    (handles.map (id, ·)).Pairwise (fun a b => a.2.id < b.2.id) ∧
      ∀ h ∈ handles, m.nextId ≤ h.id ∧ h.id < m'.nextId := by
  constructor
  · rw [List.pairwise_map]
    have ascending : (handles.map (·.id)).Pairwise (· < ·) := numbers ▸ List.pairwise_lt_range'
    exact List.pairwise_map.1 ascending
  · intro h there
    have numbered : h.id ∈ List.range' n handles.length := numbers ▸ List.mem_map_of_mem there
    have ⟨above, below⟩ := List.mem_range'_1.1 numbered
    exact ⟨Nat.le_trans earlier above, next ▸ below⟩

/-- The handles that a call gives back ascend, and they are new. -/
theorem returned_within (regular : w.Regular) (call : Call) :
    (w.returned call).Pairwise (fun a b => a.2.id < b.2.id) ∧
      ∀ e ∈ w.returned call, (w.session e.1).memory.nextId ≤ e.2.id ∧
        e.2.id < ((w.serve call).session e.1).memory.nextId := by
  unfold returned
  split
  case isFalse => exact ⟨.nil, nofun⟩
  case isTrue admitted =>
    split
    · rename_i other entryPoint v
      have known : w.Knows other := of_decide_eq_true admitted
      cases done : (w.session other).carryOut (.insert entryPoint v) with
      | error e => exact ⟨.nil, nofun⟩
      | ok r =>
          rcases r with ⟨inserted, s'⟩
          have ⟨numbers, next⟩ := Session.carryOut_numbers (regular.intact other) done
          have ⟨ascending, new⟩ := within_of_numbers (Nat.le_refl _) numbers next other
          have after : (w.serve (.act (.insert other entryPoint v))).session other = s' := by
            unfold serve
            rw [if_pos admitted]
            show (w.act ((Effect.insert entryPoint v).act other)).session other = s'
            rw [act_effect known (regular.intact other) done, session_setSession_self known]
          refine ⟨ascending, ?_⟩
          intro e there
          rcases List.mem_map.1 there with ⟨h, given, rfl⟩
          rw [after]
          exact new h given
    · rename_i x chain other
      have known : w.Knows other := of_decide_eq_true admitted
      cases succeeded : (x.fire chain other w).result with
      | error e => exact ⟨.nil, nofun⟩
      | ok summary =>
          rcases carried_of_fire regular known succeeded with
            ⟨before, additions, intact, rooted, carried⟩
          -- what the action published has taken its handles before the batch
          have published := (ages_of_additions additions fun _ => False).nextId_le
          have ⟨numbers, next⟩ := Session.carryOutAll_numbers intact rooted carried
          have ⟨ascending, new⟩ := within_of_numbers published numbers next other
          have after : w.serve (.fire x chain other) = (x.fire chain other w).world := by
            unfold serve
            rw [if_pos admitted]
          refine ⟨ascending, ?_⟩
          intro e there
          rcases List.mem_map.1 there with ⟨h, given, rfl⟩
          rw [after]
          exact new h given
    · exact ⟨.nil, nofun⟩

theorem Ages.calls (regular : w.Regular) (calls : List Call) :
    Ages (fun _ _ => True) w (calls.foldl World.serve w) := by
  induction calls generalizing w with
  | nil => exact .refl _ w
  | cons call rest ih =>
      exact ((Ages.serve regular call).mono fun _ _ _ => trivial).trans (ih (regular.serve call))

/-- The handles that a session gives back to calls ascend, and they are new. -/
theorem returnedAll_within (regular : w.Regular) (calls : List Call) :
    (w.returnedAll calls).Pairwise (fun a b => a.1 = b.1 → a.2.id < b.2.id) ∧
      ∀ e ∈ w.returnedAll calls, (w.session e.1).memory.nextId ≤ e.2.id ∧
        e.2.id < ((calls.foldl serve w).session e.1).memory.nextId := by
  induction calls generalizing w with
  | nil => exact ⟨.nil, nofun⟩
  | cons call rest ih =>
      have ⟨ascending, new⟩ := returned_within regular call
      have ⟨ascending', new'⟩ := ih (regular.serve call)
      constructor
      · have within : (w.returned call).Pairwise (fun a b => a.1 = b.1 → a.2.id < b.2.id) :=
          ascending.imp fun {a b} below (_ : a.1 = b.1) => below
        refine List.pairwise_append.2 ⟨within, ascending', ?_⟩
        -- this call has counted past `a`, and the others begin there
        intro a given b later same
        have below := (new a given).2
        rw [same] at below
        exact Nat.lt_of_lt_of_le below (new' b later).1
      · intro e there
        rcases List.mem_append.1 there with given | later
        · have ⟨above, below⟩ := new e given
          have aged := (Ages.calls (regular.serve call) rest e.1).nextId_le
          exact ⟨above, Nat.lt_of_lt_of_le below aged⟩
        · have ⟨above, below⟩ := new' e later
          exact ⟨Nat.le_trans (Ages.serve regular call e.1).nextId_le above, below⟩

/-! ## Dead handles -/

theorem changeMemory_of_same {f : WorkingMemory → WorkingMemory}
    (intact : (w.session id).broken = false)
    (same : f (w.session id).memory = (w.session id).memory) : w.changeMemory id f = w := by
  rw [changeMemory_eq intact, same]
  exact setSession_session w id

/-- A call that operates on a dead handle changes nothing. -/
theorem serve_of_dead (regular : w.Regular) (dead : (w.session id).memory.find? h = none) :
    (∀ v, w.serve (.act (.update id h v)) = w) ∧ w.serve (.act (.retract id h)) = w := by
  have updated : ∀ v, (w.session id).memory.perform (.update h v) = (w.session id).memory := by
    intro v
    simp only [WorkingMemory.perform, WorkingMemory.update_of_dead dead]
  have retracted : (w.session id).memory.perform (.retract h) = (w.session id).memory := by
    simp only [WorkingMemory.perform, WorkingMemory.retract_of_dead dead]
  have intact := regular.intact id
  unfold serve
  constructor
  · intro v
    split
    · exact changeMemory_of_same intact (updated v)
    · rfl
  · split
    · exact changeMemory_of_same intact retracted
    · rfl

/-- A firing that asks for an operation on a dead handle fails, and leaves the memory as it is by
then. -/
theorem fire_of_dead (regular : w.Regular) (given : h.id < (w.session id).memory.nextId)
    (dead : (w.session id).memory.find? h = none) {x : Executable} {chain : Chain} {s : Progress}
    (evaluated : x.evaluate (w.firing chain id) (.start w) = (.ok (), s)) {effect : Effect}
    (requested : effect ∈ s.effects) (target : effect.target? = some h) :
    ∃ g, (x.fire chain id w).result = .error ⟨.factNotFound g, some { artifact := some x.name }⟩ ∧
      ((x.fire chain id w).world.session id).memory = (s.world.session id).memory := by
  have known := knows_of_given given
  have intact := Executable.intact_of_evaluate evaluated (regular.intact id)
  have rooted : (s.world.session id).Rooted :=
    Executable.rooted_of_evaluate evaluated regular.sound
  have fired := Executable.fire_eq_carryOutAll (regular.intact id) regular.sound evaluated
  have additions := (Executable.fed_of_evaluate evaluated).adds.additions id
  have published := ages_of_additions additions fun _ => True
  cases carried : (s.world.session id).carryOutAll s.effects with
  | error e =>
      -- the batch may fail at an earlier effect, on another dead handle
      rcases (Session.carryOutAll_eq_error_iff intact rooted).1 carried with ⟨g, -, rfl⟩
      have failed : (x.fire chain id w).result =
          .error ⟨.factNotFound g, some { artifact := some x.name }⟩ := by
        rw [fired, carried]
        rfl
      refine ⟨g, failed, ?_⟩
      rw [Executable.session_of_failed_batch known (regular.intact id) regular.sound evaluated failed,
        Session.declareNamed_memory]
  | ok r =>
      -- the effect would have found the handle live, after effects that only age the memory
      exfalso
      have finds := (Session.exists_carryOutAll_iff intact rooted).1 ⟨r, carried⟩
      rcases List.append_of_mem requested with ⟨earlier, rest, split⟩
      rw [split, Session.carryOutAll_append] at carried
      cases before : (s.world.session id).carryOutAll earlier with
      | error e => simp [before] at carried
      | ok r' =>
          rcases r' with ⟨inserted, mid⟩
          have live := finds earlier effect rest split inserted mid before h target
          have aged := published.trans (Session.ages_of_carryOutAll intact rooted before)
          have still_dead := WorkingMemory.contains_eq_false_iff.2 (aged.dead h given dead)
          rw [live] at still_dead
          cases still_dead

/-! ## All calls -/

/-- A handle is dead, and an operation on it fails and leaves the memory as it is by then, whether it
is made on the memory itself, by a call, or by a firing. -/
structure Spent (w : World) (id : SessionId) (h : Handle) : Prop where
  dead : (w.session id).memory.find? h = none
  update : ∀ v, (w.session id).memory.update h v = .error (Cause.factNotFound h)
  retract : (w.session id).memory.retract h = .error (Cause.factNotFound h)
  serve_update : ∀ v, w.serve (.act (.update id h v)) = w
  serve_retract : w.serve (.act (.retract id h)) = w
  fire : ∀ (x : Executable) (chain : Chain) (s : Progress),
    x.evaluate (w.firing chain id) (.start w) = (.ok (), s) →
    ∀ effect ∈ s.effects, effect.target? = some h →
      ∃ g, (x.fire chain id w).result = .error ⟨.factNotFound g, some { artifact := some x.name }⟩ ∧
        ((x.fire chain id w).world.session id).memory = (s.world.session id).memory

/-- The handles that calls give back for a session ascend, so none is given back twice.  They are below
the number of the next handle, and so is every live handle.  Below that number, a call changes neither
the object behind a handle nor whether it is live, unless it operates on the handle; a call that
retracts the handle leaves it dead; and once it is dead, it is spent after all later calls. -/
theorem handles_never_reused (calls : List Call) :
    let w := serveAll calls
    let given := returnedAll empty calls
    given.Pairwise (fun a b => a.1 = b.1 → a.2.id < b.2.id) ∧
    (∀ id h, (id, h) ∈ given ∨ (w.session id).memory.contains h = true →
      h.id < (w.session id).memory.nextId) ∧
    ∀ id h, h.id < (w.session id).memory.nextId →
      (∀ call, ¬ w.Touches id h call →
        ((w.serve call).session id).memory.find? h = (w.session id).memory.find? h) ∧
      (∀ call, w.Admits call = true → w.Retracts id h call →
        ((w.serve call).session id).memory.find? h = none) ∧
      ((w.session id).memory.find? h = none →
        ∀ later : List Call, (later.foldl serve w).Spent id h) := by
  intro w given
  have regular : w.Regular := regular_serveAll calls
  have ⟨ascending, new⟩ := returnedAll_within regular_empty calls
  refine ⟨ascending, ?_, ?_⟩
  · rintro id h (returned | live)
    · exact (new (id, h) returned).2
    · rcases Option.isSome_iff_exists.1 live with ⟨v, found⟩
      have ordered := (regular.sound id).indexed.ordered
      exact ordered.fresh _ (WorkingMemory.mem_facts_of_find? found)
  · intro id h below
    refine ⟨fun call apart => (Ages.serve regular call id).untouched h below apart, ?_, ?_⟩
    · intro call admitted retracts
      rw [serve_eq_acts regular admitted]
      exact dead_of_retract regular (mem_acts_of_retracts regular retracts) below
    · intro dead later
      have regular' := regular.calls later
      have aged := Ages.calls regular later id
      have dead' := aged.dead h below dead
      have below' := Nat.lt_of_lt_of_le below aged.nextId_le
      constructor
      case dead => exact dead'
      case update => exact WorkingMemory.update_of_dead dead'
      case retract => exact WorkingMemory.retract_of_dead dead'
      case serve_update => exact (serve_of_dead regular' dead').1
      case serve_retract => exact (serve_of_dead regular' dead').2
      case fire =>
        intro x chain s evaluated effect requested target
        exact fire_of_dead regular' below' dead' evaluated requested target

/-- Two objects come into a session, and the first is retracted. -/
def firstRetracted : List Call :=
  [.act (.openSession "DEFAULT" .empty), .act (.insert ⟨0⟩ none (.int 5)),
    .act (.insert ⟨0⟩ (some "orders") (.int 6)), .act (.retract ⟨0⟩ ⟨0, 0⟩)]

theorem retracted_handle_spent :
    let w := serveAll firstRetracted
    returnedAll empty firstRetracted = [(⟨0⟩, ⟨0, 0⟩), (⟨0⟩, ⟨1, 1⟩)] ∧
    ((w.serve (.act (.insert ⟨0⟩ none (.int 7)))).session ⟨0⟩).memory.find? ⟨1, 1⟩ =
      some (.int 6) ∧
    ∀ later : List Call, (later.foldl serve w).Spent ⟨0⟩ ⟨0, 0⟩ := by
  have ⟨_, _, given⟩ := handles_never_reused firstRetracted
  refine ⟨rfl, ?_, ?_⟩
  · exact (given ⟨0⟩ ⟨1, 1⟩ (by decide)).1 (.act (.insert ⟨0⟩ none (.int 7))) nofun
  · exact (given ⟨0⟩ ⟨0, 0⟩ (by decide)).2.2 rfl

end World
end RuleEngine
