import RuleEngine.Proofs.World.Runs

/-!
# What a firing leaves

An executable is fired against a session of a world that some run has led to.  Evaluating it only
feeds the session.  The requested effects then leave exactly what they leave one after the other, or
the memory stays as it is by then and the error names the first handle that was missed.

A failed batch is not without a trace: the entry points that it names stay declared.  The session is
left as it was by then exactly when all of them were declared before.
-/

namespace RuleEngine
namespace Executable

variable {x : Executable} {chain : Chain} {id : SessionId} {w : World} {s : Progress}

theorem rooted_of_evaluate {firing : Firing} {result : Except Error Unit}
    (evaluated : x.evaluate firing (.start w) = (result, s)) (sound : w.Sound) :
    (s.world.session id).Rooted :=
  (sound.fed (fed_of_evaluate evaluated) id).rooted

/-! ## The batch of a firing -/

/-- A firing whose evaluation succeeds goes on as its effects one after the other. -/
theorem fire_eq_carryOutAll (intact : (w.session id).broken = false) (sound : w.Sound)
    (evaluated : x.evaluate (w.firing chain id) (.start w) = (.ok (), s)) :
    x.fire chain id w =
      match (s.world.session id).carryOutAll s.effects with
      | .ok (inserted, after) =>
        ⟨.ok ⟨x.name, s.effects, inserted⟩, s.world.setSession id after, s.notes⟩
      | .error e =>
        ⟨.error (e.inContext { artifact := some x.name }),
          s.world.setSession id ((s.world.session id).declareNamed s.effects), s.notes⟩ := by
  rw [fire_of_ok intact evaluated,
    Session.applyBatch_eq (intact_of_evaluate evaluated intact) (rooted_of_evaluate evaluated sound)]
  cases (s.world.session id).carryOutAll s.effects <;> rfl

/-- A batch that fails leaves its entry points declared, and nothing else. -/
theorem session_of_failed_batch (known : w.Knows id) (intact : (w.session id).broken = false)
    (sound : w.Sound) (evaluated : x.evaluate (w.firing chain id) (.start w) = (.ok (), s)) {e : Error}
    (failed : (x.fire chain id w).result = .error e) :
    (x.fire chain id w).world.session id = (s.world.session id).declareNamed s.effects := by
  have fired := fire_eq_carryOutAll intact sound evaluated
  cases result : (s.world.session id).carryOutAll s.effects with
  | ok r => simp [fired, result] at failed
  | error e' =>
      rw [result] at fired
      rw [fired, World.session_setSession_self (knows_of_evaluate evaluated known)]

/-- After an evaluation that succeeded, a firing succeeds exactly when every requested effect, in the
order of request, finds its handle live in the session as the evaluation left it.  It then leaves the
session that the effects leave one after the other, and reports the effects and the handles of the
insertions.  Otherwise the error is that of the first handle that is missed, and the memory is the
one that the evaluation left.  No other session changes with the effects. -/
theorem firing_carries_out_effects (requests : List World.Request) (x : Executable) (chain : Chain)
    (id : SessionId) (s : Progress) (known : (World.run requests).Knows id)
    (intact : ((World.run requests).session id).broken = false)
    (evaluated : x.evaluate ((World.run requests).firing chain id) (.start (World.run requests)) =
      (.ok (), s)) :
    let outcome := x.fire chain id (World.run requests)
    let before := s.world.session id
    let after := outcome.world.session id
    (∃ published, before = ((World.run requests).session id).fed published ∧
      ∀ e ∈ published, (World.run requests).Feeds id e.2) ∧
    ((∃ summary, outcome.result = .ok summary) ↔ before.FindsAll s.effects) ∧
    (∀ summary, outcome.result = .ok summary →
      before.carryOutAll s.effects = .ok (summary.inserted, after) ∧
        summary.effects = s.effects ∧ summary.fired = x.name) ∧
    (∀ e, outcome.result = .error e →
      ∃ h, before.MissesFirst s.effects h ∧
        e = ⟨.factNotFound h, some { artifact := some x.name }⟩ ∧ after.memory = before.memory) ∧
    ∀ other, other ≠ id → outcome.world.session other = s.world.session other := by
  intro outcome before after
  have sound := World.sound_run requests
  have intact' : before.broken = false := intact_of_evaluate evaluated intact
  have rooted : before.Rooted := rooted_of_evaluate evaluated sound
  have known' := knows_of_evaluate evaluated known
  have fired : outcome = _ := fire_eq_carryOutAll intact sound evaluated
  have carried : (∃ r, before.carryOutAll s.effects = .ok r) ↔ before.FindsAll s.effects :=
    Session.exists_carryOutAll_iff intact' rooted
  refine ⟨session_of_evaluate evaluated id, ?_⟩
  -- the effects one after the other decide both the result and what is left
  cases result : before.carryOutAll s.effects with
  | ok r =>
      rcases r with ⟨inserted, final⟩
      rw [result] at fired
      have left : after = final := by
        simp only [after, fired, World.session_setSession_self known']
      refine ⟨⟨fun _ => carried.1 ⟨_, result⟩, fun _ => ⟨_, by rw [fired]⟩⟩, ?_, ?_, ?_⟩
      · intro summary succeeded
        rw [fired, Except.ok.injEq] at succeeded
        subst succeeded
        exact ⟨by rw [left], rfl, rfl⟩
      · intro e failed
        simp [fired] at failed
      · intro other apart
        rw [fired, World.session_setSession_ne apart]
  | error e =>
      rw [result] at fired
      rcases (Session.carryOutAll_eq_error_iff intact' rooted).1 result with ⟨h, misses, rfl⟩
      refine ⟨⟨?_, ?_⟩, ?_, ?_, ?_⟩
      · rintro ⟨summary, succeeded⟩
        simp [fired] at succeeded
      · intro finds
        rcases carried.2 finds with ⟨r, done⟩
        rw [result] at done
        cases done
      · intro summary succeeded
        simp [fired] at succeeded
      · intro e failed
        have left : after = _ := session_of_failed_batch known intact sound evaluated failed
        rw [fired, Except.error.injEq] at failed
        exact ⟨h, misses, failed.symm, by rw [left, Session.declareNamed_memory]⟩
      · intro other apart
        rw [fired, World.session_setSession_ne apart]

def fedSession : List World.Request :=
  [.openSession "DEFAULT" .empty, .openStream, .subscribe ⟨0⟩ (.enter ⟨0⟩ 0)]

/-- Publishes an object and asks for the insertion of another one. -/
def relay : Executable where
  name := "relay"
  program _ := .publish ⟨0⟩ (.int 1) fun _ => .request (.insert none (.int 2)) (.done ())

theorem relay_inserts_after_published :
    let w := World.run fedSession
    let before := (relay.evaluate (w.firing default ⟨0⟩) (.start w)).2.world.session ⟨0⟩
    ∃ after, before.memory.size = 1 ∧
      before.carryOutAll [.insert none (.int 2)] = .ok ([⟨1, 0⟩], after) := by
  have carried := firing_carries_out_effects fedSession relay default ⟨0⟩ _ (by decide) rfl rfl
  exact ⟨_, rfl, (carried.2.2.1 _ rfl).1⟩

/-! ## A failed firing -/

/-- The partition of an entry point that is declared after a failed batch is the one that it would
have had without the batch exactly when the batch named no new entry point. -/
theorem partition_after_declareNamed {s : Session} {effects : List Effect} {name : String}
    (absent : (s.declareNamed effects).entryPoints.find? name = none)
    (room : s.entryPoints.size < Session.maxPartition) :
    ((s.declareNamed effects).declare name).1 = (s.declare name).1 ↔ s.DeclaresAll effects := by
  have absent' : s.entryPoints.find? name = none := by
    cases found : s.entryPoints.find? name with
    | none => rfl
    | some partition =>
        rw [Session.find?_declareNamed_of_find? found effects] at absent
        cases absent
  constructor
  · intro same
    -- with a new entry point the table has grown, and the next partition with it
    by_cases declared : s.DeclaresAll effects
    · exact declared
    · have grown := Session.size_lt_declareNamed declared
      rw [Session.declare_eq_of_none absent, Session.declare_eq_of_none absent'] at same
      omega
  · intro declared
    rw [declared.declareNamed_eq]

/-- A firing that fails does so in one of three ways.  When the memory is out of order nothing
changes.  When the evaluation fails nothing changes after it.  When an effect fails the globals and
the memory stay as the evaluation left them, but the entry points that the batch names are declared:
the table of entry points is the same, and later entry points get the same partitions, exactly when
all of them were declared before. -/
theorem failed_firing_leaves (requests : List World.Request) (x : Executable) (chain : Chain)
    (id : SessionId) (e : Error) (known : (World.run requests).Knows id)
    (failed : (x.fire chain id (World.run requests)).result = .error e) :
    let w := World.run requests
    let outcome := x.fire chain id w
    let evaluation := x.evaluate (w.firing chain id) (.start w)
    let before := evaluation.2.world.session id
    let after := outcome.world.session id
    let effects := evaluation.2.effects
    ((w.session id).broken = true ∧ outcome.world = w) ∨
    (evaluation.1 = .error e ∧ outcome.world = evaluation.2.world) ∨
    (evaluation.1 = .ok () ∧ after.globals = before.globals ∧ after.memory = before.memory ∧
      (after.entryPoints = before.entryPoints ↔ before.DeclaresAll effects) ∧
      (after = before ↔ before.DeclaresAll effects) ∧
      ∀ name, after.entryPoints.find? name = none →
        before.entryPoints.size < Session.maxPartition →
          ((after.declare name).1 = (before.declare name).1 ↔ before.DeclaresAll effects)) := by
  intro w outcome evaluation before after effects
  cases broken : (w.session id).broken with
  | true =>
      have fired : outcome = _ := fire_of_broken x chain broken
      exact Or.inl ⟨rfl, by rw [fired]⟩
  | false =>
      refine Or.inr ?_
      rcases evaluated : x.evaluate (w.firing chain id) (.start w) with ⟨e' | ⟨⟩, s⟩
      · have fired : outcome = _ := fire_of_error broken evaluated
        have same : e' = e := by
          rw [fire_of_error broken evaluated, Except.error.injEq] at failed
          exact failed
        refine Or.inl ⟨?_, ?_⟩
        · simp only [evaluation, evaluated, same]
        · simp only [evaluation, evaluated, fired]
      · have left : after = before.declareNamed effects := by
          simp only [before, effects, evaluation, evaluated]
          exact session_of_failed_batch known broken (World.sound_run requests) evaluated failed
        rw [left]
        refine Or.inr ⟨?_, Session.declareNamed_globals, Session.declareNamed_memory,
          Session.declareNamed_entryPoints_eq_iff, ⟨?_, ?_⟩, ?_⟩
        · simp only [evaluation, evaluated]
        · intro same
          exact Session.declareNamed_entryPoints_eq_iff.1 (congrArg Session.entryPoints same)
        · exact Session.DeclaresAll.declareNamed_eq
        · intro name absent room
          exact partition_after_declareNamed absent room

def retractedFact : List World.Request :=
  [.openSession "DEFAULT" .empty, .enter ⟨0⟩ 0 (.int 0), .operate ⟨0⟩ (.retract ⟨0, 0⟩)]

/-- Asks for the retraction of a dead handle, and for an insertion through a new entry point. -/
def cleanup : Executable where
  name := "cleanup"
  program _ := .request (.retract ⟨0, 0⟩) (.request (.insert (some "alerts") (.int 1)) (.done ()))

theorem cleanup_declares_alerts :
    let w := World.run retractedFact
    let before := (cleanup.evaluate (w.firing default ⟨0⟩) (.start w)).2.world.session ⟨0⟩
    ((cleanup.fire default ⟨0⟩ w).world.session ⟨0⟩).entryPoints ≠ before.entryPoints := by
  intro w before same
  rcases failed_firing_leaves retractedFact cleanup default ⟨0⟩ _ (by decide) rfl with
    ⟨broken, -⟩ | ⟨failed, -⟩ | ⟨-, -, -, unchanged, -⟩
  · cases broken
  · cases failed
  · rcases unchanged.1 same (.insert (some "alerts") (.int 1)) (.tail _ (.head _)) "alerts"
      rfl with
      ⟨partition, found⟩
    cases found

end Executable
end RuleEngine
