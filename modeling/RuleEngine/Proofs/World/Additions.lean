import RuleEngine.Proofs.Session.Steps
import RuleEngine.RuleUnit.Wiring

/-!
# What streams and rule units do to sessions

Deliveries, subscriptions and the statements of rule units only add to sessions, to each of them some
entry points, objects and values of globals.  What additions keep is therefore the same in every
session before and after.
-/

namespace RuleEngine
namespace World

variable {w w' w'' : World} {id : SessionId} {s : Session}

/-- Every session has only got additions. -/
structure Adds (w w' : World) : Prop where
  length_eq : w'.sessions.length = w.sessions.length
  additions : ∀ id, Session.Additions (w.session id) (w'.session id)

theorem Adds.refl (w : World) : Adds w w :=
  ⟨rfl, fun _ => .refl⟩

theorem Adds.trans (adds : Adds w w') (more : Adds w' w'') : Adds w w'' where
  length_eq := more.length_eq.trans adds.length_eq
  additions id := (adds.additions id).trans (more.additions id)

theorem Adds.of_sessions (same : w'.sessions = w.sessions) : Adds w w' where
  length_eq := by rw [same]
  additions id := by
    rw [session_eq_of_sessions same]

theorem Fed.adds (fed : Fed w w') : Adds w w' where
  length_eq := fed.length_eq
  additions id := by
    rcases fed.objects id with ⟨objects, same, none, -⟩
    rw [same]
    exact Session.additions_fed none

theorem Adds.setSession (additions : Session.Additions (w.session id) s) :
    Adds w (w.setSession id s) where
  length_eq := length_setSession w id s
  additions other := by
    rw [session_setSession]
    split
    · rename_i here
      rw [here.1]
      exact additions
    · exact .refl

theorem Adds.enter (w : World) (id : SessionId) (partition : Nat) (v : Value) :
    Adds w (w.enter id partition v).1 := by
  unfold World.enter
  rw [Session.insertThrough_eq]
  cases intact : (w.session id).broken with
  | true => exact .refl w
  | false => exact .setSession (.single (.insert _ v partition intact))

theorem Adds.kept (w : World) : KeptByDelivery (fun _ _ => True) (Adds w) where
  store _ _ _ adds := adds.trans (.of_sessions rfl)
  collect w' id v adds := adds.trans (.of_sessions (collect_sessions w' id v))
  hand _ _ _ adds := adds.trans (.of_sessions rfl)
  enter w' id partition v _ adds := adds.trans (.enter w' id partition v)
  subscribed _ _ _ _ _ _ := trivial

theorem Adds.publish (w : World) (id : SourceId) (v : Value) : Adds w (w.publish id v).1 :=
  (Adds.kept w).publish (.refl w) id v

theorem Adds.subscribe (w : World) (id : SourceId) (subscriber : Subscriber) :
    Adds w (w.subscribe id subscriber).1 :=
  (Adds.kept w).subscribe (fun _ _ _ => trivial) (.of_sessions rfl)

theorem Adds.declareEntryPoint (w : World) (id : SessionId) (name : String) :
    Adds w (w.declareEntryPoint id name).2 :=
  .setSession (.single (.declare _ name))

theorem Adds.applyWiring (w : World) (id : SessionId) (wiring : PreparedWiring) :
    Adds w (w.applyWiring id wiring).1 := by
  cases wiring with
  | subscribe source entryPoint =>
      exact (Adds.declareEntryPoint w id entryPoint).trans (.subscribe _ source _)
  | setGlobal name v =>
      simp only [World.applyWiring]
      split
      · rename_i s set
        exact .setSession (.single (.setGlobal set))
      · exact .refl w

theorem Adds.wire (w : World) (statements : List Wiring) (data : UnitData) (id : SessionId) :
    Adds w (w.wire statements data id).1 := by
  unfold World.wire
  split
  · exact eachUntilError_keeps (P := Adds w)
      (fun w' wiring _ adds => adds.trans (.applyWiring w' id wiring)) (.refl w)
  · exact .refl w

end World
end RuleEngine
