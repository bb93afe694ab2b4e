import RuleEngine.Proofs.Session.Batch
import RuleEngine.Proofs.World.Delivery
import RuleEngine.Rule.Fire

/-!
# The three ends of a firing

A firing ends before the evaluation when the memory is out of order, with the evaluation when that
fails, and with the batch of requested effects otherwise.
-/

namespace RuleEngine

/-- What an evaluation sees when it starts: the session as it is then. -/
def World.firing (w : World) (chain : Chain) (id : SessionId) : Firing :=
  ⟨chain, (w.session id).memory, (w.session id).globals⟩

namespace Executable

variable {x : Executable} {chain : Chain} {id : SessionId} {w : World} {s : Progress}

theorem fire_of_broken (x : Executable) (chain : Chain) (broken : (w.session id).broken = true) :
    x.fire chain id w = ⟨.error Session.brokenError, w, []⟩ := by
  simp only [fire, Session.readMemory, broken, if_true]

theorem fire_of_error (intact : (w.session id).broken = false) {e : Error}
    (evaluated : x.evaluate (w.firing chain id) (.start w) = (.error e, s)) :
    x.fire chain id w = ⟨.error e, s.world, s.notes⟩ := by
  unfold World.firing at evaluated
  simp only [fire, Session.readMemory_of_intact intact, evaluated]

theorem fire_of_ok (intact : (w.session id).broken = false)
    (evaluated : x.evaluate (w.firing chain id) (.start w) = (.ok (), s)) :
    x.fire chain id w =
      match (s.world.session id).applyBatch s.effects with
      | (.ok inserted, after) =>
        ⟨.ok ⟨x.name, s.effects, inserted⟩, s.world.setSession id after, s.notes⟩
      | (.error e, after) =>
        ⟨.error (e.inContext { artifact := some x.name }), s.world.setSession id after, s.notes⟩ := by
  unfold World.firing at evaluated
  simp only [fire, Session.readMemory_of_intact intact, evaluated]
  rcases (s.world.session id).applyBatch s.effects with ⟨_ | _, _⟩ <;> rfl

/-! ## The world after the evaluation -/

section Evaluated

variable {firing : Firing} {result : Except Error Unit}

theorem fed_of_evaluate (evaluated : x.evaluate firing (.start w) = (result, s)) :
    World.Fed w s.world := by
  have fed : World.Fed w (x.evaluate firing (.start w)).2.world :=
    World.fed_run firing (x.program firing) (.start w)
  rw [evaluated] at fed
  exact fed

theorem knows_of_evaluate (evaluated : x.evaluate firing (.start w) = (result, s))
    (known : w.Knows id) : s.world.Knows id :=
  Nat.lt_of_lt_of_eq known (fed_of_evaluate evaluated).length_eq.symm

/-- An evaluation changes a session only by what streams that feed it hand to it. -/
theorem session_of_evaluate (evaluated : x.evaluate firing (.start w) = (result, s))
    (id : SessionId) :
    ∃ published, s.world.session id = (w.session id).fed published ∧
      ∀ e ∈ published, w.Feeds id e.2 := by
  rcases (fed_of_evaluate evaluated).objects id with ⟨published, same, -, bound⟩
  exact ⟨published, same, bound⟩

theorem intact_of_evaluate (evaluated : x.evaluate firing (.start w) = (result, s))
    (intact : (w.session id).broken = false) : (s.world.session id).broken = false := by
  rcases session_of_evaluate evaluated id with ⟨published, same, -⟩
  rw [same, Session.fed_broken]
  exact intact

end Evaluated

end Executable
end RuleEngine
