import RuleEngine.Rule.Deferred

/-!
# Firing

A consequence is fired for one chain against a session.  It is evaluated on working memory as it
stood before, and the effects that it requested are then applied as one batch to working memory as
it stands by then.
-/

namespace RuleEngine

/-- What a firing did: the name of the consequence that was fired, the effects in order of request,
and the handles of the insertions. -/
structure FiringSummary where
  fired : String
  effects : List Effect
  inserted : List Handle

/-- What a firing leaves behind, whether it succeeded or not. -/
structure FiringOutcome where
  result : Except Error FiringSummary
  world : World
  notes : List Document

/-- The same, with the consequence as it is afterwards. -/
structure FireableOutcome extends FiringOutcome where
  fired : Fireable

namespace Executable

/-- Fires an executable for a chain against a session. -/
def fire (x : Executable) (chain : Chain) (id : SessionId) (w : World) : FiringOutcome :=
  let session := w.session id
  match session.readMemory with
  | .error e => ⟨.error e, w, []⟩
  | .ok memory =>
    match x.evaluate ⟨chain, memory, session.globals⟩ (.start w) with
    | (.error e, s) => ⟨.error e, s.world, s.notes⟩
    | (.ok (), s) =>
      -- the action may have published into this session, so the session is looked up again
      let (applied, session) := (s.world.session id).applyBatch s.effects
      let world := s.world.setSession id session
      let result :=
        match applied with
        | .ok inserted => .ok ⟨x.name, s.effects, inserted⟩
        | .error e => .error (e.inContext { artifact := some x.name })
      ⟨result, world, s.notes⟩

end Executable

namespace Fireable

/-- Fires a consequence for a chain against a session.  It stays unbuilt when the memory of the
session is out of order, as it is not evaluated then. -/
def fire (u : Fireable) (chain : Chain) (id : SessionId) (w : World) : FireableOutcome where
  toFiringOutcome := u.executable.fire chain id w
  fired :=
    match (w.session id).readMemory with
    | .error _ => u
    | .ok _ => u.force.2

end Fireable
end RuleEngine
