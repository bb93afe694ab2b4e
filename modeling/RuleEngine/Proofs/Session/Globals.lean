import RuleEngine.Proofs.Session.Steps

/-!
# Globals that stay set

A global that was set has a value from then on.  No step of a session takes the value away; another
value takes its place only after the check that the first one passed; and the declared types, which
the check goes by, never change.
-/

namespace RuleEngine

/-! ## Values of globals -/

namespace Globals

variable {g : Globals} {name other : String} {v : Value}

theorem check_eq_ok_iff :
    g.check name v = .ok () ↔ ∀ type, g.types.find? name = some type → v.fits type = true := by
  unfold check
  cases g.types.find? name with
  | none => simp
  | some type => by_cases fits : v.fits type = true <;> simp [fits]

theorem require_of_find? (found : g.find? name = some v) : g.require name = .ok v := by
  simp only [require, found]

/-- A global has a value, which is of its declared type, if a type is declared. -/
def Offers (g : Globals) (name : String) : Prop :=
  ∃ v, g.find? name = some v ∧ ∀ type, g.types.find? name = some type → v.fits type = true

/-- A value that passes the check makes its global have one, and takes none from the others. -/
theorem offers_insert (checked : g.check name v = .ok ())
    (offers : other = name ∨ g.Offers other) :
    Offers { g with values := g.values.insert name v } other := by
  by_cases same : other = name
  -- the new value counts, whether or not there was one before
  · subst same
    refine ⟨v, ?_, check_eq_ok_iff.1 checked⟩
    exact (Table.find?_insert _ _ _ _).trans (if_pos rfl)
  · rcases offers.resolve_left same with ⟨earlier, found, fits⟩
    refine ⟨earlier, ?_, fits⟩
    exact (Table.find?_insert _ _ _ _).trans ((if_neg same).trans found)

end Globals

/-! ## Steps -/

namespace Session

variable {s s' : Session} {name : String} {v : Value}

/-- A step leaves the globals as they are, or stores a value that passes the check. -/
theorem Step.globals (step : Step s s') :
    s'.globals = s.globals ∨
      ∃ name v, s.globals.check name v = .ok () ∧
        s'.globals = { s.globals with values := s.globals.values.insert name v } := by
  cases step with
  | declare name => exact Or.inl declare_globals
  | operate operation intact => exact Or.inl rfl
  | replace operations intact => exact Or.inl rfl
  | damage => exact Or.inl rfl
  | setGlobal set =>
      have ⟨checked, same⟩ := setGlobal_eq_ok set
      exact Or.inr ⟨_, _, checked, congrArg Session.globals same⟩

theorem Step.types_eq (step : Step s s') : s'.globals.types = s.globals.types := by
  rcases step.globals with same | ⟨name, v, -, same⟩
  · rw [same]
  · rw [same]

theorem Step.offers (step : Step s s') (offers : s.globals.Offers name) :
    s'.globals.Offers name := by
  rcases step.globals with same | ⟨other, v, checked, same⟩
  · rw [same]
    exact offers
  · rw [same]
    exact Globals.offers_insert checked (Or.inr offers)

theorem Steps.types_eq (steps : Steps s s') : s'.globals.types = s.globals.types := by
  induction steps with
  | refl => rfl
  | tail _ last ih => exact last.types_eq.trans ih

theorem Steps.offers (steps : Steps s s') (offers : s.globals.Offers name) :
    s'.globals.Offers name := by
  induction steps with
  | refl => exact offers
  | tail _ last ih => exact last.offers ih

theorem offers_of_setGlobal (set : s.setGlobal name v = .ok s') : s'.globals.Offers name := by
  have ⟨checked, same⟩ := setGlobal_eq_ok set
  rw [same]
  exact Globals.offers_insert checked (Or.inl rfl)

end Session
end RuleEngine
