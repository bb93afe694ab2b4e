import Mathlib.Data.List.Induction
import RuleEngine.Proofs.Session.Globals

/-!
# Types and values of a store

A store of globals keeps its types and its values apart.  Setting a global looks at the type of its
name and leaves the types alone; declaring a type looks at no value and leaves the values alone.

So a value fits the type that stood under its name when it was stored.  Of the type that stands there
later this is not certain: it may have been declared over the value.  That is the only way in which a
store comes to hold a value that does not fit.
-/

namespace RuleEngine
namespace Globals

/-! ## Operations and runs -/

/-- A request to a store. -/
inductive Operation where
  | declare (name : String) (type : Ty)
  | set (name : String) (v : Value)

/-- The store after an operation; one that fails changes nothing. -/
def perform (g : Globals) : Operation → Globals
  | .declare name type => g.declare name type
  | .set name v =>
    match g.set name v with
    | .ok g' => g'
    | .error _ => g

/-- The store after a list of operations, from one with declared types and no values. -/
def run (types : GlobalTypes) (operations : List Operation) : Globals :=
  operations.foldl perform (ofTypes types)

variable {g g' : Globals} {types : GlobalTypes} {operations before after : List Operation}
  {operation : Operation} {name other : String} {v : Value} {type : Ty} {e : Error}

theorem run_concat (types : GlobalTypes) (operations : List Operation) (operation : Operation) :
    run types (operations ++ [operation]) = (run types operations).perform operation :=
  List.foldl_append

/-! ## Single operations -/

theorem set_eq_ok_iff :
    g.set name v = .ok g' ↔
      g.check name v = .ok () ∧ g' = { g with values := g.values.insert name v } := by
  unfold set
  cases g.check name v with
  | ok => simp [eq_comm]
  | error => simp

theorem set_eq_error_iff :
    g.set name v = .error e ↔
      ∃ type, g.types.find? name = some type ∧ v.fits type = false ∧
        e = (Cause.typeMismatch type v.type : Error) := by
  unfold set check
  cases g.types.find? name with
  | none => simp
  | some type =>
      cases fits : v.fits type with
      | true => simp [fits]
      | false => simp [fits, eq_comm (a := e)]

/-- A set that succeeds stores the value under its name and leaves everything else as it is. -/
theorem find?_of_set (set : g.set name v = .ok g') :
    g'.types = g.types ∧
      ∀ other, g'.find? other = if other = name then some v else g.find? other := by
  obtain ⟨-, rfl⟩ := set_eq_ok_iff.1 set
  exact ⟨rfl, fun other => Table.find?_insert _ _ _ other⟩

theorem perform_of_error (refused : g.set name v = .error e) : g.perform (.set name v) = g := by
  simp only [perform, refused]

/-- An operation declares a type, stores a value that passes the check, or changes nothing. -/
theorem perform_cases (g : Globals) (operation : Operation) :
    (∃ name type, operation = .declare name type ∧ g.perform operation = g.declare name type) ∨
      (∃ name v g', operation = .set name v ∧ g.set name v = .ok g' ∧ g.perform operation = g') ∨
      ∃ name v e, operation = .set name v ∧ g.set name v = .error e ∧ g.perform operation = g := by
  cases operation with
  | declare name type => exact Or.inl ⟨name, type, rfl, rfl⟩
  | set name v =>
      cases outcome : g.set name v with
      | ok g' => exact Or.inr (Or.inl ⟨name, v, g', rfl, outcome, by simp only [perform, outcome]⟩)
      | error e => exact Or.inr (Or.inr ⟨name, v, e, rfl, outcome, perform_of_error outcome⟩)

/-! ## Where values and types come from -/

/-- At some time in a run the value was stored under the name, and fitted the type declared then. -/
def Stored (types : GlobalTypes) (operations : List Operation) (name : String) (v : Value) : Prop :=
  ∃ before after g, operations = before ++ .set name v :: after ∧
    (run types before).set name v = .ok g ∧
      ∀ type, (run types before).types.find? name = some type → v.fits type = true

/-- The last declaration of a name was made while the store held the value under that name. -/
def DeclaredOver (types : GlobalTypes) (operations : List Operation) (name : String) (v : Value)
    (type : Ty) : Prop :=
  ∃ before after, operations = before ++ .declare name type :: after ∧
    (∀ later, .declare name later ∉ after) ∧ (run types before).find? name = some v

theorem Stored.concat (stored : Stored types operations name v) (operation : Operation) :
    Stored types (operations ++ [operation]) name v := by
  obtain ⟨before, after, g, rfl, set, fits⟩ := stored
  exact ⟨before, after ++ [operation], g, by simp, set, fits⟩

theorem DeclaredOver.concat (older : DeclaredOver types operations name v type)
    (elsewhere : ∀ later, operation ≠ .declare name later) :
    DeclaredOver types (operations ++ [operation]) name v type := by
  obtain ⟨before, after, rfl, last, held⟩ := older
  refine ⟨before, after ++ [operation], by simp, fun later listed => ?_, held⟩
  rcases List.mem_append.1 listed with earlier | here
  · exact last later earlier
  · exact elsewhere later (List.mem_singleton.1 here).symm

/-- What a run leaves under a name was stored there in the run. -/
theorem stored_of_find? (held : (run types operations).find? name = some v) :
    Stored types operations name v := by
  induction operations using List.reverseRecOn with
  | nil => cases held
  | append_singleton operations operation ih =>
      rw [run_concat] at held
      rcases perform_cases (run types operations) operation with
        ⟨n, t, rfl, performed⟩ | ⟨n, w, g, rfl, set, performed⟩ | ⟨n, w, e, rfl, -, performed⟩
      · rw [performed] at held
        exact (ih held).concat _
      · rw [performed, (find?_of_set set).2] at held
        split at held
        -- the operation stored the value itself
        · rename_i here
          subst here
          obtain rfl := Option.some.inj held
          exact ⟨operations, [], g, rfl, set, check_eq_ok_iff.1 (set_eq_ok_iff.1 set).1⟩
        · exact (ih held).concat _
      · rw [performed] at held
        exact (ih held).concat _

/-- What a run leaves under a name fits the type that it leaves there, unless the type was declared
over the value. -/
theorem fits_or_declaredOver (held : (run types operations).find? name = some v)
    (declared : (run types operations).types.find? name = some type) :
    v.fits type = true ∨ DeclaredOver types operations name v type := by
  induction operations using List.reverseRecOn with
  | nil => cases held
  | append_singleton operations operation ih =>
      rw [run_concat] at held declared
      rcases perform_cases (run types operations) operation with
        ⟨n, t, rfl, performed⟩ | ⟨n, w, g, rfl, set, performed⟩ | ⟨n, w, e, rfl, -, performed⟩
      · rw [performed] at held declared
        rw [declare, Table.find?_insert] at declared
        split at declared
        -- the declaration is the last one of the name, and the value was there already
        · rename_i here
          subst here
          obtain rfl := Option.some.inj declared
          exact Or.inr ⟨operations, [], rfl, fun _ => List.not_mem_nil, held⟩
        · rename_i elsewhere
          refine (ih held declared).imp_right fun older => older.concat fun later same => ?_
          exact elsewhere (Operation.declare.inj same).1.symm
      · have ⟨sameTypes, values⟩ := find?_of_set set
        rw [performed, values] at held
        rw [performed, sameTypes] at declared
        split at held
        -- the operation stored the value, so it was checked against this type
        · rename_i here
          subst here
          obtain rfl := Option.some.inj held
          exact Or.inl (check_eq_ok_iff.1 (set_eq_ok_iff.1 set).1 type declared)
        · exact (ih held declared).imp_right fun older => older.concat fun _ => nofun
      · rw [performed] at held declared
        exact (ih held declared).imp_right fun older => older.concat fun _ => nofun

/-- A set that is refused might as well not have been asked for. -/
theorem run_of_refused (refused : (run types before).set name v = .error e) :
    run types (before ++ .set name v :: after) = run types (before ++ after) := by
  have unchanged : (run types before).perform (.set name v) = run types before :=
    perform_of_error refused
  calc
    run types (before ++ .set name v :: after)
        = after.foldl perform ((run types before).perform (.set name v)) :=
          List.foldl_append
    _ = after.foldl perform (run types before) := by rw [unchanged]
    _ = run types (before ++ after) := List.foldl_append.symm

/-! ## What a store holds -/

/-- Whatever is declared and set in a store, and in whatever order,

* every value it holds was stored by a set that succeeded, and fitted the type declared then;
* it fits the type declared now, unless that type was declared over it;
* a set is refused exactly when its value does not fit the declared type, and then the store goes on
  as if it had not been asked; otherwise the value is held from then on and nothing else changes. -/
theorem stored_values_fit_unless_declared_over (types : GlobalTypes)
    (operations : List Operation) :
    (∀ name v, (run types operations).find? name = some v →
      Stored types operations name v ∧
      ∀ type, (run types operations).types.find? name = some type →
        v.fits type = true ∨ DeclaredOver types operations name v type) ∧
    (∀ name v e, (run types operations).set name v = .error e ↔
      ∃ type, (run types operations).types.find? name = some type ∧ v.fits type = false ∧
        e = (Cause.typeMismatch type v.type : Error)) ∧
    (∀ name v e, (run types operations).set name v = .error e →
      ∀ later, run types (operations ++ .set name v :: later) = run types (operations ++ later)) ∧
    ∀ name v g, (run types operations).set name v = .ok g →
      run types (operations ++ [.set name v]) = g ∧ g.types = (run types operations).types ∧
        ∀ other, g.find? other =
          if other = name then some v else (run types operations).find? other := by
  refine ⟨fun name v held => ⟨stored_of_find? held, fun type => fits_or_declaredOver held⟩,
    fun _ _ _ => set_eq_error_iff, fun _ _ _ refused _ => run_of_refused refused, ?_⟩
  intro name v g set
  have reached : run types (operations ++ [.set name v]) = g := by
    rw [run_concat]
    simp only [perform, set]
  exact ⟨reached, find?_of_set set⟩

/-- A limit that is declared, set, and then asked to be a text. -/
def limitKept : List Operation :=
  [.declare "limit" .int, .set "limit" (.int 18), .set "limit" (.string "eighteen")]

theorem limit_keeps_its_value :
    (run .empty limitKept).find? "limit" = some (.int 18) ∧
      Stored .empty limitKept "limit" (.int 18) ∧
      ((Value.int 18).fits .int = true ∨ DeclaredOver .empty limitKept "limit" (.int 18) .int) ∧
      run .empty (limitKept ++ [.set "limit" .nil, .set "other" .nil]) =
        run .empty (limitKept ++ [.set "other" .nil]) := by
  have ⟨holds, _, refusals, _⟩ := stored_values_fit_unless_declared_over .empty limitKept
  have held : (run .empty limitKept).find? "limit" = some (.int 18) := rfl
  have ⟨stored, fits⟩ := holds "limit" (.int 18) held
  exact ⟨held, stored, fits .int rfl, refusals "limit" .nil _ rfl [.set "other" .nil]⟩

/-- A limit that is set as a text, and of which it is then declared that it is a number. -/
def limitRetyped : List Operation :=
  [.set "limit" (.string "eighteen"), .declare "limit" .int]

/-- A store can hold a value that does not fit the type declared under its name. -/
theorem retyped_limit_misfits :
    ¬ ∀ (types : GlobalTypes) (operations : List Operation) (name : String) (v : Value) (type : Ty),
      (run types operations).find? name = some v →
        (run types operations).types.find? name = some type → v.fits type = true := by
  intro fit
  cases fit .empty limitRetyped "limit" (.string "eighteen") .int rfl rfl

end Globals
end RuleEngine
