import RuleEngine.WorkingMemory

/-!
# What a memory holds after an operation

Each operation on a working memory is given by what it does to the object behind a handle.  A run is
a list of operations; an operation that fails leaves the memory as it was.

The live facts stand in the order of their handles, and the next handle is above all of them.  Both
are kept by every operation, so a handle that is given out is never live before.
-/

namespace RuleEngine
namespace WorkingMemory

variable {m m' : WorkingMemory} {h g : Handle} {v old : Value} {partition : Nat}

/-! ## Operations and runs -/

/-- A request to a working memory. -/
inductive Operation where
  | insert (v : Value) (partition : Nat)
  | update (h : Handle) (v : Value)
  | retract (h : Handle)

/-- The memory after an operation; one that fails changes nothing. -/
def perform (m : WorkingMemory) : Operation → WorkingMemory
  | .insert v partition => (m.insert v partition).2
  | .update h v =>
    match m.update h v with
    | .ok m' => m'
    | .error _ => m
  | .retract h =>
    match m.retract h with
    | .ok (_, m') => m'
    | .error _ => m

/-- The memory after a list of operations, from the empty one. -/
def run (operations : List Operation) : WorkingMemory :=
  operations.foldl perform empty

/-- What holds at first and is kept by each operation holds after every run. -/
theorem run_invariant {P : WorkingMemory → Prop} (start : P empty)
    (step : ∀ m operation, P m → P (m.perform operation)) (operations : List Operation) :
    P (run operations) :=
  List.foldlRecOn operations perform start fun m hm operation _ => step m operation hm

/-! ## Operations that succeed -/

@[simp] theorem insert_handle : (m.insert v partition).1 = ⟨m.nextId, partition⟩ := rfl

@[simp] theorem insert_nextId : (m.insert v partition).2.nextId = m.nextId + 1 := rfl

@[simp] theorem insert_facts :
    (m.insert v partition).2.facts = m.facts ++ [(⟨m.nextId, partition⟩, v)] := rfl

@[simp] theorem insert_identities :
    (m.insert v partition).2.identities = m.identities.add (.of v) ⟨m.nextId, partition⟩ := rfl

theorem update_eq_ok (hu : m.update h v = .ok m') :
    ∃ old, m.find? h = some old ∧
      m' =
        { m with
          facts := m.facts.map fun e => if e.1 = h then (h, v) else e
          identities := (m.identities.remove (.of old) h).add (.of v) h } := by
  unfold update at hu
  cases found : m.find? h with
  | none => simp [found] at hu
  | some old =>
      simp only [found, Except.ok.injEq] at hu
      exact ⟨old, rfl, hu.symm⟩

theorem retract_eq_ok (hr : m.retract h = .ok (old, m')) :
    m.find? h = some old ∧
      m' =
        { m with
          facts := m.facts.filter (·.1 ≠ h)
          identities := m.identities.remove (.of old) h } := by
  unfold retract at hr
  cases found : m.find? h with
  | none => simp [found] at hr
  | some v =>
      simp only [found, Except.ok.injEq, Prod.mk.injEq] at hr
      rcases hr with ⟨rfl, rfl⟩
      exact ⟨rfl, rfl⟩

theorem update_eq_error_iff {e : Error} :
    m.update h v = .error e ↔ m.contains h = false ∧ e = Cause.factNotFound h := by
  unfold update contains
  cases m.find? h with
  | none => simp [eq_comm]
  | some old => simp

theorem retract_eq_error_iff {e : Error} :
    m.retract h = .error e ↔ m.contains h = false ∧ e = Cause.factNotFound h := by
  unfold retract contains
  cases m.find? h with
  | none => simp [eq_comm]
  | some old => simp

/-- An operation is an insertion, an update or a retraction of a live handle, or changes nothing. -/
theorem perform_cases (m : WorkingMemory) (operation : Operation) :
    (∃ v partition, m.perform operation = (m.insert v partition).2) ∨
      (∃ h v m', m.update h v = .ok m' ∧ m.perform operation = m') ∨
      (∃ h old m', m.retract h = .ok (old, m') ∧ m.perform operation = m') ∨
      m.perform operation = m := by
  cases operation with
  | insert v partition => exact Or.inl ⟨v, partition, rfl⟩
  | update h v =>
      cases hu : m.update h v with
      | ok m' => exact Or.inr (Or.inl ⟨h, v, m', hu, by simp [perform, hu]⟩)
      | error e => exact Or.inr (Or.inr (Or.inr (by simp [perform, hu])))
  | retract h =>
      cases hr : m.retract h with
      | ok r => exact Or.inr (Or.inr (Or.inl ⟨h, r.1, r.2, hr, by simp [perform, hr]⟩))
      | error e => exact Or.inr (Or.inr (Or.inr (by simp [perform, hr])))

/-! ## The order of the live facts -/

/-- The live handles ascend by number, below the number of the next handle. -/
structure Ordered (m : WorkingMemory) : Prop where
  ascending : m.facts.Pairwise fun a b => a.1.id < b.1.id
  fresh : ∀ e ∈ m.facts, e.1.id < m.nextId

theorem Ordered.empty : Ordered empty where
  ascending := .nil
  fresh := by simp [WorkingMemory.empty]

theorem Ordered.insert (hm : m.Ordered) : (m.insert v partition).2.Ordered where
  ascending := by
    refine List.pairwise_append.2 ⟨hm.ascending, List.pairwise_singleton _ _, ?_⟩
    intro e he new hnew
    rw [List.mem_singleton.1 hnew]
    exact hm.fresh e he
  fresh := by
    intro e he
    rcases List.mem_append.1 he with he | he
    · exact Nat.lt_succ_of_lt (hm.fresh e he)
    · rw [List.mem_singleton.1 he]
      exact Nat.lt_succ_self _

/-- An update leaves every handle in its place. -/
theorem replaced_handle (h : Handle) (v : Value) (e : Handle × Value) :
    (if e.1 = h then (h, v) else e).1 = e.1 := by
  split
  · rename_i same
    exact same.symm
  · rfl

theorem Ordered.update (hm : m.Ordered) (hu : m.update h v = .ok m') : m'.Ordered := by
  rcases update_eq_ok hu with ⟨old, -, rfl⟩
  constructor
  · rw [List.pairwise_map]
    simpa only [replaced_handle] using hm.ascending
  · intro e he
    rcases List.mem_map.1 he with ⟨e', he', rfl⟩
    rw [replaced_handle]
    exact hm.fresh e' he'

theorem Ordered.retract (hm : m.Ordered) (hr : m.retract h = .ok (old, m')) : m'.Ordered := by
  rcases retract_eq_ok hr with ⟨-, rfl⟩
  exact ⟨hm.ascending.filter _, fun e he => hm.fresh e (List.mem_filter.1 he).1⟩

/-! ## Lookups after an operation -/

theorem mem_facts_of_find? (found : m.find? h = some v) : (h, v) ∈ m.facts := by
  rcases Option.map_eq_some_iff.1 found with ⟨e, he, rfl⟩
  have same : e.1 = h := by simpa using List.find?_some he
  exact same ▸ List.mem_of_find?_eq_some he

theorem Ordered.find?_fresh (hm : m.Ordered) : m.find? ⟨m.nextId, partition⟩ = none := by
  cases found : m.find? ⟨m.nextId, partition⟩ with
  | none => rfl
  | some v => exact absurd (hm.fresh _ (mem_facts_of_find? found)) (Nat.lt_irrefl _)

theorem Ordered.find?_insert (hm : m.Ordered) (g : Handle) :
    (m.insert v partition).2.find? g =
      if g = ⟨m.nextId, partition⟩ then some v else m.find? g := by
  -- the new fact stands last, so an older fact of the same handle would hide it
  have split : (m.insert v partition).2.find? g =
      (m.find? g).or (if (⟨m.nextId, partition⟩ : Handle) = g then some v else none) := by
    rw [find?, insert_facts, List.find?_append, Option.map_or]
    by_cases same : (⟨m.nextId, partition⟩ : Handle) = g <;> simp [find?, same]
  rw [split]
  by_cases same : g = ⟨m.nextId, partition⟩
  · simp [same, hm.find?_fresh]
  · simp [same, Ne.symm same]

theorem find?_update (hu : m.update h v = .ok m') (g : Handle) :
    m'.find? g = if g = h then some v else m.find? g := by
  rcases update_eq_ok hu with ⟨old, live, rfl⟩
  -- the search finds the same place as before; only what stands there may be new
  simp only [find?, List.find?_map, Function.comp_def, replaced_handle, Option.map_map]
  by_cases same : g = h
  · subst same
    rcases Option.map_eq_some_iff.1 live with ⟨e, he, -⟩
    have : e.1 = g := by simpa using List.find?_some he
    simp [he, this]
  · rw [if_neg same]
    refine Option.map_congr fun e he => ?_
    have : e.1 = g := by simpa using List.find?_some he
    simp [this, same]

theorem find?_retract (hr : m.retract h = .ok (old, m')) (g : Handle) :
    m'.find? g = if g = h then none else m.find? g := by
  rcases retract_eq_ok hr with ⟨-, rfl⟩
  simp only [find?, List.find?_filter]
  by_cases same : g = h
  · simp [same, List.find?_eq_none]
  · rw [if_neg same]
    congr 2
    funext e
    by_cases here : e.1 = g <;> simp [here, same]

end WorkingMemory
end RuleEngine
