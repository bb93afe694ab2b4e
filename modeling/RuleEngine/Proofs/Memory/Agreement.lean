import Mathlib.Data.List.Nodup
import RuleEngine.Proofs.Memory.Index

/-!
# Facts and index agree after every run

The main statement: whatever is inserted, updated and retracted, under each key the index lists
exactly the live handles whose object has the key.  So a lookup by object answers the oldest live
handle of its key, and nothing when there is none.
-/

namespace RuleEngine
namespace WorkingMemory

variable {m m' : WorkingMemory} {h g : Handle} {v old : Value} {partition : Nat}
  {key : Identity}

/-- The handle is live, and its object has the key. -/
def Holds (m : WorkingMemory) (h : Handle) (key : Identity) : Prop :=
  ∃ v, m.find? h = some v ∧ (Identity.of v == key) = true

/-- The index lists under each key exactly the live handles whose object has it. -/
structure Indexed (m : WorkingMemory) : Prop where
  ordered : m.Ordered
  wellFormed : m.identities.WellFormed
  exact : ∀ key h, h ∈ m.identities.handles key ↔ m.Holds h key

/-! ## What an operation does to the holders of a key -/

theorem Ordered.holds_insert (hm : m.Ordered) :
    (m.insert v partition).2.Holds g key ↔
      (g = ⟨m.nextId, partition⟩ ∧ (Identity.of v == key) = true) ∨ m.Holds g key := by
  unfold Holds
  simp only [hm.find?_insert]
  by_cases same : g = ⟨m.nextId, partition⟩
  · subst same
    simp [hm.find?_fresh]
  · simp [same]

theorem holds_update (hu : m.update h v = .ok m') :
    m'.Holds g key ↔
      (g = h ∧ (Identity.of v == key) = true) ∨ (g ≠ h ∧ m.Holds g key) := by
  unfold Holds
  simp only [find?_update hu]
  by_cases same : g = h <;> simp [same]

theorem holds_retract (hr : m.retract h = .ok (old, m')) :
    m'.Holds g key ↔ g ≠ h ∧ m.Holds g key := by
  unfold Holds
  simp only [find?_retract hr]
  by_cases same : g = h <;> simp [same]

theorem holds_iff_of_live (live : m.find? h = some v) :
    m.Holds h key ↔ (Identity.of v == key) = true := by
  unfold Holds
  simp [live]

/-! ## Each operation keeps the agreement -/

theorem Indexed.empty : Indexed empty where
  ordered := .empty
  wellFormed := .nil
  exact := by simp [Holds, find?, WorkingMemory.empty, IdentityIndex.handles]

theorem Indexed.insert (hm : m.Indexed) : (m.insert v partition).2.Indexed where
  ordered := hm.ordered.insert
  wellFormed := hm.wellFormed.add
  exact := by
    intro key g
    -- the new handle joins those of its own key; the handles of other keys are the same
    rw [insert_identities, IdentityIndex.handles_add, hm.ordered.holds_insert, ← hm.exact key g]
    by_cases hk : Identity.of v == key
    · rw [if_pos hk, IdentityIndex.mem_addHandle, IdentityIndex.handles_congr hk]
      simp [hk]
    · simp [hk]

/-- What is left under each key when a live handle has given up the key of its object. -/
theorem Indexed.mem_handles_remove (hm : m.Indexed) (live : m.find? h = some old) :
    g ∈ (m.identities.remove (.of old) h).handles key ↔ g ≠ h ∧ m.Holds g key := by
  rw [hm.wellFormed.handles_remove]
  by_cases hk : Identity.of old == key
  · have same : m.Holds g (.of old) ↔ m.Holds g key := by
      unfold Holds
      simp only [BEq.congr_right hk]
    rw [if_pos hk, List.mem_filter, hm.exact, same]
    simp [and_comm]
  · rw [if_neg hk, hm.exact]
    constructor
    · intro holds
      -- the handle itself holds no key but that of its object
      refine ⟨?_, holds⟩
      rintro rfl
      exact hk ((holds_iff_of_live live).1 holds)
    · exact And.right

theorem Indexed.update (hm : m.Indexed) (hu : m.update h v = .ok m') : m'.Indexed := by
  rcases update_eq_ok hu with ⟨old, live, shape⟩
  have identities : m'.identities = (m.identities.remove (.of old) h).add (.of v) h := by
    rw [shape]
  refine ⟨hm.ordered.update hu, identities ▸ hm.wellFormed.remove.add, ?_⟩
  intro key g
  rw [identities, IdentityIndex.handles_add, holds_update hu, ← hm.mem_handles_remove live]
  -- the new key may be the old one, so the handle is removed before it is added
  by_cases hk : Identity.of v == key
  · rw [if_pos hk, IdentityIndex.mem_addHandle, IdentityIndex.handles_congr hk]
    simp [hk]
  · simp [hk]

theorem Indexed.retract (hm : m.Indexed) (hr : m.retract h = .ok (old, m')) : m'.Indexed := by
  rcases retract_eq_ok hr with ⟨live, shape⟩
  have identities : m'.identities = m.identities.remove (.of old) h := by
    rw [shape]
  refine ⟨hm.ordered.retract hr, identities ▸ hm.wellFormed.remove, ?_⟩
  intro key g
  rw [identities, hm.mem_handles_remove live, holds_retract hr]

theorem Indexed.perform (hm : m.Indexed) (operation : Operation) :
    (m.perform operation).Indexed := by
  rcases perform_cases m operation with
    ⟨v, partition, same⟩ | ⟨h, v, m', hu, same⟩ | ⟨h, old, m', hr, same⟩ | same
  · rw [same]
    exact hm.insert
  · rw [same]
    exact hm.update hu
  · rw [same]
    exact hm.retract hr
  · rw [same]
    exact hm

theorem indexed_run (operations : List Operation) : (run operations).Indexed :=
  run_invariant .empty (fun _ operation hm => hm.perform operation) operations

/-! ## Lookups by object -/

/-- A lookup by object answers the smallest live handle that holds the key of the object. -/
theorem Indexed.holder?_eq_some_iff (hm : m.Indexed) :
    m.holder? v = some h ↔
      m.Holds h (.of v) ∧ ∀ g, m.Holds g (.of v) → g = h ∨ h.order g = .lt := by
  have ascending := hm.wellFormed.ascending_handles (.of v)
  calc
    m.holder? v = some h
        ↔ h ∈ m.identities.handles (.of v) ∧
            ∀ g ∈ m.identities.handles (.of v), g = h ∨ h.order g = .lt :=
          IdentityIndex.head?_eq_some_iff ascending
    _ ↔ m.Holds h (.of v) ∧ ∀ g, m.Holds g (.of v) → g = h ∨ h.order g = .lt := by
          simp only [hm.exact]

theorem Indexed.holder?_eq_none_iff (hm : m.Indexed) :
    m.holder? v = none ↔ ∀ h, ¬ m.Holds h (.of v) := by
  calc
    m.holder? v = none
        ↔ m.identities.handles (.of v) = [] := List.head?_eq_none_iff
    _ ↔ ∀ h, h ∉ m.identities.handles (.of v) := List.eq_nil_iff_forall_not_mem
    _ ↔ ∀ h, ¬ m.Holds h (.of v) := by simp only [hm.exact]

theorem Ordered.eq_of_id_eq (hm : m.Ordered) {w : Value} (live : m.find? g = some v)
    (live' : m.find? h = some w) (same : g.id = h.id) : g = h := by
  have distinct : (m.facts.map (·.1.id)).Nodup := by
    rw [List.Nodup, List.pairwise_map]
    exact hm.ascending.imp Nat.ne_of_lt
  have := List.inj_on_of_nodup_map distinct (mem_facts_of_find? live) (mem_facts_of_find? live') same
  exact congrArg Prod.fst this

/-- Of two live handles the smaller one is the older one. -/
theorem Ordered.id_lt_of_order_lt (hm : m.Ordered) {w : Value} (live : m.find? g = some v)
    (live' : m.find? h = some w) (below : g.order h = .lt) : g.id < h.id := by
  rcases (Handle.order_eq_lt_iff g h).1 below with hid | ⟨same, hpartition⟩
  · exact hid
  · have := hm.eq_of_id_eq live live' same
    subst this
    exact absurd hpartition (Nat.lt_irrefl _)

/-- After every run of operations, the keys of the index differ, none is listed without handles,
and each lists exactly the live handles whose object has it.  A lookup by object answers the
smallest of these, which is the oldest, and it answers one whenever there is one. -/
theorem index_exact (operations : List Operation) :
    let m := run operations
    m.identities.WellFormed ∧
      (∀ e ∈ m.identities, ∀ h, h ∈ e.2 ↔ m.Holds h e.1) ∧
      (∀ h key, m.Holds h key → ∃ e ∈ m.identities, (e.1 == key) = true) ∧
      (∀ v, (m.holder? v).isSome ↔ ∃ h, m.Holds h (.of v)) ∧
      ∀ v h, m.holder? v = some h ↔
        m.Holds h (.of v) ∧
          ∀ g, m.Holds g (.of v) → g = h ∨ (h.id < g.id ∧ h.order g = .lt) := by
  intro m
  have hm : m.Indexed := indexed_run operations
  refine ⟨hm.wellFormed, ?_, ?_, ?_, ?_⟩
  · intro e he h
    rw [← hm.exact, hm.wellFormed.handles_of_mem he]
  · intro h key holds
    exact IdentityIndex.exists_of_mem_handles ((hm.exact key h).2 holds)
  · intro v
    rw [← not_iff_not, Bool.not_eq_true, Option.isSome_eq_false_iff, Option.isNone_iff_eq_none,
      hm.holder?_eq_none_iff, not_exists]
  · intro v h
    rw [hm.holder?_eq_some_iff]
    refine and_congr_right fun holds => forall_congr' fun g => imp_congr_right fun holds' => ?_
    refine or_congr_right ⟨fun below => ⟨?_, below⟩, And.right⟩
    rcases holds with ⟨w, live, -⟩
    rcases holds' with ⟨w', live', -⟩
    exact hm.ordered.id_lt_of_order_lt live live' below

end WorkingMemory
end RuleEngine
