import Mathlib.Data.List.Basic
import RuleEngine.Proofs.Memory.Ageing

/-!
# A memory beside the record of its insertions

Someone who writes down each insertion, with the handle and the object, knows what the memory holds:
the recorded handles that are still live, in the order of the record.  The objects of a partition are
those of its recorded handles, as they are now.  An object that was never updated or retracted is the
one that was recorded.
-/

namespace RuleEngine
namespace WorkingMemory

variable {m m' : WorkingMemory} {entries : List (Handle × Value)} {changed changed' : Handle → Prop}
  {h : Handle} {v old : Value} {partition : Nat}

/-- The memory holds what the insertions in `entries` have left, when no recorded object but those of
the handles in `changed` was updated or retracted. -/
structure Records (entries : List (Handle × Value)) (changed : Handle → Prop) (m : WorkingMemory) :
    Prop where
  ascending : entries.Pairwise fun a b => a.1.id < b.1.id
  given : ∀ e ∈ entries, e.1.id < m.nextId
  facts_eq : m.facts = entries.filterMap fun e => (m.find? e.1).map (e.1, ·)
  unchanged : ∀ e ∈ entries, ¬ changed e.1 → m.find? e.1 = some e.2

theorem Records.empty (changed : Handle → Prop) : Records [] changed empty where
  ascending := .nil
  given := nofun
  facts_eq := rfl
  unchanged := nofun

theorem Records.mono (hm : m.Records entries changed) (wider : ∀ h, changed h → changed' h) :
    m.Records entries changed' where
  ascending := hm.ascending
  given := hm.given
  facts_eq := hm.facts_eq
  unchanged e there apart := hm.unchanged e there fun was => apart (wider _ was)

/-- Every live handle is recorded, so the live facts stand in the order of the record. -/
theorem Records.ordered (hm : m.Records entries changed) : m.Ordered := by
  -- a fact has the handle of the entry that it comes from
  have recorded : ∀ e : Handle × Value, ∀ fact, (m.find? e.1).map (e.1, ·) = some fact →
      fact.1 = e.1 := by
    intro e fact from_e
    rcases Option.map_eq_some_iff.1 from_e with ⟨v, -, rfl⟩
    rfl
  constructor
  · rw [hm.facts_eq]
    refine List.Pairwise.filterMap _ ?_ hm.ascending
    intro a b below fact from_a fact' from_b
    rw [recorded a fact from_a, recorded b fact' from_b]
    exact below
  · intro fact live
    rw [hm.facts_eq] at live
    rcases List.mem_filterMap.1 live with ⟨e, there, from_e⟩
    rw [recorded e fact from_e]
    exact hm.given e there

theorem Records.insert (hm : m.Records entries changed) (v : Value) (partition : Nat) :
    (m.insert v partition).2.Records (entries ++ [(⟨m.nextId, partition⟩, v)]) changed := by
  have older : ∀ e ∈ entries, (m.insert v partition).2.find? e.1 = m.find? e.1 :=
    fun e there => find?_insert_of_lt (hm.given e there)
  have newest : (m.insert v partition).2.find? ⟨m.nextId, partition⟩ = some v := by
    rw [hm.ordered.find?_insert, if_pos rfl]
  constructor
  case ascending =>
    refine List.pairwise_append.2 ⟨hm.ascending, List.pairwise_singleton _ _, ?_⟩
    intro e there new here
    rw [List.mem_singleton.1 here]
    exact hm.given e there
  case given =>
    intro e there
    rcases List.mem_append.1 there with old | new
    · exact Nat.lt_succ_of_lt (hm.given e old)
    · rw [List.mem_singleton.1 new]
      exact Nat.lt_succ_self _
  case facts_eq =>
    rw [insert_facts, hm.facts_eq, List.filterMap_append]
    congr 1
    · -- the new handle is none of those that were recorded
      refine List.filterMap_congr fun e there => ?_
      rw [older e there]
    · simp [newest]
  case unchanged =>
    intro e there apart
    rcases List.mem_append.1 there with old | new
    · exact (older e old).trans (hm.unchanged e old apart)
    · rw [List.mem_singleton.1 new]
      exact newest

theorem Records.update (hm : m.Records entries changed) (hu : m.update h v = .ok m') :
    m'.Records entries fun g => changed g ∨ g = h where
  ascending := hm.ascending
  given e there := Nat.lt_of_lt_of_le (hm.given e there) (Ages.update hu).nextId_le
  facts_eq := by
    rcases update_eq_ok hu with ⟨old, live, same⟩
    -- the fact is changed in its place
    have facts : m'.facts = m.facts.map fun e => if e.1 = h then (h, v) else e := by rw [same]
    rw [facts, hm.facts_eq, List.map_filterMap]
    refine List.filterMap_congr fun e _ => ?_
    rw [find?_update hu, Option.map_map]
    by_cases here : e.1 = h
    · simp [here, live]
    · simp [here, Function.comp_def]
  unchanged e there apart := by
    rw [find?_update hu, if_neg fun here => apart (Or.inr here)]
    exact hm.unchanged e there fun was => apart (Or.inl was)

theorem Records.retract (hm : m.Records entries changed) (hr : m.retract h = .ok (old, m')) :
    m'.Records entries fun g => changed g ∨ g = h where
  ascending := hm.ascending
  given e there := Nat.lt_of_lt_of_le (hm.given e there) (Ages.retract hr).nextId_le
  facts_eq := by
    rcases retract_eq_ok hr with ⟨-, same⟩
    have facts : m'.facts = m.facts.filter (·.1 ≠ h) := by rw [same]
    rw [facts, hm.facts_eq, List.filter_filterMap]
    refine List.filterMap_congr fun e _ => ?_
    rw [find?_retract hr]
    cases m.find? e.1 with
    | none => by_cases here : e.1 = h <;> simp [here]
    | some v => by_cases here : e.1 = h <;> simp [here, Option.filter]
  unchanged e there apart := by
    rw [find?_retract hr, if_neg fun here => apart (Or.inr here)]
    exact hm.unchanged e there fun was => apart (Or.inl was)

/-- An operation on a handle changes what is recorded only when the handle is live. -/
theorem Records.perform (hm : m.Records entries changed) {operation : Operation}
    (target : operation.target? = some h) :
    (m.perform operation).Records entries fun g => changed g ∨ (g = h ∧ m.contains h = true) := by
  cases operation with
  | insert v partition => cases target
  | update g v =>
      cases target
      cases hu : m.update h v with
      | error e =>
          simp only [WorkingMemory.perform, hu]
          exact hm.mono fun _ => Or.inl
      | ok m' =>
          simp only [WorkingMemory.perform, hu]
          rcases update_eq_ok hu with ⟨old, live, -⟩
          have contained : m.contains h = true := by rw [contains, live]; rfl
          exact (hm.update hu).mono fun g => Or.imp_right fun same => ⟨same, contained⟩
  | retract g =>
      cases target
      cases hr : m.retract h with
      | error e =>
          simp only [WorkingMemory.perform, hr]
          exact hm.mono fun _ => Or.inl
      | ok r =>
          simp only [WorkingMemory.perform, hr]
          have live := (retract_eq_ok hr).1
          have contained : m.contains h = true := by rw [contains, live]; rfl
          exact (hm.retract hr).mono fun g => Or.imp_right fun same => ⟨same, contained⟩

/-! ## Partitions -/

/-- The objects of a partition are those of its recorded handles, as they are now. -/
theorem Records.inPartition_eq (hm : m.Records entries changed) (partition : Nat) :
    (m.inPartition partition).map (·.2) =
      (entries.filter (·.1.partition = partition)).filterMap fun e => m.find? e.1 := by
  unfold inPartition
  rw [hm.facts_eq, List.filter_filterMap, List.map_filterMap, List.filterMap_filter]
  refine List.filterMap_congr fun e _ => ?_
  cases m.find? e.1 with
  | none => simp
  | some v => by_cases here : e.1.partition = partition <;> simp [here, Option.filter]

end WorkingMemory
end RuleEngine
