import RuleEngine.Proofs.Memory.Lookup
import RuleEngine.Proofs.Value.Equivalence

/-!
# The index of a memory agrees with its facts

A working memory answers from its index which handle holds an object.  The index is kept up by each
operation on its own, next to the facts; this module shows that the two never part.

The invariant is `Indexed`: under each key the index lists exactly the live handles whose object has
that key, oldest first, and no key is listed without handles.  An operation adds or removes one
handle under one key, so all that is needed about the index is what a lookup answers after `add` and
after `remove`.
-/

namespace RuleEngine

/-! ## The order of handles -/

namespace Handle

theorem order_eq_lt_iff (a b : Handle) :
    a.order b = .lt ↔ a.id < b.id ∨ a.id = b.id ∧ a.partition < b.partition := by
  rw [order, Ordering.then_eq_lt, Nat.compare_eq_lt, Nat.compare_eq_eq, Nat.compare_eq_lt]

theorem order_eq_eq_iff (a b : Handle) : a.order b = .eq ↔ a = b := by
  rw [order, Ordering.then_eq_eq, Nat.compare_eq_eq, Nat.compare_eq_eq]
  constructor
  · rintro ⟨hid, hpartition⟩
    cases a
    cases b
    simp_all
  · rintro rfl
    exact ⟨rfl, rfl⟩

theorem order_eq_gt_iff (a b : Handle) : a.order b = .gt ↔ b.order a = .lt := by
  rw [order_eq_lt_iff, order, Ordering.then_eq_gt, Nat.compare_eq_gt, Nat.compare_eq_eq,
    Nat.compare_eq_gt, eq_comm (a := b.id)]

theorem order_lt_trans {a b c : Handle} (h : a.order b = .lt) (h' : b.order c = .lt) :
    a.order c = .lt := by
  rw [order_eq_lt_iff] at *
  omega

end Handle

/-! ## Keys -/

instance : EquivBEq Identity where
  rfl {key} := match key with
    | .fact id => BEq.rfl (a := id)
    | .stream id => BEq.rfl (a := id)
    | .equal v => BEq.rfl (a := v)
  symm {a b} h := match a, b, h with
    | .fact _, .fact _, h => BEq.symm (α := InstanceId) h
    | .stream _, .stream _, h => BEq.symm (α := SourceId) h
    | .equal _, .equal _, h => BEq.symm (α := Value) h
  trans {a b c} h h' := match a, b, c, h, h' with
    | .fact _, .fact _, .fact _, h, h' => BEq.trans (α := InstanceId) h h'
    | .stream _, .stream _, .stream _, h, h' => BEq.trans (α := SourceId) h h'
    | .equal _, .equal _, .equal _, h, h' => BEq.trans (α := Value) h h'

namespace IdentityIndex

variable {index : IdentityIndex} {key : Identity} {h g : Handle} {held : List Handle}

/-! ## The handles of one key -/

def Ascending (held : List Handle) : Prop :=
  held.Pairwise fun a b => a.order b = .lt

theorem mem_addHandle : g ∈ addHandle h held ↔ g = h ∨ g ∈ held := by
  induction held with
  | nil => simp [addHandle]
  | cons first rest ih =>
      unfold addHandle
      split
      · exact List.mem_cons
      · rename_i same
        rw [(Handle.order_eq_eq_iff h first).1 same, List.mem_cons]
        simp
      · rw [List.mem_cons, ih, List.mem_cons]
        exact or_left_comm

theorem ascending_addHandle (hs : Ascending held) : Ascending (addHandle h held) := by
  -- the three cases are those of the comparison with the first handle
  induction held with
  | nil => exact List.pairwise_singleton _ _
  | cons first rest ih =>
      have ⟨below, hrest⟩ := List.pairwise_cons.1 hs
      unfold addHandle
      split
      · rename_i before
        refine List.pairwise_cons.2 ⟨?_, hs⟩
        intro g hg
        rcases List.mem_cons.1 hg with rfl | hg
        · exact before
        · exact Handle.order_lt_trans before (below g hg)
      · exact hs
      · rename_i after
        refine List.pairwise_cons.2 ⟨?_, ih hrest⟩
        intro g hg
        rcases mem_addHandle.1 hg with rfl | hg
        · exact (Handle.order_eq_gt_iff _ _).1 after
        · exact below g hg

/-- The first of ascending handles is the smallest. -/
theorem head?_eq_some_iff (hs : Ascending held) :
    held.head? = some h ↔ h ∈ held ∧ ∀ g ∈ held, g = h ∨ h.order g = .lt := by
  cases held with
  | nil => simp
  | cons first rest =>
      have below := (List.pairwise_cons.1 hs).1
      constructor
      · intro same
        have : first = h := by simpa using same
        subst this
        refine ⟨List.mem_cons_self, ?_⟩
        intro g hg
        exact (List.mem_cons.1 hg).imp_right (below g)
      · rintro ⟨hmem, least⟩
        have : first = h := by
          rcases List.mem_cons.1 hmem with rfl | hrest
          · rfl
          · -- the first handle would be below `h` and not below it
            rcases least first List.mem_cons_self with same | before
            · exact same
            · have := Handle.order_lt_trans before (below h hrest)
              rw [Handle.order_eq_lt_iff] at this
              omega
        simp [this]

/-! ## Lookups in the index -/

theorem handles_cons (entry : Identity × List Handle) :
    handles key (entry :: index) =
      if entry.1 == key then entry.2 else handles key index := by
  by_cases hk : entry.1 == key <;> simp [handles, hk]

theorem handles_congr {other : Identity} (hk : key == other) (index : IdentityIndex) :
    index.handles key = index.handles other := by
  unfold handles
  simp only [BEq.congr_right hk]

theorem handles_eq_nil (absent : ∀ e ∈ index, (e.1 == key) = false) :
    handles key index = [] := by
  have : index.find? (·.1 == key) = none := by
    rw [List.find?_eq_none]
    intro e he
    simp [absent e he]
  simp [handles, this]

theorem exists_of_mem_handles (hh : h ∈ index.handles key) : ∃ e ∈ index, e.1 == key := by
  unfold handles at hh
  split at hh
  · rename_i entry found
    have hk : (entry.1 == key) = true := by simpa using List.find?_some found
    exact ⟨entry, List.mem_of_find?_eq_some found, hk⟩
  · simp at hh

theorem handles_add (index : IdentityIndex) (key other : Identity) (h : Handle) :
    (index.add key h).handles other =
      if key == other then addHandle h (index.handles key) else index.handles other := by
  induction index with
  | nil => by_cases hother : key == other <;> simp [add, handles, addHandle, hother]
  | cons entry rest ih =>
      unfold add
      by_cases here : entry.1 == key
      -- this is the entry of `key`: every key is compared with it as with `key`
      · have same : (entry.1 == other) = (key == other) := BEq.congr_left here
        by_cases hother : key == other <;> simp [handles_cons, here, same, hother]
      · rw [if_neg here, handles_cons, handles_cons, handles_cons, ih, if_neg here]
        by_cases hother : key == other
        · have : ¬ (entry.1 == other) = true := fun he =>
            here (BEq.trans he (BEq.symm hother))
          simp [this, hother]
        · simp [hother]

/-! ## Well-formed indices -/

/-- The keys differ, and each is listed with at least one handle, in ascending order. -/
structure WellFormed (index : IdentityIndex) : Prop where
  apart : index.Pairwise fun a b => (a.1 == b.1) = false
  inhabited : ∀ e ∈ index, e.2 ≠ []
  ascending : ∀ e ∈ index, Ascending e.2

theorem WellFormed.nil : WellFormed [] :=
  ⟨.nil, by simp, by simp⟩

theorem WellFormed.tail {entry : Identity × List Handle} (hw : WellFormed (entry :: index)) :
    WellFormed index where
  apart := (List.pairwise_cons.1 hw.apart).2
  inhabited := fun e he => hw.inhabited e (List.mem_cons_of_mem _ he)
  ascending := fun e he => hw.ascending e (List.mem_cons_of_mem _ he)

theorem WellFormed.cons {entry : Identity × List Handle} (hw : WellFormed index)
    (absent : ∀ e ∈ index, (entry.1 == e.1) = false) (inhabited : entry.2 ≠ [])
    (ascending : Ascending entry.2) : WellFormed (entry :: index) where
  apart := List.pairwise_cons.2 ⟨absent, hw.apart⟩
  inhabited := List.forall_mem_cons.2 ⟨inhabited, hw.inhabited⟩
  ascending := List.forall_mem_cons.2 ⟨ascending, hw.ascending⟩

theorem WellFormed.head_absent {entry : Identity × List Handle}
    (hw : WellFormed (entry :: index)) : ∀ e ∈ index, (entry.1 == e.1) = false :=
  (List.pairwise_cons.1 hw.apart).1

theorem WellFormed.handles_of_mem (hw : WellFormed index) {e : Identity × List Handle}
    (he : e ∈ index) : index.handles e.1 = e.2 := by
  induction index with
  | nil => simp at he
  | cons entry rest ih =>
      rw [handles_cons]
      rcases List.mem_cons.1 he with rfl | he
      · simp
      · simp [hw.head_absent e he, ih hw.tail he]

theorem WellFormed.ascending_handles (hw : WellFormed index) (key : Identity) :
    Ascending (index.handles key) := by
  unfold handles
  split
  · rename_i entry found
    exact hw.ascending entry (List.mem_of_find?_eq_some found)
  · exact .nil

theorem key_of_mem_add {e : Identity × List Handle} (he : e ∈ index.add key h) :
    e.1 = key ∨ ∃ e' ∈ index, e'.1 = e.1 := by
  induction index with
  | nil =>
      have : e = (key, [h]) := by simpa [add] using he
      exact Or.inl (this ▸ rfl)
  | cons entry rest ih =>
      -- either the entry of the key grows, or the search goes on behind this entry
      unfold add at he
      split at he
      · rcases List.mem_cons.1 he with rfl | he
        · exact Or.inr ⟨entry, List.mem_cons_self, rfl⟩
        · exact Or.inr ⟨e, List.mem_cons_of_mem _ he, rfl⟩
      · rcases List.mem_cons.1 he with rfl | he
        · exact Or.inr ⟨e, List.mem_cons_self, rfl⟩
        · rcases ih he with same | ⟨e', he', same⟩
          · exact Or.inl same
          · exact Or.inr ⟨e', List.mem_cons_of_mem _ he', same⟩

theorem WellFormed.add (hw : WellFormed index) : WellFormed (index.add key h) := by
  induction index with
  | nil =>
      exact WellFormed.nil.cons (by simp) (by simp) (List.pairwise_singleton _ _)
  | cons entry rest ih =>
      have hentry := hw.ascending entry List.mem_cons_self
      unfold IdentityIndex.add
      split
      · refine hw.tail.cons hw.head_absent ?_ (ascending_addHandle hentry)
        exact List.ne_nil_of_mem (mem_addHandle.2 (Or.inl rfl))
      · rename_i elsewhere
        refine (ih hw.tail).cons ?_ (hw.inhabited entry List.mem_cons_self) hentry
        intro e he
        rcases key_of_mem_add he with same | ⟨e', he', same⟩
        · simpa [same] using elsewhere
        · exact same ▸ hw.head_absent e' he'

theorem key_of_mem_remove {e : Identity × List Handle} (he : e ∈ index.remove key h) :
    ∃ e' ∈ index, e'.1 = e.1 := by
  induction index with
  | nil => simp [remove] at he
  | cons entry rest ih =>
      unfold remove at he
      split at he
      · split at he
        · exact ⟨e, List.mem_cons_of_mem _ he, rfl⟩
        · rcases List.mem_cons.1 he with rfl | he
          · exact ⟨entry, List.mem_cons_self, rfl⟩
          · exact ⟨e, List.mem_cons_of_mem _ he, rfl⟩
      · rcases List.mem_cons.1 he with rfl | he
        · exact ⟨e, List.mem_cons_self, rfl⟩
        · rcases ih he with ⟨e', he', same⟩
          exact ⟨e', List.mem_cons_of_mem _ he', same⟩

theorem WellFormed.remove (hw : WellFormed index) : WellFormed (index.remove key h) := by
  induction index with
  | nil => exact .nil
  | cons entry rest ih =>
      have hentry := hw.ascending entry List.mem_cons_self
      unfold IdentityIndex.remove
      split
      · split
        · exact hw.tail
        · rename_i remaining nonempty
          have hremaining : Ascending (entry.2.filter (· ≠ h)) := hentry.filter _
          exact hw.tail.cons hw.head_absent nonempty hremaining
      · refine (ih hw.tail).cons ?_ (hw.inhabited entry List.mem_cons_self) hentry
        intro e he
        rcases key_of_mem_remove he with ⟨e', he', same⟩
        exact same ▸ hw.head_absent e' he'

/-- Removing a handle under a key is seen under that key only.  The entry goes when it is emptied, so
that no other entry of the index may have the key. -/
theorem WellFormed.handles_remove (hw : WellFormed index) (key other : Identity) (h : Handle) :
    (index.remove key h).handles other =
      if key == other then (index.handles key).filter (· ≠ h) else index.handles other := by
  induction index with
  | nil => simp [IdentityIndex.remove, handles]
  | cons entry rest ih =>
      unfold IdentityIndex.remove
      by_cases here : entry.1 == key
      -- the entry of `key` is cut down, or goes when nothing is left of it
      · have same : (entry.1 == other) = (key == other) := BEq.congr_left here
        rw [if_pos here, handles_cons, handles_cons, if_pos here]
        split
        · rename_i emptied
          rw [emptied, same]
          by_cases hother : key == other
          · rw [if_pos hother]
            -- a second entry with the key would show now that the first is gone
            refine handles_eq_nil fun e he => ?_
            have listed : entry.1 == other := same.trans hother
            rw [← BEq.congr_right listed, BEq.comm, hw.head_absent e he]
          · rw [if_neg hother, if_neg hother]
        · rw [handles_cons, same]
          by_cases hother : key == other <;> simp [hother]
      · rw [if_neg here, handles_cons, handles_cons, handles_cons, ih hw.tail, if_neg here]
        by_cases hother : key == other
        · have : ¬ (entry.1 == other) = true := fun he =>
            here (BEq.trans he (BEq.symm hother))
          simp [this, hother]
        · simp [hother]

end IdentityIndex
end RuleEngine
