import RuleEngine.Proofs.Memory.Agreement
import RuleEngine.Proofs.Resolution.SinglePass
import RuleEngine.Proofs.Rule.Arguments

/-!
# Identities of indirect bindings

An indirect declaration is bound to a value that its extractor reads off a matched object.  Working
memory tells facts and streams apart by instance, so what counts for the identity of the binding is
whether the memory holds that very instance; a stored fact with equal content is another one.

The main statement combines the cases of a binding with the agreement of index and facts: the handle
of a binding is the oldest live one of its instance, and there is a handle exactly when there is such
an instance.
-/

namespace RuleEngine

/-! ## Instances -/

namespace Value

variable {v w : Value}

/-- Two values are the same instance: copies of one fact, or the same stream.  Facts with equal
content need not be. -/
def SameInstance : Value → Value → Prop
  | fact a _ _, fact b _ _ => a = b
  | source a, source b => a = b
  | _, _ => False

/-- An instance has the key of another value exactly when that is the same instance. -/
theorem beq_key_iff_sameInstance (inst : v.isInstance = true) :
    (Identity.of w == Identity.of v) = true ↔ w.SameInstance v := by
  cases v with
  | fact b =>
      cases w with
      | fact a => exact beq_iff_eq (α := InstanceId)
      | _ => exact ⟨nofun, nofun⟩
  | source b =>
      cases w with
      | source a => exact beq_iff_eq (α := SourceId)
      | _ => exact ⟨nofun, nofun⟩
  | _ => cases inst

theorem SameInstance.isInstance (same : w.SameInstance v) : v.isInstance = true := by
  cases v with
  | fact | source => rfl
  | _ => cases w <;> cases same

end Value

/-! ## Stored instances -/

namespace WorkingMemory

variable {m : WorkingMemory} {operations : List Operation} {h : Handle} {v w : Value}

/-- The handle is live, and its object is the given instance. -/
def Stores (m : WorkingMemory) (h : Handle) (v : Value) : Prop :=
  ∃ w, m.find? h = some w ∧ w.SameInstance v

theorem holds_iff_stores (inst : v.isInstance = true) : m.Holds h (.of v) ↔ m.Stores h v := by
  simp only [Holds, Stores, Value.beq_key_iff_sameInstance inst]

/-- The lookup of an instance answers the oldest handle that stores it. -/
theorem Indexed.holder?_eq_some_iff_stores (hm : m.Indexed) (inst : v.isInstance = true) :
    m.holder? v = some h ↔ m.Stores h v ∧ ∀ g, m.Stores g v → g = h ∨ h.id < g.id := by
  rw [hm.holder?_eq_some_iff, holds_iff_stores inst]
  simp only [holds_iff_stores inst]
  refine and_congr_right fun ⟨w, live, _⟩ => forall_congr' fun g => imp_congr_right ?_
  rintro ⟨w', live', -⟩
  refine or_congr_right ⟨hm.ordered.id_lt_of_order_lt live live', fun older => ?_⟩
  exact (Handle.order_eq_lt_iff h g).2 (Or.inl older)

theorem Indexed.holder?_isSome_iff_stores (hm : m.Indexed) (inst : v.isInstance = true) :
    (m.holder? v).isSome ↔ ∃ h, m.Stores h v := by
  rw [← not_iff_not, Bool.not_eq_true, Option.isSome_eq_false_iff, Option.isNone_iff_eq_none,
    hm.holder?_eq_none_iff, not_exists]
  simp only [holds_iff_stores inst]

/-- The object that an operation brings in. -/
def Operation.object? : Operation → Option Value
  | insert v _ => some v
  | update _ v => some v
  | retract _ => none

theorem mem_facts_perform {operation : Operation} {e : Handle × Value}
    (there : e ∈ (m.perform operation).facts) :
    e ∈ m.facts ∨ operation.object? = some e.2 := by
  cases operation with
  | insert v partition =>
      rcases List.mem_append.1 there with old | new
      · exact Or.inl old
      · rw [List.mem_singleton.1 new]
        exact Or.inr rfl
  | update h v =>
      cases hu : m.update h v with
      | error e => exact Or.inl (by simpa only [perform, hu] using there)
      | ok m' =>
          simp only [perform, hu] at there
          rcases update_eq_ok hu with ⟨old, -, rfl⟩
          rcases List.mem_map.1 there with ⟨e', there', rfl⟩
          split
          · exact Or.inr rfl
          · exact Or.inl there'
  | retract h =>
      cases hr : m.retract h with
      | error e => exact Or.inl (by simpa only [perform, hr] using there)
      | ok r =>
          simp only [perform, hr] at there
          rcases retract_eq_ok hr with ⟨-, shape⟩
          rw [shape] at there
          exact Or.inl (List.mem_filter.1 there).1

theorem mem_facts_foldl {e : Handle × Value} (there : e ∈ (operations.foldl perform m).facts) :
    e ∈ m.facts ∨ ∃ operation ∈ operations, operation.object? = some e.2 := by
  induction operations generalizing m with
  | nil => exact Or.inl there
  | cons operation rest ih =>
      rcases ih there with earlier | ⟨later, named, brought⟩
      · rcases mem_facts_perform earlier with old | new
        · exact Or.inl old
        · exact Or.inr ⟨operation, List.mem_cons_self, new⟩
      · exact Or.inr ⟨later, List.mem_cons_of_mem _ named, brought⟩

/-- Whatever is stored was brought in by an operation. -/
theorem exists_object_of_find?_run (found : (run operations).find? h = some w) :
    ∃ operation ∈ operations, operation.object? = some w :=
  (mem_facts_foldl (mem_facts_of_find? found)).resolve_left nofun

/-- When an instance was only ever brought in with one content, a handle that stores it holds that
content. -/
theorem Stores.find?_eq (stores : (run operations).Stores h v)
    (one_content : ∀ operation ∈ operations, ∀ w, operation.object? = some w →
      w.SameInstance v → w = v) :
    (run operations).find? h = some v := by
  rcases stores with ⟨w, found, same⟩
  rcases exists_object_of_find?_run found with ⟨operation, named, brought⟩
  rw [found, one_content operation named w brought same]

end WorkingMemory

/-! ## Bindings -/

section Binding

variable {chain : Chain} {memory : WorkingMemory} {d : Declaration} {x : Extractor} {v : Value}
  {b : Binding}

/-- An extracted instance is bound with its holder, or not at all; any other value is bound as it
is. -/
theorem Binding.eq_of_ofExtracted (bound : Binding.ofExtracted d memory v = .ok b) :
    b =
      if v.isInstance then
        match memory.holder? v with
        | none => .unbound
        | some h => ⟨v, some h⟩
      else ⟨v, none⟩ := by
  cases inst : v.isInstance with
  | true =>
      rw [ofExtracted_of_instance inst] at bound
      cases holder : memory.holder? v with
      | none =>
          rw [holder] at bound
          exact (Except.ok.inj bound).symm
      | some h =>
          rw [holder] at bound
          rcases Except.map_eq_ok_iff.1 bound with ⟨_, -, same⟩
          exact same.symm
  | false =>
      cases some_value : v.isNil with
      | true =>
          cases v <;> cases some_value
          exact (Except.ok.inj bound).symm
      | false =>
          rw [ofExtracted_of_plain inst some_value] at bound
          rcases Except.map_eq_ok_iff.1 bound with ⟨_, -, same⟩
          exact same.symm

theorem Plan.Binds.exists_extracted (binds : Plan.Binds chain memory d b)
    (extractor : d.extractor? = some x) :
    ∃ node v, chain.node? d.depth = some node ∧ x.extract node.object memory = .ok v ∧
      Binding.ofExtracted d memory v = .ok b := by
  rcases binds with ⟨node, reached, resolved⟩
  have resolved := Except.mapError_eq_ok_iff.1 resolved
  rw [extractor] at resolved
  rcases Except.bind_eq_ok_iff.1 resolved with ⟨v, extracted, bound⟩
  exact ⟨node, v, reached, extracted, bound⟩

end Binding

namespace Plan

/-- Whatever was inserted, updated and retracted before, an indirect declaration of a plan that is
resolved is bound to what its extractor answers at its node.

It has a handle exactly when that is an instance that the memory stores.  The handle is then the
oldest live one of the instance, its object is that instance, with the same content if the instance
was only ever stored with one, and the value of the binding is that instance.  An instance that is not
stored leaves the declaration unbound, whatever equal facts are stored.  Any other value is kept
without a handle, whatever equal values are stored; nil is such a value. -/
theorem indirect_binding_identifies (operations : List WorkingMemory.Operation) (p : Plan)
    (chain : Chain) (r : Resolution)
    (resolved : p.resolve chain (WorkingMemory.run operations) = .ok r) (i : Nat) (d : Declaration)
    (placed : p.declarations[i]? = some d) (x : Extractor) (indirect : d.extractor? = some x) :
    let m := WorkingMemory.run operations
    ∃ node v b, chain.node? d.depth = some node ∧ x.extract node.object m = .ok v ∧
      r.bindings[i]? = some b ∧
      (b.handle.isSome ↔ v.isInstance = true ∧ ∃ h, m.Stores h v) ∧
      (∀ h, b.handle = some h ↔ m.Stores h v ∧ ∀ g, m.Stores g v → g = h ∨ h.id < g.id) ∧
      (∀ h, b.handle = some h → m.contains h = true ∧ b.value = v ∧
        ((∀ operation ∈ operations, ∀ w, operation.object? = some w → w.SameInstance v → w = v) →
          m.find? h = some v)) ∧
      (v.isInstance = true → (∀ h, ¬ m.Stores h v) → b = .unbound) ∧
      (v.isInstance = false → b = ⟨v, none⟩) := by
  intro m
  have hm : m.Indexed := WorkingMemory.indexed_run operations
  rcases getElem?_bindings resolved placed with ⟨b, binds, at_place⟩
  rcases binds.exists_extracted indirect with ⟨node, v, reached, extracted, bound⟩
  refine ⟨node, v, b, reached, extracted, at_place, ?_⟩
  have shape := Binding.eq_of_ofExtracted bound
  cases inst : v.isInstance with
  | false =>
      rw [inst, if_neg Bool.false_ne_true] at shape
      subst shape
      -- a value that is no instance is not stored as one
      have not_stored : ∀ h, ¬ m.Stores h v := by
        rintro h ⟨w, -, same⟩
        rw [same.isInstance] at inst
        cases inst
      simp [not_stored]
  | true =>
      rw [inst, if_pos rfl] at shape
      cases holder : m.holder? v with
      | none =>
          have not_stored : ∀ h, ¬ m.Stores h v := by
            intro h stores
            have found := (hm.holder?_isSome_iff_stores inst).2 ⟨h, stores⟩
            rw [holder] at found
            cases found
          rw [holder] at shape
          subst shape
          simp [Binding.unbound, not_stored]
      | some h =>
          have oldest := (hm.holder?_eq_some_iff_stores inst).1 holder
          rw [holder] at shape
          subst shape
          have same_handle : ∀ g, some h = some g ↔
              m.Stores g v ∧ ∀ g', m.Stores g' v → g' = g ∨ g.id < g'.id := by
            intro g
            rw [← holder, hm.holder?_eq_some_iff_stores inst]
          refine ⟨⟨fun _ => ⟨rfl, h, oldest.1⟩, fun _ => rfl⟩, same_handle, ?_, ?_, nofun⟩
          · intro g here
            cases here
            have live : m.contains h = true := by
              rcases oldest.1 with ⟨w, found, -⟩
              rw [WorkingMemory.contains, found, Option.isSome_some]
            exact ⟨live, rfl, fun one_content => oldest.1.find?_eq one_content⟩
          · intro _ not_stored
            exact absurd oldest.1 (not_stored h)

def car (id : Nat) : Value :=
  .fact ⟨id⟩ "Car" [("plate", .string "X1")]

/-- Two equal cars are stored, the second one twice. -/
def carsStored : List WorkingMemory.Operation :=
  [.insert (car 0) 0, .insert (car 1) 0, .insert (car 1) 1]

/-- The driver of the second car, with a third one in reserve. -/
def driver : Chain :=
  ⟨[⟨⟨9, 0⟩, .fact ⟨9⟩ "Person" [("car", car 1), ("reserve", car 2)]⟩]⟩

def carsOfDriver : List Declaration :=
  [⟨"$car", .fact "Car", 0, 0, some (.field "car")⟩,
    ⟨"$reserve", .fact "Car", 0, 1, some (.field "reserve")⟩]

theorem driven_car_identified :
    ∃ r, resolve ⟨carsOfDriver, 0⟩ driver (WorkingMemory.run carsStored) = .ok r ∧
      r.bindings[0]? = some ⟨car 1, some ⟨1, 0⟩⟩ ∧ r.bindings[1]? = some .unbound := by
  have made : ofDeclarations carsOfDriver 0 = .ok ⟨carsOfDriver, 0⟩ := rfl
  have alone : ∀ d ∈ carsOfDriver, ∃ b, d.bindAlone driver (WorkingMemory.run carsStored) = .ok b := by
    intro d named
    rcases List.mem_cons.1 named with rfl | named
    · exact ⟨_, rfl⟩
    · rw [List.mem_singleton.1 named]
      exact ⟨_, rfl⟩
  rcases (exists_resolve_iff made).2 alone with ⟨r, resolved⟩
  have stored : ∀ g n, (WorkingMemory.run carsStored).Stores g (car n) →
      n = 0 ∨ n = 1 ∧ (g = ⟨1, 0⟩ ∨ 1 < g.id) := by
    rintro g n ⟨w, found, same⟩
    have there : (g, w) ∈ [(⟨0, 0⟩, car 0), (⟨1, 0⟩, car 1), (⟨2, 1⟩, car 1)] :=
      WorkingMemory.mem_facts_of_find? found
    simp only [List.mem_cons, Prod.mk.injEq, List.not_mem_nil, or_false] at there
    rcases there with ⟨rfl, rfl⟩ | ⟨rfl, rfl⟩ | ⟨rfl, rfl⟩ <;> cases same
    · exact Or.inl rfl
    · exact Or.inr ⟨rfl, Or.inl rfl⟩
    · exact Or.inr ⟨rfl, Or.inr (by decide)⟩
  refine ⟨r, resolved, ?_, ?_⟩
  · rcases indirect_binding_identifies carsStored _ driver r resolved 0 _ rfl _ rfl with
      ⟨node, v, b, reached, extracted, at_place, -, handle, value, -⟩
    cases reached
    cases extracted
    have identified : b.handle = some ⟨1, 0⟩ := by
      refine (handle ⟨1, 0⟩).2 ⟨⟨car 1, rfl, rfl⟩, fun g stores => ?_⟩
      exact (stored g 1 stores).elim nofun And.right
    have same : b.value = car 1 := (value _ identified).2.1
    rw [at_place, ← identified, ← same]
  · rcases indirect_binding_identifies carsStored _ driver r resolved 1 _ rfl _ rfl with
      ⟨node, v, b, reached, extracted, at_place, -, -, -, absent, -⟩
    cases reached
    cases extracted
    rw [at_place, absent rfl fun g stores => (stored g 2 stores).elim nofun nofun]

end Plan
end RuleEngine
