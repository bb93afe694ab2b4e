import RuleEngine.Proofs.Resolution.Identities

/-!
# How a declaration fails

There are four ways.  The chain may not reach the node of the declaration; the matched object may not
fit the declared type; the extractor may fail; or the extracted value may not fit.  `Fails` says which
cause is reported for each of them, and in which steps.

An extracted value is checked only if it is bound.  Nil is not, and neither is a fact or a stream that
working memory does not hold: that is not an error, whatever its type.  So a fact of the wrong type is
reported while it is stored, and passed over while it is not.
-/

namespace RuleEngine

/-! ## Steps of an error -/

namespace Error

/-- The steps in which an error arose. -/
def steps (e : Error) : List String :=
  (e.context.getD {}).stack

theorem inArtifact_eq (e : Error) (rule artifact : String) :
    e.inArtifact rule artifact = ⟨e.cause, some ⟨some rule, some artifact, e.steps⟩⟩ :=
  rfl

end Error

/-! ## Values that do not fit -/

section Binding

variable {memory : WorkingMemory} {d : Declaration} {v : Value} {e : Error}

/-- An extracted value is refused when it does not fit, unless it is nil or a fact or stream that
working memory does not hold. -/
theorem Binding.ofExtracted_eq_error_iff :
    ofExtracted d memory v = .error e ↔
      v.isNil = false ∧ (v.isInstance = true → (memory.holder? v).isSome = true) ∧
        v.fits d.type = false ∧ e = (Cause.typeMismatch d.type v.type : Error) := by
  cases inst : v.isInstance with
  | true =>
      have some_value : v.isNil = false := by cases v <;> simp_all [Value.isInstance, Value.isNil]
      rw [ofExtracted_of_instance inst]
      cases memory.holder? v with
      | none => simp
      | some h => simp [Except.map_eq_error_iff, Declaration.check_eq_error_iff, some_value]
  | false =>
      cases some_value : v.isNil with
      | true =>
          cases v <;> cases some_value
          simp [ofExtracted]
      | false =>
          rw [ofExtracted_of_plain inst some_value, Except.map_eq_error_iff,
            Declaration.check_eq_error_iff]
          simp

/-- At its node a declaration fails with the check of the object, with its extractor, or with the
extracted value. -/
theorem Binding.resolve_eq_error_iff {node : Node} :
    resolve d memory node = .error e ↔
      ∃ inner : Error, e = inner.inStep ("resolve " ++ d.name) ∧
        (d.extractor? = none ∧ d.check node.object = .error inner ∨
          ∃ x, d.extractor? = some x ∧
            (x.extract node.object memory = .error inner ∨
              ∃ v, x.extract node.object memory = .ok v ∧
                ofExtracted d memory v = .error inner)) := by
  unfold resolve
  simp only [Except.mapError_eq_error_iff, and_comm (b := _ = e), eq_comm (a := e)]
  refine exists_congr fun inner => and_congr_right fun _ => ?_
  cases d.extractor? with
  | none => simp [ofNode, Except.map_eq_error_iff]
  | some x => simp [Except.bind_eq_error_iff]

end Binding

/-! ## Failures -/

namespace Declaration

variable {chain : Chain} {memory : WorkingMemory} {d : Declaration} {cause : Cause}
  {stack : List String}

/-- How a declaration fails: for which cause, and in which steps. -/
inductive Fails (chain : Chain) (memory : WorkingMemory) (d : Declaration) :
    Cause → List String → Prop where
  | unreached (beyond : chain.length ≤ d.depth) :
      Fails chain memory d (.depthOutOfRange d.name d.depth (chain.rootDepth?.getD 0)) []
  | object {node : Node} (reached : chain.node? d.depth = some node) (direct : d.extractor? = none)
      (misfit : node.object.fits d.type = false) :
      Fails chain memory d (.typeMismatch d.type node.object.type) ["resolve " ++ d.name]
  | extractor {node : Node} {x : Extractor} {e : Error} (reached : chain.node? d.depth = some node)
      (indirect : d.extractor? = some x) (raised : x.extract node.object memory = .error e) :
      Fails chain memory d e.cause (e.steps ++ ["resolve " ++ d.name])
  | extracted {node : Node} {x : Extractor} {v : Value} (reached : chain.node? d.depth = some node)
      (indirect : d.extractor? = some x) (extracted : x.extract node.object memory = .ok v)
      (some_value : v.isNil = false)
      (held : v.isInstance = true → (memory.holder? v).isSome = true)
      (misfit : v.fits d.type = false) :
      Fails chain memory d (.typeMismatch d.type v.type) ["resolve " ++ d.name]

/-- A declaration fails as its lookup does. -/
theorem fails_iff :
    d.Fails chain memory cause stack ↔
      ∃ e, d.bindAlone chain memory = .error e ∧ e.cause = cause ∧ e.steps = stack := by
  constructor
  · intro fails
    cases fails with
    | unreached beyond =>
        exact ⟨_, bindAlone_of_missed (Chain.node?_eq_none_iff.2 beyond), rfl, rfl⟩
    | object reached direct misfit =>
        have refused := check_eq_error_iff.2 ⟨misfit, rfl⟩
        have failed : Binding.resolve d memory _ = .error _ :=
          Binding.resolve_eq_error_iff.2 ⟨_, rfl, Or.inl ⟨direct, refused⟩⟩
        exact ⟨_, (bindAlone_of_node reached).trans failed, rfl, rfl⟩
    | extractor reached indirect raised =>
        have failed : Binding.resolve d memory _ = .error _ :=
          Binding.resolve_eq_error_iff.2 ⟨_, rfl, Or.inr ⟨_, indirect, Or.inl raised⟩⟩
        exact ⟨_, (bindAlone_of_node reached).trans failed, rfl, rfl⟩
    | extracted reached indirect extracted some_value held misfit =>
        have refused := Binding.ofExtracted_eq_error_iff.2 ⟨some_value, held, misfit, rfl⟩
        have failed : Binding.resolve d memory _ = .error _ :=
          Binding.resolve_eq_error_iff.2
            ⟨_, rfl, Or.inr ⟨_, indirect, Or.inr ⟨_, extracted, refused⟩⟩⟩
        exact ⟨_, (bindAlone_of_node reached).trans failed, rfl, rfl⟩
  · rintro ⟨e, failed, rfl, rfl⟩
    cases reached : chain.node? d.depth with
    | none =>
        rw [bindAlone_of_missed reached] at failed
        cases failed
        exact .unreached (Chain.node?_eq_none_iff.1 reached)
    | some node =>
        rw [bindAlone_of_node reached] at failed
        obtain ⟨inner, rfl, ⟨direct, refused⟩ | ⟨x, indirect, raised | ⟨v, extracted, refused⟩⟩⟩ :=
          Binding.resolve_eq_error_iff.1 failed
        · obtain ⟨misfit, rfl⟩ := check_eq_error_iff.1 refused
          exact .object reached direct misfit
        · exact .extractor reached indirect raised
        · obtain ⟨some_value, held, misfit, rfl⟩ := Binding.ofExtracted_eq_error_iff.1 refused
          exact .extracted reached indirect extracted some_value held misfit

theorem not_fails_iff :
    (∀ cause stack, ¬ d.Fails chain memory cause stack) ↔
      ∃ b, d.bindAlone chain memory = .ok b := by
  simp only [fails_iff]
  cases d.bindAlone chain memory <;> simp

/-! ## What is checked -/

/-- What is reported of an extracted value that does not fit. -/
def mismatch (d : Declaration) (v : Value) : Error :=
  (Cause.typeMismatch d.type v.type : Error).inStep ("resolve " ++ d.name)

variable {node : Node} {x : Extractor} {v : Value}

theorem bindAlone_of_extracted (reached : chain.node? d.depth = some node)
    (indirect : d.extractor? = some x) (extracted : x.extract node.object memory = .ok v) :
    d.bindAlone chain memory =
      (Binding.ofExtracted d memory v).mapError (·.inStep ("resolve " ++ d.name)) := by
  simp [bindAlone_of_node reached, Binding.resolve, indirect, extracted, Except.bind]

end Declaration

namespace Plan

open WorkingMemory (Operation)

/-- Of two declarations of a plan, one comes before the other. -/
theorem precedes_total {declarations : List Declaration} {rootDepth : Nat} {p : Plan}
    {d d' : Declaration} (made : ofDeclarations declarations rootDepth = .ok p)
    (named : d ∈ declarations) (named' : d' ∈ declarations) :
    d = d' ∨ d.Precedes d' ∨ d'.Precedes d := by
  by_cases same : d.index = d'.index
  · have at_place := (declarations_of_made made).2 ⟨named, same⟩
    rw [(declarations_of_made made).2 ⟨named', rfl⟩, Option.some.injEq] at at_place
    exact Or.inl at_place.symm
  · unfold Declaration.Precedes
    omega

/-- Whatever was inserted, updated and retracted before, take an indirect declaration of a plan whose
extractor answers a value other than nil that does not fit, and let every declaration that comes
before be bound.

If the value is neither a fact nor a stream, or if it is one that the memory stores, then the plan
fails with the mismatch of this declaration.  A fact or a stream that the memory does not store leaves
the declaration unbound, whatever its type: if the plan is resolved, nothing is bound at this place,
and if it fails, it fails with a declaration that comes later. -/
theorem misfit_reported_unless_unheld (operations : List Operation)
    (declarations : List Declaration) (rootDepth : Nat) (p : Plan)
    (made : ofDeclarations declarations rootDepth = .ok p) (chain : Chain) (d : Declaration)
    (named : d ∈ declarations) (x : Extractor) (indirect : d.extractor? = some x) (node : Node)
    (reached : chain.node? d.depth = some node) (v : Value)
    (extracted : x.extract node.object (WorkingMemory.run operations) = .ok v)
    (some_value : v.isNil = false) (misfit : v.fits d.type = false)
    (earlier : ∀ d' ∈ declarations, d'.Precedes d →
      ∃ b, d'.bindAlone chain (WorkingMemory.run operations) = .ok b) :
    let m := WorkingMemory.run operations
    ((v.isInstance = true → ∃ h, m.Stores h v) →
      p.resolve chain m = .error (d.mismatch v)) ∧
    (v.isInstance = true → (∀ h, ¬ m.Stores h v) →
      (∀ r, p.resolve chain m = .ok r → r.bindings[d.index]? = some .unbound) ∧
      ∀ e, p.resolve chain m = .error e →
        ∃ d' ∈ declarations, d.Precedes d' ∧ d'.bindAlone chain m = .error e) := by
  intro m
  have hm : m.Indexed := WorkingMemory.indexed_run operations
  have alone := Declaration.bindAlone_of_extracted reached indirect extracted
  constructor
  · intro stored
    have held : v.isInstance = true → (m.holder? v).isSome = true :=
      fun inst => (hm.holder?_isSome_iff_stores inst).2 (stored inst)
    have refused : Binding.ofExtracted d m v = .error (Cause.typeMismatch d.type v.type) :=
      Binding.ofExtracted_eq_error_iff.2 ⟨some_value, held, misfit, rfl⟩
    have failed : d.bindAlone chain m = .error (d.mismatch v) := by
      rw [alone, refused]
      rfl
    exact (resolve_eq_error_iff made).2 ⟨d, named, failed, earlier⟩
  · intro inst not_stored
    have unheld : m.holder? v = none := by
      have none_found := (hm.holder?_isSome_iff_stores inst).not.2 (not_exists.2 not_stored)
      simpa using none_found
    have unbound : d.bindAlone chain m = .ok .unbound := by
      rw [alone, Binding.ofExtracted_of_instance inst, unheld]
      rfl
    refine ⟨fun r resolved => ?_, fun e failed => ?_⟩
    · exact (getElem?_bindings_iff made resolved).2 ⟨d, named, rfl, unbound⟩
    · obtain ⟨d', named', failed', -⟩ := (resolve_eq_error_iff made).1 failed
      rcases precedes_total made named named' with rfl | later | before
      · cases unbound.symm.trans failed'
      · exact ⟨d', named', later, failed'⟩
      · obtain ⟨b, bound⟩ := earlier d' named' before
        cases bound.symm.trans failed'

/-- A person, where a driver should have a car. -/
def passenger : Value :=
  .fact ⟨1⟩ "Person" []

def carOfPassenger : Declaration :=
  ⟨"$car", .fact "Car", 0, 0, some (.field "car")⟩

def mistakenDriver : Node :=
  ⟨⟨9, 0⟩, .fact ⟨9⟩ "Person" [("car", passenger)]⟩

theorem passenger_reported_or_unbound :
    resolve ⟨[carOfPassenger], 0⟩ ⟨[mistakenDriver]⟩ (WorkingMemory.run [.insert passenger 0]) =
        .error (carOfPassenger.mismatch passenger) ∧
      ∀ r, resolve ⟨[carOfPassenger], 0⟩ ⟨[mistakenDriver]⟩ (WorkingMemory.run []) = .ok r →
        r.bindings[0]? = some .unbound := by
  have made : ofDeclarations [carOfPassenger] 0 = .ok ⟨[carOfPassenger], 0⟩ := rfl
  have first : ∀ m, ∀ d ∈ [carOfPassenger], d.Precedes carOfPassenger →
      ∃ b, d.bindAlone ⟨[mistakenDriver]⟩ m = .ok b := by
    intro m d named precedes
    rcases List.mem_singleton.1 named with rfl
    simp [Declaration.Precedes] at precedes
  have outcome (operations : List Operation) :=
    misfit_reported_unless_unheld operations [carOfPassenger] 0 _ made ⟨[mistakenDriver]⟩
      carOfPassenger (List.mem_singleton_self _) _ rfl mistakenDriver rfl passenger rfl rfl rfl
      (first _)
  constructor
  · exact (outcome [.insert passenger 0]).1 fun _ => ⟨⟨0, 0⟩, passenger, rfl, rfl⟩
  · refine ((outcome []).2 rfl ?_).1
    rintro h ⟨w, found, -⟩
    cases found

/-- A fact that does not fit is extracted, no declaration comes before, and yet nothing is reported
while working memory is empty.  Once the fact is stored, it is reported. -/
theorem unheld_misfit_unreported :
    ofDeclarations [carOfPassenger] 0 = .ok ⟨[carOfPassenger], 0⟩ ∧
      (∀ d ∈ [carOfPassenger], ¬ d.Precedes carOfPassenger) ∧
      carOfPassenger.extractor.extract mistakenDriver.object .empty = .ok passenger ∧
      passenger.isNil = false ∧ passenger.fits carOfPassenger.type = false ∧
      resolve ⟨[carOfPassenger], 0⟩ ⟨[mistakenDriver]⟩ .empty = .ok ⟨[.unbound], 1, 0⟩ ∧
      resolve ⟨[carOfPassenger], 0⟩ ⟨[mistakenDriver]⟩ (WorkingMemory.empty.insert passenger 0).2 =
        .error (carOfPassenger.mismatch passenger) := by
  have in_order : steps ⟨[carOfPassenger], 0⟩ = [(carOfPassenger, 0)] := by simp [steps]
  refine ⟨rfl, by simp [Declaration.Precedes], rfl, rfl, rfl, ?_, ?_⟩
  · unfold resolve
    rw [in_order]
    rfl
  · unfold resolve
    rw [in_order]
    rfl

end Plan
end RuleEngine
