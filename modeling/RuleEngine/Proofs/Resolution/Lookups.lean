import RuleEngine.Proofs.Resolution.Plans

/-!
# Declarations looked up alone

Taken alone, a declaration is looked up directly: its node is read off the chain, and the declaration
is bound there.  A lookup fails because the chain has no such node, because a value does not fit the
declared type, or because an extractor fails; a row of lookups fails as the first one that does.
-/

namespace RuleEngine

/-! ## Single lookups -/

theorem Chain.node?_eq_none_iff {chain : Chain} {depth : Nat} :
    chain.node? depth = none ↔ chain.length ≤ depth := by
  unfold node?
  split
  · rename_i inside
    have there : chain.length - (depth + 1) < chain.nodes.length := by
      unfold length at inside ⊢
      omega
    simp [there, inside]
  · rename_i beyond
    simpa using beyond

namespace Declaration

/-- What a declaration is bound to when it is looked up alone. -/
def bindAlone (chain : Chain) (memory : WorkingMemory) (d : Declaration) : Except Error Binding :=
  match chain.node? d.depth with
  | none => .error (Cause.depthOutOfRange d.name d.depth (chain.rootDepth?.getD 0))
  | some node => Binding.resolve d memory node

/-- A declaration comes before another one: by depth, then by index. -/
def Precedes (d e : Declaration) : Prop :=
  d.depth < e.depth ∨ d.depth = e.depth ∧ d.index < e.index

variable {chain : Chain} {memory : WorkingMemory} {d : Declaration} {b : Binding} {e : Error}
  {v : Value} {node : Node}

theorem bindAlone_eq_ok_iff : d.bindAlone chain memory = .ok b ↔ Plan.Binds chain memory d b := by
  unfold bindAlone Plan.Binds
  cases chain.node? d.depth <;> simp

theorem depth_lt_of_bindAlone (bound : d.bindAlone chain memory = .ok b) :
    d.depth < chain.length := by
  rcases bindAlone_eq_ok_iff.1 bound with ⟨node, reached, -⟩
  unfold Chain.node? at reached
  split at reached
  · assumption
  · cases reached

theorem bindAlone_of_missed (missed : chain.node? d.depth = none) :
    d.bindAlone chain memory =
      .error (Cause.depthOutOfRange d.name d.depth (chain.rootDepth?.getD 0)) := by
  simp only [bindAlone, missed]

theorem bindAlone_of_node (reached : chain.node? d.depth = some node) :
    d.bindAlone chain memory = Binding.resolve d memory node := by
  simp only [bindAlone, reached]

theorem bindAlone_of_reached (memory : WorkingMemory) (inside : d.depth < chain.length) :
    ∃ node, chain.node? d.depth = some node ∧
      d.bindAlone chain memory = Binding.resolve d memory node := by
  cases reached : chain.node? d.depth with
  | none => exact absurd (Chain.node?_eq_none_iff.1 reached) (Nat.not_le.2 inside)
  | some node => exact ⟨node, rfl, bindAlone_of_node reached⟩

/-! ### What a lookup fails with -/

theorem check_eq_error_iff :
    d.check v = .error e ↔ v.fits d.type = false ∧ e = (Cause.typeMismatch d.type v.type : Error) := by
  unfold check
  cases v.fits d.type <;> simp [eq_comm]

theorem eq_typeMismatch_of_ofExtracted (failed : Binding.ofExtracted d memory v = .error e) :
    e = Cause.typeMismatch d.type v.type := by
  have refused : d.check v = .error e := by
    unfold Binding.ofExtracted at failed
    split at failed
    · cases failed
    · split at failed
      · cases failed
      · exact Except.map_eq_error_iff.1 failed
    · split at failed
      · cases failed
      · exact Except.map_eq_error_iff.1 failed
    · exact Except.map_eq_error_iff.1 failed
  exact (check_eq_error_iff.1 refused).2

/-- At its node a declaration fails because a value does not fit its type, or because its extractor
fails.  Either way the error has the step of the declaration as its last. -/
theorem error_of_resolve (failed : Binding.resolve d memory node = .error e) :
    (∃ v : Value, e = (Cause.typeMismatch d.type v.type : Error).inStep ("resolve " ++ d.name)) ∨
      ∃ x e', d.extractor? = some x ∧ x.extract node.object memory = .error e' ∧
        e = e'.inStep ("resolve " ++ d.name) := by
  rcases Except.mapError_eq_error_iff.1 failed with ⟨e', inner, rfl⟩
  cases extractor : d.extractor? with
  | none =>
      rw [extractor] at inner
      obtain ⟨-, rfl⟩ := check_eq_error_iff.1 (Except.map_eq_error_iff.1 inner)
      exact Or.inl ⟨node.object, rfl⟩
  | some x =>
      rw [extractor] at inner
      rcases Except.bind_eq_error_iff.1 inner with extracting | ⟨v, -, binding⟩
      · exact Or.inr ⟨x, e', rfl, extracting, rfl⟩
      · exact Or.inl ⟨v, congrArg (Error.inStep · _) (eq_typeMismatch_of_ofExtracted binding)⟩

theorem cause_of_resolve (failed : Binding.resolve d memory node = .error e) :
    e.context.isSome ∧
      ((∃ v : Value, e.cause = .typeMismatch d.type v.type) ∨
        ∃ x e', d.extractor? = some x ∧ x.extract node.object memory = .error e' ∧
          e.cause = e'.cause) := by
  rcases error_of_resolve failed with ⟨v, rfl⟩ | ⟨x, e', extractor, extracting, rfl⟩
  · exact ⟨rfl, Or.inl ⟨v, rfl⟩⟩
  · exact ⟨rfl, Or.inr ⟨x, e', extractor, extracting, rfl⟩⟩

/-- A declaration fails because the chain does not reach it, or in a step that bears its name. -/
theorem origin_of_bindAlone (failed : d.bindAlone chain memory = .error e) :
    (∃ max, e = (Cause.depthOutOfRange d.name d.depth max : Error)) ∨
      ∃ e' : Error, e = e'.inStep ("resolve " ++ d.name) := by
  unfold bindAlone at failed
  split at failed
  · exact Or.inl ⟨_, (Except.error.inj failed).symm⟩
  · rcases Except.mapError_eq_error_iff.1 failed with ⟨e', -, same⟩
    exact Or.inr ⟨e', same.symm⟩

/-- The extractor of a declaration fails at the node of the declaration, for the given cause. -/
def ExtractorFails (chain : Chain) (memory : WorkingMemory) (d : Declaration) (cause : Cause) :
    Prop :=
  ∃ node x e, chain.node? d.depth = some node ∧ d.extractor? = some x ∧
    x.extract node.object memory = .error e ∧ e.cause = cause

theorem cause_of_bindAlone (failed : d.bindAlone chain memory = .error e) :
    (∃ max, e.cause = .depthOutOfRange d.name d.depth max) ∨
      (∃ v : Value, e.cause = .typeMismatch d.type v.type) ∨
        d.ExtractorFails chain memory e.cause := by
  cases reached : chain.node? d.depth with
  | none =>
      rw [bindAlone_of_missed reached, Except.error.injEq] at failed
      exact Or.inl ⟨_, congrArg Error.cause failed.symm⟩
  | some node =>
      rw [bindAlone_of_node reached] at failed
      obtain ⟨_, cause⟩ := cause_of_resolve failed
      rcases cause with mismatch | ⟨x, e', extractor, extracting, raised⟩
      · exact Or.inr (Or.inl mismatch)
      · exact Or.inr (Or.inr ⟨node, x, e', reached, extractor, extracting, raised.symm⟩)

/-- The error of a declaration is never one of a global that is missing or does not fit. -/
theorem not_of_global (failed : d.bindAlone chain memory = .error e) :
    (∀ name, e ≠ (Cause.missingGlobal name : Error)) ∧
      ∀ name expected actual,
        e ≠ (Cause.typeMismatch expected actual : Error).inStep ("global " ++ name) := by
  rcases origin_of_bindAlone failed with ⟨max, rfl⟩ | ⟨e', rfl⟩
  · refine ⟨fun name same => ?_, fun name expected actual same => ?_⟩
    · cases same
    · cases congrArg Error.context same
  · refine ⟨fun name same => ?_, fun name expected actual same => ?_⟩
    · cases congrArg Error.context same
    · -- the last step of the one is of a declaration, that of the other of a global
      have steps := congrArg (fun e => e.context.bind (·.stack.getLast?)) same
      simp only [Error.inStep, Error.inContext, Option.bind_some, List.getLast?_append,
        List.getLast?_singleton, Option.some_or, Option.some.injEq] at steps
      have first := congrArg (·.toList.head?) steps
      simp [String.toList_append] at first

end Declaration

namespace Plan

variable {chain : Chain} {memory : WorkingMemory} {steps : List (Declaration × Nat)}
  {bindings : List Binding} {e : Error}

/-! ## A row of lookups -/

/-- Binds declarations one after the other, each looked up alone. -/
def bindEach (chain : Chain) (memory : WorkingMemory) :
    List (Declaration × Nat) → List Binding → Except Error (List Binding)
  | [], bindings => .ok bindings
  | (d, place) :: rest, bindings =>
    (d.bindAlone chain memory).bind fun b => bindEach chain memory rest (bindings.set place b)

theorem bindEach_eq_foldlM :
    bindEach chain memory steps bindings =
      steps.foldlM (fun bindings step =>
        (step.1.bindAlone chain memory).map fun b => bindings.set step.2 b) bindings := by
  induction steps generalizing bindings with
  | nil => rfl
  | cons step rest ih =>
      rw [List.foldlM_cons, bindEach]
      cases step.1.bindAlone chain memory with
      | error e => rfl
      | ok b => exact ih

theorem exists_bindEach_iff (bindings : List Binding) :
    (∃ final, bindEach chain memory steps bindings = .ok final) ↔
      ∀ step ∈ steps, ∃ b, step.1.bindAlone chain memory = .ok b := by
  induction steps generalizing bindings with
  | nil => simp [bindEach]
  | cons step rest ih =>
      rcases step with ⟨d, place⟩
      rw [List.forall_mem_cons, bindEach]
      cases bound : d.bindAlone chain memory with
      | error e => simp [Except.bind]
      | ok b => simpa [Except.bind] using ih _

/-- A row of lookups fails as the first one that fails. -/
theorem bindEach_eq_error_iff :
    bindEach chain memory steps bindings = .error e ↔
      ∃ earlier d place rest, steps = earlier ++ (d, place) :: rest ∧
        (∀ step ∈ earlier, ∃ b, step.1.bindAlone chain memory = .ok b) ∧
          d.bindAlone chain memory = .error e := by
  rw [bindEach_eq_foldlM, Except.foldlM_eq_error_iff]
  simp only [← bindEach_eq_foldlM, Except.map_eq_error_iff]
  constructor
  · rintro ⟨earlier, ⟨d, place⟩, rest, reached, split, bound, failed⟩
    have succeed := (exists_bindEach_iff bindings).1 ⟨reached, bound⟩
    exact ⟨earlier, d, place, rest, split, succeed, failed⟩
  · rintro ⟨earlier, d, place, rest, split, succeed, failed⟩
    obtain ⟨reached, bound⟩ := (exists_bindEach_iff bindings).2 succeed
    exact ⟨earlier, (d, place), rest, reached, split, bound, failed⟩

end Plan
end RuleEngine
