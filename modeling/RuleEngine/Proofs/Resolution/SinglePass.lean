import RuleEngine.Proofs.Resolution.Lookups

/-!
# One walk resolves what single lookups resolve

Resolving a plan does not look its declarations up one by one.  It walks the chain once, visits the
declarations by depth, counts the nodes that it passes, and fills the bindings out of their order.

The two agree.  Before each step the walk has not begun, or it stands at the depth of the step before
and has passed all nodes up to there.  As the steps ascend, it is never asked to go back, so a step of
the walk is a lookup, and the walk drops out of the equation `resolveSteps_eq_bindEach`.
-/

namespace RuleEngine

/-! ## The walk -/

namespace Walk

/-- A walk that ascended to a depth and passed every node up to there. -/
def reached (depth : Nat) : Walk :=
  ⟨depth, depth + 1⟩

/-- A walk that has not begun, or that passed every node up to where it stands. -/
def Steady (w : Walk) : Prop :=
  w = start ∨ w = reached w.depth

theorem steady_reached (depth : Nat) : (reached depth).Steady :=
  Or.inr rfl

/-- Going forward, a steady walk finds what a lookup finds. -/
theorem Steady.ascend {w : Walk} (steady : w.Steady) {target : Nat} (forward : w.depth ≤ target)
    (chain : Chain) :
    w.ascend chain target = (chain.node? target).map fun node => (node, reached target) := by
  have allowed : ¬ target < w.depth := Nat.not_lt.2 forward
  have count : (if w.visits = 0 then target + 1 else w.visits + (target - w.depth)) = target + 1 := by
    rcases steady with begun | begun
    -- the visits of a walk that has not begun are zero, and only those
    · rw [begun]
      rfl
    · have visits : w.visits = w.depth + 1 := congrArg Walk.visits begun
      rw [if_neg (by omega)]
      omega
  simp only [Walk.ascend, if_neg allowed, count, reached]

end Walk

namespace Plan

variable {chain : Chain} {memory : WorkingMemory} {walk last : Walk} {d : Declaration} {i : Nat}
  {steps rest : List (Declaration × Nat)} {bindings final : List Binding} {e : Error}

/-- Where a walk stands after steps. -/
def walkAfter (walk : Walk) (steps : List (Declaration × Nat)) : Walk :=
  steps.foldl (fun _ step => .reached step.1.depth) walk

/-- The declarations ascend. -/
abbrev Ascending (steps : List (Declaration × Nat)) : Prop :=
  steps.Pairwise fun a b => a.1.depth ≤ b.1.depth

/-- A walk along ascending steps binds what single lookups bind. -/
theorem resolveSteps_eq_bindEach (ascending : Ascending steps) (steady : walk.Steady)
    (ahead : ∀ step ∈ steps, walk.depth ≤ step.1.depth) :
    resolveSteps chain memory steps walk bindings =
      (bindEach chain memory steps bindings).map fun final => (final, walkAfter walk steps) := by
  -- after each step the walk stands at the depth of that step, below which no later one lies
  induction steps generalizing walk bindings with
  | nil => rfl
  | cons step rest ih =>
      rcases step with ⟨d, place⟩
      have ⟨first, later⟩ := List.pairwise_cons.1 ascending
      have forward : walk.depth ≤ d.depth := ahead (d, place) List.mem_cons_self
      have tail : ∀ bindings, resolveSteps chain memory rest (.reached d.depth) bindings =
          (bindEach chain memory rest bindings).map
            fun final => (final, walkAfter (.reached d.depth) rest) := by
        intro bindings
        exact ih later (Walk.steady_reached d.depth) first
      rw [resolveSteps, bindEach, steady.ascend forward, Declaration.bindAlone]
      cases chain.node? d.depth with
      | none => rfl
      | some node =>
          cases resolved : Binding.resolve d memory node with
          | error e => simp only [Option.map_some, resolved]; rfl
          | ok b => simp only [Option.map_some, resolved, tail]; rfl

/-! ## The order of the steps -/

theorem before_iff (a b : Declaration × Nat) :
    before a b = true ↔ a.1.depth < b.1.depth ∨ a.1.depth = b.1.depth ∧ a.2 ≤ b.2 := by
  simp [before]

theorem pairwise_steps (p : Plan) : p.steps.Pairwise fun a b => before a b = true := by
  have trans : ∀ a b c, before a b = true → before b c = true → before a c = true := by
    intro a b c hab hbc
    rw [before_iff] at *
    omega
  have total : ∀ a b, (before a b || before b a) = true := by
    intro a b
    rw [Bool.or_eq_true, before_iff, before_iff]
    omega
  exact List.pairwise_mergeSort trans total _

theorem ascending_steps (p : Plan) : Ascending p.steps := by
  refine p.pairwise_steps.imp ?_
  intro a b earlier
  rw [before_iff] at earlier
  omega

variable {declarations : List Declaration} {rootDepth : Nat} {p : Plan}

/-- The steps of a plan are its declarations, each with its index. -/
theorem mem_steps_of_made (made : ofDeclarations declarations rootDepth = .ok p) :
    (d, i) ∈ p.steps ↔ d ∈ declarations ∧ d.index = i :=
  mem_steps_iff.trans (declarations_of_made made)

/-- The steps before the one of a declaration are those of the declarations that come before it. -/
theorem mem_earlier_iff_precedes (made : ofDeclarations declarations rootDepth = .ok p)
    {earlier : List (Declaration × Nat)} (split : p.steps = earlier ++ (d, i) :: rest)
    {d' : Declaration} (named : d' ∈ declarations) :
    (d', d'.index) ∈ earlier ↔ d'.Precedes d := by
  have ordered := p.pairwise_steps
  have distinct := p.nodup_order
  rw [split] at ordered
  rw [order, split, List.map_append, List.map_cons] at distinct
  have ⟨_, ordered_rest, ordered_earlier⟩ := List.pairwise_append.1 ordered
  have first := (List.pairwise_cons.1 ordered_rest).1
  have apart := (List.nodup_append.1 distinct).2.2
  have index : d.index = i :=
    ((mem_steps_of_made made).1 (split ▸ List.mem_append_right _ List.mem_cons_self)).2
  constructor
  · intro before_it
    have below := (before_iff _ _).1 (ordered_earlier _ before_it _ List.mem_cons_self)
    have other_place : d'.index ≠ i :=
      apart _ (List.mem_map_of_mem before_it) _ List.mem_cons_self
    unfold Declaration.Precedes
    dsimp only at below
    omega
  · intro precedes
    have step : (d', d'.index) ∈ earlier ++ (d, i) :: rest :=
      split ▸ (mem_steps_of_made made).2 ⟨named, rfl⟩
    unfold Declaration.Precedes at precedes
    rcases List.mem_append.1 step with before_it | there
    · exact before_it
    · exfalso
      rcases List.mem_cons.1 there with same | later
      · rw [(Prod.mk.inj same).1] at precedes
        omega
      · have above := (before_iff _ _).1 (first _ later)
        dsimp only at above
        omega

/-! ## Resolving a plan -/

/-- Resolving a plan is looking up its declarations one by one. -/
theorem resolve_eq_bindEach (p : Plan) (chain : Chain) (memory : WorkingMemory) :
    p.resolve chain memory =
      (bindEach chain memory p.steps (List.replicate p.size .unbound)).map fun final =>
        ⟨final, (walkAfter .start p.steps).visits, (walkAfter .start p.steps).depth⟩ := by
  have walked : resolveSteps chain memory p.steps .start (List.replicate p.size .unbound) =
      (bindEach chain memory p.steps (List.replicate p.size .unbound)).map fun final =>
        (final, walkAfter .start p.steps) :=
    resolveSteps_eq_bindEach p.ascending_steps (Or.inl rfl) fun _ _ => Nat.zero_le _
  rw [resolve, walked]
  cases bindEach chain memory p.steps (List.replicate p.size .unbound) <;> rfl

/-- A walk along ascending steps ends at the depth of the deepest one. -/
theorem walkAfter_of_ne_nil (walk : Walk) (ascending : Ascending steps) (some_step : steps ≠ []) :
    ∃ deepest ∈ steps, walkAfter walk steps = .reached deepest.1.depth ∧
      ∀ step ∈ steps, step.1.depth ≤ deepest.1.depth := by
  rcases List.eq_nil_or_concat steps with none | ⟨earlier, final, split⟩
  · exact absurd none some_step
  -- the walk ends where the last step was made, and the others lie above it
  · rw [List.concat_eq_append] at split
    subst split
    have ⟨_, _, below⟩ := List.pairwise_append.1 ascending
    refine ⟨final, List.mem_append_right _ List.mem_cons_self, ?_, ?_⟩
    · rw [walkAfter, List.foldl_append]
      rfl
    · intro step there
      rcases List.mem_append.1 there with there | there
      · exact below _ there _ List.mem_cons_self
      · have same : step = final := List.mem_singleton.1 there
        exact Nat.le_of_eq (congrArg (·.1.depth) same)

/-- Along ascending steps a walk is never asked to go back. -/
theorem depth_walkAfter_le (ascending : Ascending (steps ++ (d, i) :: rest)) :
    (walkAfter .start steps).depth ≤ d.depth := by
  have ⟨earlier, _, below⟩ := List.pairwise_append.1 ascending
  by_cases begun : steps = []
  · rw [begun]
    exact Nat.zero_le _
  · rcases walkAfter_of_ne_nil .start earlier begun with ⟨deepest, there, stands, -⟩
    rw [stands]
    exact below _ there _ List.mem_cons_self

theorem walkAfter_of_made (made : ofDeclarations declarations rootDepth = .ok p) :
    walkAfter .start p.steps =
      if declarations.isEmpty then .start
      else .reached ((declarations.map (·.depth)).max?.getD 0) := by
  have count : p.steps.length = declarations.length := by
    calc
      p.steps.length = p.declarations.zipIdx.length := p.steps_perm.length_eq
      _ = p.size := List.length_zipIdx
      _ = declarations.length := size_of_made made
  by_cases none : declarations = []
  · have no_steps : p.steps = [] := List.length_eq_zero_iff.1 (by rw [count, none]; rfl)
    rw [no_steps, none]
    rfl
  · have some_step : p.steps ≠ [] := by
      intro no_steps
      rw [no_steps] at count
      exact none (List.length_eq_zero_iff.1 count.symm)
    rcases walkAfter_of_ne_nil .start p.ascending_steps some_step with
      ⟨⟨deepest, place⟩, there, stands, above⟩
    have greatest : (declarations.map (·.depth)).max? = some deepest.depth := by
      refine List.max?_eq_some_iff.2 ⟨?_, ?_⟩
      · exact List.mem_map_of_mem ((mem_steps_of_made made).1 there).1
      · intro depth listed
        rcases List.mem_map.1 listed with ⟨d, named, rfl⟩
        exact above _ ((mem_steps_of_made made).2 ⟨named, rfl⟩)
    have some_declaration : declarations.isEmpty = false := by
      rw [List.isEmpty_eq_false_iff]
      exact none
    rw [stands, greatest, some_declaration]
    rfl

variable {r : Resolution} {b : Binding}

/-- The bindings are what the declarations are bound to alone, each at its index. -/
theorem getElem?_bindings_iff (made : ofDeclarations declarations rootDepth = .ok p)
    (resolved : p.resolve chain memory = .ok r) :
    r.bindings[i]? = some b ↔
      ∃ d ∈ declarations, d.index = i ∧ d.bindAlone chain memory = .ok b := by
  constructor
  · intro listed
    have inside : i < p.declarations.length := by
      have bound := (List.getElem?_eq_some_iff.1 listed).1
      rw [length_bindings resolved] at bound
      exact bound
    have placed := List.getElem?_eq_getElem inside
    have ⟨named, index⟩ := (declarations_of_made made).1 placed
    rcases getElem?_bindings resolved placed with ⟨b', binds, there⟩
    rw [listed, Option.some.injEq] at there
    subst there
    exact ⟨_, named, index, Declaration.bindAlone_eq_ok_iff.2 binds⟩
  · rintro ⟨d, named, index, bound⟩
    rcases getElem?_bindings resolved ((declarations_of_made made).2 ⟨named, index⟩) with
      ⟨b', binds, there⟩
    have same := bound.symm.trans (Declaration.bindAlone_eq_ok_iff.2 binds)
    rw [there, Except.ok.inj same]

theorem exists_resolve_iff (made : ofDeclarations declarations rootDepth = .ok p) :
    (∃ r, p.resolve chain memory = .ok r) ↔
      ∀ d ∈ declarations, ∃ b, d.bindAlone chain memory = .ok b := by
  have steps : (∀ step ∈ p.steps, ∃ b, step.1.bindAlone chain memory = .ok b) ↔
      ∀ d ∈ declarations, ∃ b, d.bindAlone chain memory = .ok b := by
    constructor
    · intro succeed d named
      exact succeed (d, d.index) ((mem_steps_of_made made).2 ⟨named, rfl⟩)
    · intro succeed step there
      exact succeed step.1 ((mem_steps_of_made made).1 there).1
  rw [← steps, ← exists_bindEach_iff (List.replicate p.size .unbound),
    resolve_eq_bindEach]
  constructor
  · rintro ⟨r, resolved⟩
    rcases Except.map_eq_ok_iff.1 resolved with ⟨final, bound, -⟩
    exact ⟨final, bound⟩
  · rintro ⟨final, bound⟩
    exact ⟨_, Except.map_eq_ok_iff.2 ⟨final, bound, rfl⟩⟩

/-- A plan fails as the first of its declarations that fails alone. -/
theorem resolve_eq_error_iff (made : ofDeclarations declarations rootDepth = .ok p) :
    p.resolve chain memory = .error e ↔
      ∃ d ∈ declarations, d.bindAlone chain memory = .error e ∧
        ∀ d' ∈ declarations, d'.Precedes d → ∃ b, d'.bindAlone chain memory = .ok b := by
  rw [resolve_eq_bindEach, Except.map_eq_error_iff, bindEach_eq_error_iff]
  constructor
  · rintro ⟨earlier, d, i, rest, split, succeed, failed⟩
    have step : (d, i) ∈ p.steps := split ▸ List.mem_append_right _ List.mem_cons_self
    refine ⟨d, ((mem_steps_of_made made).1 step).1, failed, ?_⟩
    intro d' named precedes
    exact succeed _ ((mem_earlier_iff_precedes made split named).2 precedes)
  · rintro ⟨d, named, failed, succeed⟩
    rcases List.append_of_mem ((mem_steps_of_made made).2 ⟨named, rfl⟩) with ⟨earlier, rest, split⟩
    refine ⟨earlier, d, d.index, rest, split, ?_, failed⟩
    rintro ⟨d', place⟩ there
    have step : (d', place) ∈ p.steps := split ▸ List.mem_append_left _ there
    have ⟨named', index⟩ := (mem_steps_of_made made).1 step
    subst index
    exact succeed d' named' ((mem_earlier_iff_precedes made split named').1 there)

/-- The walk of a plan passes the nodes down to the deepest declaration. -/
theorem walk_of_resolve (made : ofDeclarations declarations rootDepth = .ok p)
    (resolved : p.resolve chain memory = .ok r) :
    r.visits = (if declarations.isEmpty then 0
      else 1 + (declarations.map (·.depth)).max?.getD 0) ∧
      r.deepest = (declarations.map (·.depth)).max?.getD 0 := by
  have walked : r.visits = (walkAfter .start p.steps).visits ∧
      r.deepest = (walkAfter .start p.steps).depth := by
    rw [resolve_eq_bindEach] at resolved
    rcases Except.map_eq_ok_iff.1 resolved with ⟨_, _, rfl⟩
    exact ⟨rfl, rfl⟩
  rw [walkAfter_of_made made] at walked
  cases declarations with
  | nil => exact walked
  | cons d rest => exact ⟨walked.1.trans (Nat.add_comm _ 1), walked.2⟩

theorem visits_le_length (made : ofDeclarations declarations rootDepth = .ok p)
    (resolved : p.resolve chain memory = .ok r) : r.visits ≤ chain.length := by
  have ⟨visits, _⟩ := walk_of_resolve made resolved
  cases greatest : (declarations.map (·.depth)).max? with
  | none =>
      have none : declarations = [] := List.map_eq_nil_iff.1 (List.max?_eq_none_iff.1 greatest)
      rw [none] at visits
      exact visits ▸ Nat.zero_le _
  -- the deepest declaration is bound, so its depth is one of the chain
  | some depth =>
      rcases List.mem_map.1 (List.max?_eq_some_iff.1 greatest).1 with ⟨d, named, rfl⟩
      rcases (exists_resolve_iff made).1 ⟨r, resolved⟩ d named with ⟨b, bound⟩
      have inside := Declaration.depth_lt_of_bindAlone bound
      rw [greatest, Option.getD_some] at visits
      split at visits <;> omega

/-- When a declaration is due, the walk does not stand below it. -/
theorem depth_le_of_resolveSteps {earlier : List (Declaration × Nat)}
    (split : p.steps = earlier ++ (d, i) :: rest)
    (walked : resolveSteps chain memory earlier .start bindings = .ok (final, last)) :
    last.depth ≤ d.depth := by
  have ascending := p.ascending_steps
  rw [split] at ascending
  have stands : last = walkAfter .start earlier := by
    rw [resolveSteps_eq_bindEach (List.pairwise_append.1 ascending).1 (Or.inl rfl)
      fun _ _ => Nat.zero_le _] at walked
    rcases Except.map_eq_ok_iff.1 walked with ⟨_, _, same⟩
    exact (Prod.mk.inj same).2.symm
  rw [stands]
  exact depth_walkAfter_le ascending

/-- Along a chain that reaches every declaration, a plan fails only as a declaration does at its
node.  The error has a context, and only an extractor can have made it speak of depths. -/
theorem resolve_eq_error_of_reached (made : ofDeclarations declarations rootDepth = .ok p)
    (inside : ∀ d ∈ declarations, d.depth < chain.length)
    (failed : p.resolve chain memory = .error e) :
    (∀ name depth max, e ≠ (Cause.depthOutOfRange name depth max : Error)) ∧
      ∀ name depth max, e.cause = .depthOutOfRange name depth max →
        ∃ d ∈ declarations, d.ExtractorFails chain memory (.depthOutOfRange name depth max) := by
  rcases (resolve_eq_error_iff made).1 failed with ⟨d, named, alone, -⟩
  rcases Declaration.bindAlone_of_reached memory (inside d named) with
    ⟨node, reached, same⟩
  have ⟨context, cause⟩ := Declaration.cause_of_resolve (same.symm.trans alone)
  refine ⟨?_, ?_⟩
  · rintro name depth max rfl
    cases context
  · intro name depth max deep
    rcases cause with ⟨v, mismatch⟩ | ⟨x, e', extractor, extracting, raised⟩
    · cases deep.symm.trans mismatch
    · have failing := raised.symm.trans deep
      exact ⟨d, named, node, x, e', reached, extractor, extracting, failing⟩

/-- Resolving a plan is looking up each of its declarations alone.  It succeeds exactly when every
declaration is bound alone.  Then each binding is that of the declaration of its index, the walk went
down to the deepest declaration, and it passed the nodes up to there once, or none if there is nothing
to bind.  Otherwise the error is that of the first declaration, by depth and then by index, that is
not bound alone.  No walk is ever asked to go back; and along a chain that reaches every declaration
no node is ever missed, so that only an extractor can bring up an error that speaks of depths. -/
theorem resolve_eq_bindAlone (declarations : List Declaration) (rootDepth : Nat) (p : Plan)
    (made : ofDeclarations declarations rootDepth = .ok p) (chain : Chain)
    (memory : WorkingMemory) :
    let deepest := (declarations.map (·.depth)).max?.getD 0
    ((∃ r, p.resolve chain memory = .ok r) ↔
      ∀ d ∈ declarations, ∃ b, d.bindAlone chain memory = .ok b) ∧
    (∀ r, p.resolve chain memory = .ok r →
      r.bindings.length = declarations.length ∧
      (∀ i b, r.bindings[i]? = some b ↔
        ∃ d ∈ declarations, d.index = i ∧ d.bindAlone chain memory = .ok b) ∧
      r.visits = (if declarations.isEmpty then 0 else 1 + deepest) ∧
      r.visits ≤ chain.length ∧ r.deepest = deepest) ∧
    (∀ e, p.resolve chain memory = .error e ↔
      ∃ d ∈ declarations, d.bindAlone chain memory = .error e ∧
        ∀ d' ∈ declarations, d'.Precedes d → ∃ b, d'.bindAlone chain memory = .ok b) ∧
    ((∀ d ∈ declarations, d.depth < chain.length) →
      ∀ e, p.resolve chain memory = .error e →
        (∀ name depth max, e ≠ (Cause.depthOutOfRange name depth max : Error)) ∧
        ∀ name depth max, e.cause = .depthOutOfRange name depth max →
          ∃ d ∈ declarations, d.ExtractorFails chain memory (.depthOutOfRange name depth max)) ∧
    ∀ earlier d i rest bindings walk, p.steps = earlier ++ (d, i) :: rest →
      resolveSteps chain memory earlier .start (List.replicate p.size .unbound) =
          .ok (bindings, walk) →
        walk.depth ≤ d.depth := by
  intro deepest
  refine ⟨exists_resolve_iff made, ?_, fun _ => resolve_eq_error_iff made, ?_, ?_⟩
  · intro r resolved
    have length : r.bindings.length = declarations.length :=
      (length_bindings resolved).trans (size_of_made made)
    have ⟨visits, reached⟩ := walk_of_resolve made resolved
    have bindings : ∀ i b, r.bindings[i]? = some b ↔
        ∃ d ∈ declarations, d.index = i ∧ d.bindAlone chain memory = .ok b :=
      fun _ _ => getElem?_bindings_iff made resolved
    exact ⟨length, bindings, visits, visits_le_length made resolved, reached⟩
  · intro inside e failed
    exact resolve_eq_error_of_reached made inside failed
  · intro earlier d i rest bindings walk split walked
    exact depth_le_of_resolveSteps split walked

/-- The root and the tip of a chain of three, the deeper one first. -/
def rootAndTip : List Declaration :=
  [⟨"$root", .string, 2, 0, none⟩, ⟨"$tip", .int, 0, 1, none⟩]

def threeNodes : Chain :=
  ⟨[⟨⟨0, 0⟩, .string "first"⟩, ⟨⟨1, 0⟩, .nil⟩, ⟨⟨2, 0⟩, .int 3⟩]⟩

theorem root_and_tip_resolved :
    ofDeclarations rootAndTip 2 = .ok ⟨rootAndTip, 2⟩ ∧
      ∃ r, resolve ⟨rootAndTip, 2⟩ threeNodes .empty = .ok r ∧ r.visits = 3 ∧ r.deepest = 2 ∧
        r.bindings[0]? = some ⟨.string "first", some ⟨0, 0⟩⟩ ∧
          r.bindings[1]? = some ⟨.int 3, some ⟨2, 0⟩⟩ := by
  have made : ofDeclarations rootAndTip 2 = .ok ⟨rootAndTip, 2⟩ := rfl
  have ⟨success, values, _⟩ := resolve_eq_bindAlone rootAndTip 2 _ made threeNodes .empty
  have bound : ∀ d ∈ rootAndTip, ∃ b, d.bindAlone threeNodes .empty = .ok b := by
    intro d named
    rcases List.mem_cons.1 named with rfl | named
    · exact ⟨_, rfl⟩
    · rw [List.mem_singleton.1 named]
      exact ⟨_, rfl⟩
  rcases success.2 bound with ⟨r, resolved⟩
  have ⟨_, bindings, visits, _, deepest⟩ := values r resolved
  refine ⟨made, r, resolved, visits, deepest, ?_, ?_⟩
  · exact (bindings 0 _).2 ⟨_, List.mem_cons_self, rfl, rfl⟩
  · exact (bindings 1 _).2 ⟨_, List.mem_cons_of_mem _ List.mem_cons_self, rfl, rfl⟩

end Plan
end RuleEngine
