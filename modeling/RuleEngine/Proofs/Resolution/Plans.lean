import RuleEngine.Proofs.Results
import RuleEngine.Resolution

/-!
# Plans and their resolution

Making a plan fills a row of empty places: each declaration goes to the place of its index, which
must be empty.  There are as many places as declarations, so in the end every place is filled, and
the plan holds each declaration at its index.

Resolving goes by depth and not by place.  What it binds is told apart by place all the same: the
steps are the placed declarations in another order, no two of them share a place, and each step
writes to its own place only.
-/

namespace RuleEngine
namespace Plan

/-! ## Placing -/

section Placing

variable {rootDepth : Nat} {d e : Declaration} {rest ds : List Declaration}
  {places placed : List (Option Declaration)}

/-- A declaration that is placed stands within the chain and finds its place empty. -/
theorem place_cons_eq_ok_iff :
    place rootDepth (d :: rest) places = .ok placed ↔
      d.depth ≤ rootDepth ∧ places[d.index]? = some none ∧
        place rootDepth rest (places.set d.index (some d)) = .ok placed := by
  rw [place]
  split
  · rename_i beyond
    simp [Nat.not_le.2 beyond]
  · rename_i within
    have bound := Nat.not_lt.1 within
    split
    · rename_i outside
      simp [outside]
    · rename_i previous taken
      simp [taken]
    · rename_i free
      simp [free, bound]

theorem length_place (made : place rootDepth ds places = .ok placed) :
    placed.length = places.length := by
  induction ds generalizing places with
  | nil =>
      simp only [place, Except.ok.injEq] at made
      rw [made]
  | cons d rest ih =>
      have ⟨_, _, later⟩ := place_cons_eq_ok_iff.1 made
      rw [ih later, List.length_set]

/-- Placing adds each declaration at its index and moves none. -/
theorem getElem?_place (made : place rootDepth ds places = .ok placed) (i : Nat) :
    placed[i]? = some (some e) ↔ places[i]? = some (some e) ∨ e ∈ ds ∧ e.index = i := by
  -- the row of places changes with each declaration, so it is general in the induction
  induction ds generalizing places with
  | nil =>
      simp only [place, Except.ok.injEq] at made
      simp [made]
  | cons d rest ih =>
      have ⟨_, free, later⟩ := place_cons_eq_ok_iff.1 made
      have inside : d.index < places.length := (List.getElem?_eq_some_iff.1 free).1
      rw [ih later, List.getElem?_set, List.mem_cons]
      by_cases here : d.index = i
      -- the place was free, so `d` is the only declaration that can be found there
      · subst here
        simp only [inside, if_true, free, Option.some.injEq, reduceCtorEq, false_or]
        constructor
        · rintro (rfl | ⟨named, same⟩)
          · exact ⟨Or.inl rfl, rfl⟩
          · exact ⟨Or.inr named, same⟩
        · rintro ⟨rfl | named, same⟩
          · exact Or.inl rfl
          · exact Or.inr ⟨named, same⟩
      · simp only [here, if_false]
        refine or_congr_right ⟨fun h => ⟨Or.inr h.1, h.2⟩, ?_⟩
        rintro ⟨rfl | named, same⟩
        · exact absurd same here
        · exact ⟨named, same⟩

theorem countP_place (made : place rootDepth ds places = .ok placed) :
    placed.countP Option.isSome = places.countP Option.isSome + ds.length := by
  induction ds generalizing places with
  | nil =>
      simp only [place, Except.ok.injEq] at made
      rw [made, List.length_nil, Nat.add_zero]
  | cons d rest ih =>
      have ⟨_, free, later⟩ := place_cons_eq_ok_iff.1 made
      have ⟨inside, empty⟩ := List.getElem?_eq_some_iff.1 free
      have filled : (places.set d.index (some d)).countP Option.isSome =
          places.countP Option.isSome + 1 := by
        rw [List.countP_set inside, empty]
        rfl
      calc
        placed.countP Option.isSome
            = (places.set d.index (some d)).countP Option.isSome + rest.length := ih later
        _ = places.countP Option.isSome + 1 + rest.length := by rw [filled]
        _ = places.countP Option.isSome + (d :: rest).length := by
              rw [List.length_cons]
              omega

/-- A row without empty places is the row of what fills them. -/
theorem eq_map_some_of_full (full : ∀ o ∈ placed, o.isSome) :
    placed = (placed.filterMap id).map some := by
  induction placed with
  | nil => rfl
  | cons o rest ih =>
      have ⟨first, later⟩ := List.forall_mem_cons.1 full
      rcases Option.isSome_iff_exists.1 first with ⟨d, rfl⟩
      rw [List.filterMap_cons_some (f := id) rfl, List.map_cons, ← ih later]

variable {plan : Plan}

theorem ofDeclarations_eq_ok (made : ofDeclarations ds rootDepth = .ok plan) :
    ∃ placed, place rootDepth ds (List.replicate ds.length none) = .ok placed ∧
      placed = plan.declarations.map some := by
  rcases Except.map_eq_ok_iff.1 made with ⟨placed, hplaced, rfl⟩
  refine ⟨placed, hplaced, eq_map_some_of_full (List.countP_eq_length.1 ?_)⟩
  -- as many places were filled as there are
  rw [countP_place hplaced, length_place hplaced, List.countP_replicate, List.length_replicate]
  simp

theorem size_of_made (made : ofDeclarations ds rootDepth = .ok plan) : plan.size = ds.length := by
  rcases ofDeclarations_eq_ok made with ⟨placed, hplaced, same⟩
  calc
    plan.size = placed.length := by rw [same, List.length_map, size]
    _ = (List.replicate ds.length (none : Option Declaration)).length := length_place hplaced
    _ = ds.length := List.length_replicate

/-- A plan that was made holds the given declarations, each at its index. -/
theorem declarations_of_made (made : ofDeclarations ds rootDepth = .ok plan) {i : Nat} :
    plan.declarations[i]? = some d ↔ d ∈ ds ∧ d.index = i := by
  rcases ofDeclarations_eq_ok made with ⟨placed, hplaced, same⟩
  have at_index := getElem?_place (e := d) hplaced i
  rw [same, List.getElem?_map, List.getElem?_replicate] at at_index
  -- at first no place holds a declaration
  have empty : ¬ (if i < ds.length then some (none : Option Declaration) else none) =
      some (some d) := by
    split <;> simp
  simpa [empty] using at_index

theorem mem_declarations_of_made (made : ofDeclarations ds rootDepth = .ok plan) :
    d ∈ plan.declarations ↔ d ∈ ds := by
  simp [List.mem_iff_getElem?, declarations_of_made made]

end Placing

/-! ## Steps -/

theorem steps_perm (p : Plan) : p.steps.Perm p.declarations.zipIdx :=
  List.mergeSort_perm _ _

theorem mem_steps_iff {p : Plan} {d : Declaration} {i : Nat} :
    (d, i) ∈ p.steps ↔ p.declarations[i]? = some d := by
  rw [p.steps_perm.mem_iff, List.mem_zipIdx_iff_getElem?]

theorem nodup_order (p : Plan) : p.order.Nodup := by
  have places := p.steps_perm.map Prod.snd
  rw [List.zipIdx_map_snd] at places
  exact places.nodup_iff.2 List.nodup_range'

/-! ## Resolving -/

section Resolving

variable {chain : Chain} {memory : WorkingMemory} {walk last : Walk} {d : Declaration}
  {place i : Nat} {rest steps : List (Declaration × Nat)} {bindings final : List Binding} {b : Binding}

theorem node?_of_ascend {node : Node} {depth : Nat}
    (ascended : walk.ascend chain depth = some (node, last)) : chain.node? depth = some node := by
  unfold Walk.ascend at ascended
  split at ascended
  · cases ascended
  · rcases Option.map_eq_some_iff.1 ascended with ⟨found, hfound, same⟩
    simp only [Prod.mk.injEq] at same
    rw [hfound, same.1]

/-- A declaration was bound at its node. -/
def Binds (chain : Chain) (memory : WorkingMemory) (d : Declaration) (b : Binding) : Prop :=
  ∃ node, chain.node? d.depth = some node ∧ Binding.resolve d memory node = .ok b

theorem resolveSteps_cons_eq_ok
    (resolved : resolveSteps chain memory ((d, place) :: rest) walk bindings = .ok (final, last)) :
    ∃ b walk', Binds chain memory d b ∧
      resolveSteps chain memory rest walk' (bindings.set place b) = .ok (final, last) := by
  unfold resolveSteps at resolved
  split at resolved
  · cases resolved
  · rename_i node walk' ascended
    split at resolved
    · cases resolved
    · rename_i b bound
      exact ⟨b, walk', ⟨node, node?_of_ascend ascended, bound⟩, resolved⟩

/-- Steps write to their own places only. -/
theorem resolveSteps_keeps
    (resolved : resolveSteps chain memory steps walk bindings = .ok (final, last))
    (elsewhere : i ∉ steps.map (·.2)) : final[i]? = bindings[i]? := by
  induction steps generalizing walk bindings with
  | nil =>
      simp only [resolveSteps, Except.ok.injEq, Prod.mk.injEq] at resolved
      rw [resolved.1]
  | cons step rest ih =>
      rcases step with ⟨d, place⟩
      rcases resolveSteps_cons_eq_ok resolved with ⟨b, walk', -, later⟩
      simp only [List.map_cons, List.mem_cons, not_or] at elsewhere
      rw [ih later elsewhere.2, List.getElem?_set_ne (Ne.symm elsewhere.1)]

theorem length_resolveSteps
    (resolved : resolveSteps chain memory steps walk bindings = .ok (final, last)) :
    final.length = bindings.length := by
  induction steps generalizing walk bindings with
  | nil =>
      simp only [resolveSteps, Except.ok.injEq, Prod.mk.injEq] at resolved
      rw [resolved.1]
  | cons step rest ih =>
      rcases step with ⟨d, place⟩
      rcases resolveSteps_cons_eq_ok resolved with ⟨b, walk', -, later⟩
      rw [ih later, List.length_set]

/-- Each step leaves the binding of its declaration at its place. -/
theorem resolveSteps_binds
    (resolved : resolveSteps chain memory steps walk bindings = .ok (final, last))
    (distinct : (steps.map (·.2)).Nodup) (step : (d, i) ∈ steps) (inside : i < bindings.length) :
    ∃ b, Binds chain memory d b ∧ final[i]? = some b := by
  induction steps generalizing walk bindings with
  | nil => cases step
  | cons first rest ih =>
      rcases first with ⟨d', place⟩
      rcases resolveSteps_cons_eq_ok resolved with ⟨b, walk', bound, later⟩
      rw [List.map_cons, List.nodup_cons] at distinct
      rcases List.mem_cons.1 step with same | step
      · simp only [Prod.mk.injEq] at same
        rcases same with ⟨rfl, rfl⟩
        refine ⟨b, bound, ?_⟩
        -- later steps have other places
        rw [resolveSteps_keeps later distinct.1, List.getElem?_set_self inside]
      · exact ih later distinct.2 step (by rw [List.length_set]; exact inside)

variable {p : Plan} {r : Resolution}

theorem resolve_eq_ok (resolved : p.resolve chain memory = .ok r) :
    ∃ walk, resolveSteps chain memory p.steps .start (List.replicate p.size .unbound) =
      .ok (r.bindings, walk) := by
  rcases Except.map_eq_ok_iff.1 resolved with ⟨⟨bindings, walk⟩, hsteps, rfl⟩
  exact ⟨walk, hsteps⟩

theorem length_bindings (resolved : p.resolve chain memory = .ok r) :
    r.bindings.length = p.size := by
  rcases resolve_eq_ok resolved with ⟨walk, hsteps⟩
  calc
    r.bindings.length = (List.replicate p.size Binding.unbound).length := length_resolveSteps hsteps
    _ = p.size := List.length_replicate

/-- Resolving a plan binds each of its declarations at its place, whatever the order of depths. -/
theorem getElem?_bindings (resolved : p.resolve chain memory = .ok r)
    (placed : p.declarations[i]? = some d) :
    ∃ b, Binds chain memory d b ∧ r.bindings[i]? = some b := by
  rcases resolve_eq_ok resolved with ⟨walk, hsteps⟩
  refine resolveSteps_binds hsteps p.nodup_order (mem_steps_iff.2 placed) ?_
  rw [List.length_replicate]
  exact (List.getElem?_eq_some_iff.1 placed).1

end Resolving

end Plan
end RuleEngine
