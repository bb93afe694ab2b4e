import Mathlib.Data.List.Nodup
import Mathlib.Data.List.Perm.Subperm
import RuleEngine.Proofs.Resolution.SinglePass
import RuleEngine.Proofs.Rule.Arguments

/-!
# Which declarations make a plan

A declaration is refused when it stands below the root, when its index lies beyond the number of
declarations, or when its place is taken.  Nothing looks for a place that stays empty: indices that
are different, all of them below their number, are the numbers from zero on in some order.

So a list of declarations makes a plan exactly when no declaration stands below the root and the
indices are a permutation.  Neither depends on the order of the list, and the plan does not either:
its declarations are those of the list in the order of their indices, and its order of resolution is
the only one that ascends by depth and then by index.
-/

namespace RuleEngine
namespace Plan

variable {rootDepth count : Nat} {d : Declaration} {ds es earlier : List Declaration}
  {places placed : List (Option Declaration)} {plan : Plan} {e : Error}

/-! ## Placing -/

theorem place_eq_foldlM (rootDepth : Nat) (ds : List Declaration)
    (places : List (Option Declaration)) :
    place rootDepth ds places = ds.foldlM (fun places d => place rootDepth [d] places) places := by
  induction ds generalizing places with
  | nil => rfl
  | cons d rest ih =>
      rw [List.foldlM_cons]
      simp only [place]
      split
      · rfl
      · split
        · rfl
        · rfl
        · exact ih _

/-- The declarations stand within the chain, each at a place of its own among the given number. -/
structure Placeable (rootDepth count : Nat) (ds : List Declaration) : Prop where
  within : ∀ d ∈ ds, d.depth ≤ rootDepth
  inside : ∀ d ∈ ds, d.index < count
  apart : (ds.map (·.index)).Nodup

/-- Declarations can be placed when their places are free and differ. -/
theorem exists_place_iff :
    (∃ placed, place rootDepth ds places = .ok placed) ↔
      (∀ d ∈ ds, d.depth ≤ rootDepth ∧ places[d.index]? = some none) ∧
        (ds.map (·.index)).Nodup := by
  induction ds generalizing places with
  | nil => simp [place]
  | cons d rest ih =>
      -- what is free after `d` was placed is what was free before, without the place of `d`
      have free_after : places[d.index]? = some none → ∀ d' : Declaration,
          (places.set d.index (some d))[d'.index]? = some none ↔
            d'.index ≠ d.index ∧ places[d'.index]? = some none := by
        intro free d'
        have inside : d.index < places.length := (List.getElem?_eq_some_iff.1 free).1
        by_cases same : d.index = d'.index
        · simp [← same, inside]
        · simp [List.getElem?_set_ne same, Ne.symm same]
      simp only [place_cons_eq_ok_iff, exists_and_left, ih, List.forall_mem_cons, List.map_cons,
        List.nodup_cons, List.mem_map, not_exists, not_and]
      constructor
      · rintro ⟨bound, free, later, distinct⟩
        refine ⟨⟨⟨bound, free⟩, fun d' named => ?_⟩, fun d' named => ?_, distinct⟩
        · exact ⟨(later d' named).1, ((free_after free d').1 (later d' named).2).2⟩
        · exact ((free_after free d').1 (later d' named).2).1
      · rintro ⟨⟨⟨bound, free⟩, later⟩, new, distinct⟩
        refine ⟨bound, free, fun d' named => ?_, distinct⟩
        exact ⟨(later d' named).1, (free_after free d').2 ⟨new d' named, (later d' named).2⟩⟩

theorem exists_place_replicate_iff :
    (∃ placed, place rootDepth ds (List.replicate count none) = .ok placed) ↔
      Placeable rootDepth count ds := by
  rw [exists_place_iff]
  simp only [List.getElem?_replicate, ite_eq_left_iff, reduceCtorEq, imp_false, Decidable.not_not]
  constructor
  · rintro ⟨each, apart⟩
    exact ⟨fun d named => (each d named).1, fun d named => (each d named).2, apart⟩
  · rintro ⟨within, inside, apart⟩
    exact ⟨fun d named => ⟨within d named, inside d named⟩, apart⟩

/-! ## Refusals -/

/-- Why a declaration is refused, when the earlier ones were given places among the given number. -/
inductive Refuses (rootDepth count : Nat) (earlier : List Declaration) (d : Declaration) :
    Cause → Prop where
  | tooDeep (beyond : rootDepth < d.depth) :
      Refuses rootDepth count earlier d (.depthOutOfRange d.name d.depth rootDepth)
  | outside (within : d.depth ≤ rootDepth) (outside : count ≤ d.index) :
      Refuses rootDepth count earlier d
        (.invalidDeclaration
          s!"{d.name} has index {d.index} but only {count} declarations exist")
  | taken {previous : Declaration} (within : d.depth ≤ rootDepth) (named : previous ∈ earlier)
      (same : previous.index = d.index) :
      Refuses rootDepth count earlier d
        (.invalidDeclaration s!"{previous.name} and {d.name} share index {d.index}")

/-- A declaration that is refused leaves no way to place the earlier ones with it. -/
theorem Refuses.not_placeable {cause : Cause} {later : List Declaration}
    (refused : Refuses rootDepth count earlier d cause) :
    ¬ Placeable rootDepth count (earlier ++ d :: later) := by
  rintro ⟨within, inside, apart⟩
  have named : d ∈ earlier ++ d :: later := List.mem_append_right _ List.mem_cons_self
  cases refused with
  | tooDeep beyond => exact Nat.not_le.2 beyond (within d named)
  | outside _ outside => exact Nat.not_le.2 (inside d named) outside
  | taken _ there same =>
      rw [List.map_append, List.map_cons] at apart
      have other := (List.nodup_append.1 apart).2.2
      exact other _ (List.mem_map_of_mem there) _ List.mem_cons_self same

theorem place_singleton_eq_error_iff
    (made : place rootDepth earlier (List.replicate count none) = .ok placed) :
    place rootDepth [d] placed = .error e ↔
      ∃ cause, Refuses rootDepth count earlier d cause ∧ e = (cause : Error) := by
  have length : placed.length = count := by
    simpa using length_place made
  -- no place was taken before the earlier declarations were placed
  have taken : ∀ previous, placed[d.index]? = some (some previous) ↔
      previous ∈ earlier ∧ previous.index = d.index := by
    intro previous
    have at_index := getElem?_place (e := previous) made d.index
    simpa [List.getElem?_replicate] using at_index
  constructor
  · intro failed
    unfold place at failed
    split at failed
    · rename_i beyond
      exact ⟨_, .tooDeep beyond, (Except.error.inj failed).symm⟩
    · rename_i within
      have within := Nat.not_lt.1 within
      split at failed
      · rename_i outside
        have beyond : count ≤ d.index := length ▸ List.getElem?_eq_none_iff.1 outside
        exact ⟨_, .outside within beyond, by simpa [length] using (Except.error.inj failed).symm⟩
      · rename_i previous there
        obtain ⟨named, same⟩ := (taken previous).1 there
        exact ⟨_, .taken within named same, (Except.error.inj failed).symm⟩
      · cases failed
  · rintro ⟨cause, refused, rfl⟩
    cases refused with
    | tooDeep beyond => simp [place, beyond]
    | outside within outside =>
        have missed : placed[d.index]? = none := List.getElem?_eq_none_iff.2 (length ▸ outside)
        simp [place, Nat.not_lt.2 within, missed, length]
    | taken within named same =>
        have there := (taken _).2 ⟨named, same⟩
        simp [place, Nat.not_lt.2 within, there]

/-- A list of declarations is refused for the first of them that is. -/
theorem ofDeclarations_eq_error_iff :
    ofDeclarations ds rootDepth = .error e ↔
      ∃ earlier d later cause, ds = earlier ++ d :: later ∧
        Placeable rootDepth ds.length earlier ∧ Refuses rootDepth ds.length earlier d cause ∧
          e = (cause : Error) := by
  rw [ofDeclarations, Except.map_eq_error_iff, place_eq_foldlM, Except.foldlM_eq_error_iff]
  simp only [← place_eq_foldlM]
  constructor
  · rintro ⟨earlier, d, later, placed, split, made, failed⟩
    obtain ⟨cause, refused, same⟩ := (place_singleton_eq_error_iff made).1 failed
    have fine := exists_place_replicate_iff.1 ⟨placed, made⟩
    exact ⟨earlier, d, later, cause, split, fine, refused, same⟩
  · rintro ⟨earlier, d, later, cause, split, fine, refused, same⟩
    obtain ⟨placed, made⟩ := exists_place_replicate_iff.2 fine
    have failed := (place_singleton_eq_error_iff made).2 ⟨cause, refused, same⟩
    exact ⟨earlier, d, later, placed, split, made, failed⟩

/-! ## Lists that make a plan -/

theorem exists_ofDeclarations_iff :
    (∃ plan, ofDeclarations ds rootDepth = .ok plan) ↔ Placeable rootDepth ds.length ds := by
  rw [← exists_place_replicate_iff]
  constructor
  · rintro ⟨plan, made⟩
    obtain ⟨placed, hplaced, -⟩ := Except.map_eq_ok_iff.1 made
    exact ⟨placed, hplaced⟩
  · rintro ⟨placed, hplaced⟩
    exact ⟨_, Except.map_eq_ok_iff.2 ⟨placed, hplaced, rfl⟩⟩

/-- As many different indices as there are places leave no place empty. -/
theorem placeable_iff_perm :
    Placeable rootDepth ds.length ds ↔
      (∀ d ∈ ds, d.depth ≤ rootDepth) ∧ (ds.map (·.index)).Perm (List.range ds.length) := by
  constructor
  · rintro ⟨within, inside, apart⟩
    refine ⟨within, ?_⟩
    have below : ds.map (·.index) ⊆ List.range ds.length := by
      intro i listed
      obtain ⟨d, named, rfl⟩ := List.mem_map.1 listed
      exact List.mem_range.2 (inside d named)
    apply (List.subperm_of_subset apart below).perm_of_length_le
    simp
  · rintro ⟨within, perm⟩
    refine ⟨within, fun d named => ?_, perm.nodup_iff.2 List.nodup_range⟩
    exact List.mem_range.1 (perm.mem_iff.1 (List.mem_map_of_mem named))

theorem Placeable.perm (fine : Placeable rootDepth count ds) (perm : es.Perm ds) :
    Placeable rootDepth count es where
  within d named := fine.within d (perm.mem_iff.1 named)
  inside d named := fine.inside d (perm.mem_iff.1 named)
  apart := (perm.map _).nodup_iff.2 fine.apart

/-! ## The declarations of a plan -/

theorem placeable_of_made (made : ofDeclarations ds rootDepth = .ok plan) :
    Placeable rootDepth ds.length ds :=
  exists_ofDeclarations_iff.1 ⟨plan, made⟩

theorem map_index_of_made (made : ofDeclarations ds rootDepth = .ok plan) :
    plan.declarations.map (·.index) = List.range plan.size := by
  apply List.ext_getElem
  · simp [size]
  · intro i listed _
    have inside : i < plan.declarations.length := by simpa using listed
    have at_index := (declarations_of_made made).1 (List.getElem?_eq_getElem inside)
    simpa using at_index.2

/-- The declarations of a plan ascend by index. -/
theorem ascending_of_made (made : ofDeclarations ds rootDepth = .ok plan) :
    plan.declarations.Pairwise fun a b => a.index < b.index := by
  have ascending : (plan.declarations.map (·.index)).Pairwise (· < ·) := by
    simpa [map_index_of_made made] using List.pairwise_lt_range
  exact List.pairwise_map.1 ascending

theorem perm_of_made (made : ofDeclarations ds rootDepth = .ok plan) :
    plan.declarations.Perm ds := by
  -- declarations with different indices are different, so none is lost among the others
  have distinct : ds.Nodup := List.Nodup.of_map _ (placeable_of_made made).apart
  have kept : plan.declarations.Nodup := by
    refine (ascending_of_made made).imp ?_
    rintro a b below rfl
    exact Nat.lt_irrefl _ below
  exact (List.perm_ext_iff_of_nodup kept distinct).2 fun d => mem_declarations_of_made made

/-- The declarations of a plan are the given ones, in the only order that ascends by index. -/
theorem eq_declarations_iff (made : ofDeclarations ds rootDepth = .ok plan) :
    es = plan.declarations ↔ es.Perm ds ∧ es.Pairwise fun a b => a.index < b.index := by
  constructor
  · rintro rfl
    exact ⟨perm_of_made made, ascending_of_made made⟩
  · rintro ⟨perm, ascending⟩
    refine List.Perm.eq_of_pairwise (fun a b _ _ below above => ?_) ascending
      (ascending_of_made made) (perm.trans (perm_of_made made).symm)
    exact absurd above (Nat.not_lt_of_lt below)

/-! ## The order of resolution -/

/-- The declaration at one place comes before the one at another: by depth, then by index. -/
def ResolvesBefore (p : Plan) (i j : Nat) : Prop :=
  ∃ a b, p.declarations[i]? = some a ∧ p.declarations[j]? = some b ∧ a.Precedes b

theorem order_perm (p : Plan) : p.order.Perm (List.range p.size) := by
  have places := p.steps_perm.map Prod.snd
  rw [List.zipIdx_map_snd, ← List.range_eq_range'] at places
  exact places

theorem pairwise_order (made : ofDeclarations ds rootDepth = .ok plan) :
    plan.order.Pairwise plan.ResolvesBefore := by
  have distinct : plan.steps.Pairwise fun a b => a.2 ≠ b.2 := List.pairwise_map.1 plan.nodup_order
  apply List.pairwise_map.2
  apply (plan.pairwise_steps.and distinct).imp_of_mem
  rintro ⟨a, i⟩ ⟨b, j⟩ step step' ⟨earlier, apart⟩
  have at_i := ((mem_steps_of_made made).1 step).2
  have at_j := ((mem_steps_of_made made).1 step').2
  refine ⟨a, b, mem_steps_iff.1 step, mem_steps_iff.1 step', ?_⟩
  simp only [before_iff] at earlier apart
  unfold Declaration.Precedes
  omega

/-- The order of a plan lists all places, in the only order that ascends by depth and then by
index. -/
theorem eq_order_iff (made : ofDeclarations ds rootDepth = .ok plan) (order : List Nat) :
    order = plan.order ↔
      order.Perm (List.range ds.length) ∧ order.Pairwise plan.ResolvesBefore := by
  have perm : plan.order.Perm (List.range ds.length) := size_of_made made ▸ plan.order_perm
  constructor
  · rintro rfl
    exact ⟨perm, pairwise_order made⟩
  · rintro ⟨perm', ascending⟩
    refine List.Perm.eq_of_pairwise (fun i j _ _ first second => ?_) ascending
      (pairwise_order made) (perm'.trans perm.symm)
    -- no two places come before each other
    obtain ⟨a, b, at_i, at_j, precedes⟩ := first
    obtain ⟨b', a', at_j', at_i', precedes'⟩ := second
    rw [at_i, Option.some.injEq] at at_i'
    rw [at_j, Option.some.injEq] at at_j'
    subst at_i' at_j'
    unfold Declaration.Precedes at precedes precedes'
    omega

/-! ## Lists in another order -/

theorem rootDepth_of_made (made : ofDeclarations ds rootDepth = .ok plan) :
    plan.rootDepth = rootDepth := by
  obtain ⟨_, -, rfl⟩ := Except.map_eq_ok_iff.1 made
  rfl

/-- A plan depends on the depth of the root and on the declarations, but not on their order. -/
theorem eq_of_made_perm {plan' : Plan} (made : ofDeclarations ds rootDepth = .ok plan)
    (made' : ofDeclarations es rootDepth = .ok plan') (perm : es.Perm ds) : plan' = plan := by
  have declarations : plan'.declarations = plan.declarations :=
    (eq_declarations_iff made).2 ⟨(perm_of_made made').trans perm, ascending_of_made made'⟩
  have root : plan'.rootDepth = plan.rootDepth :=
    (rootDepth_of_made made').trans (rootDepth_of_made made).symm
  cases plan
  cases plan'
  simp_all

/-- Neither list makes a plan.  The two may be refused for different reasons. -/
def BothRefused (ds es : List Declaration) (rootDepth : Nat) : Prop :=
  ∃ e e', ofDeclarations ds rootDepth = .error e ∧ ofDeclarations es rootDepth = .error e'

/-- Lists of the same declarations are both refused, or they make the same plan. -/
theorem ofDeclarations_perm (rootDepth : Nat) (perm : es.Perm ds) :
    BothRefused ds es rootDepth ∨
      ∃ plan, ofDeclarations ds rootDepth = .ok plan ∧ ofDeclarations es rootDepth = .ok plan := by
  have accepted : (∃ plan, ofDeclarations es rootDepth = .ok plan) ↔
      ∃ plan, ofDeclarations ds rootDepth = .ok plan := by
    simp only [exists_ofDeclarations_iff, perm.length_eq]
    exact ⟨fun fine => fine.perm perm.symm, fun fine => fine.perm perm⟩
  cases made : ofDeclarations ds rootDepth with
  | error e =>
      cases made' : ofDeclarations es rootDepth with
      | error e' => exact Or.inl ⟨e, e', made, made'⟩
      | ok plan' =>
          obtain ⟨plan, contra⟩ := accepted.1 ⟨plan', made'⟩
          cases made.symm.trans contra
  | ok plan =>
      obtain ⟨plan', made'⟩ := accepted.2 ⟨plan, made⟩
      exact Or.inr ⟨plan, rfl, eq_of_made_perm made made' perm ▸ made'⟩

end Plan

theorem Rule.rootDepthFor_perm {ds es : List Declaration} (rule : Rule) (perm : es.Perm ds) :
    rule.rootDepthFor es = rule.rootDepthFor ds := by
  have same : deepest es = deepest ds := perm.foldl_eq' (fun a _ b _ depth => by omega) 0
  rw [rootDepthFor, rootDepthFor, same]

/-- When the declarations of a rule make a plan, the build of the rule does not depend on their
order. -/
theorem Consequence.build_perm {es : List Declaration} {plan : Plan} (settings : Settings)
    (name : String) (source : RuleSource) (perm : es.Perm source.declarations)
    (made : Plan.ofDeclarations source.declarations
      (source.rule.rootDepthFor source.declarations) = .ok plan) :
    build settings name { source with declarations := es } = build settings name source := by
  have made' : Plan.ofDeclarations es (source.rule.rootDepthFor es) = .ok plan := by
    rw [source.rule.rootDepthFor_perm perm]
    rcases Plan.ofDeclarations_perm _ perm with ⟨e, _, refused, -⟩ | ⟨plan', accepted, same⟩
    · cases made.symm.trans refused
    · rw [same, ← accepted, made]
  simp only [build, made, made']

namespace Plan

/-- A list of declarations makes a plan exactly when none of them stands below the root and their
indices are a permutation of the numbers below their number.  The declarations of the plan are those
of the list, none lost and none twice, in the one order that ascends by index; its order of
resolution lists their places in the one order that ascends by depth and then by index.

So the order of the list does not count.  Two lists of the same declarations are both refused, for
chains of any depth, or they make the same plan.  In the second case resolving the one along a chain
is resolving the other, and building a rule from the one is building it from the other, down to the
error if it fails, so that a firing gets the same arguments. -/
theorem ofDeclarations_accepts_permutations (declarations : List Declaration) (rootDepth : Nat) :
    ((∃ plan, ofDeclarations declarations rootDepth = .ok plan) ↔
      (∀ d ∈ declarations, d.depth ≤ rootDepth) ∧
        (declarations.map (·.index)).Perm (List.range declarations.length)) ∧
    (∀ plan, ofDeclarations declarations rootDepth = .ok plan →
      plan.rootDepth = rootDepth ∧
      (∀ listed, listed = plan.declarations ↔
        listed.Perm declarations ∧ listed.Pairwise fun a b => a.index < b.index) ∧
      ∀ order, order = plan.order ↔
        order.Perm (List.range declarations.length) ∧ order.Pairwise plan.ResolvesBefore) ∧
    ∀ declarations', declarations'.Perm declarations →
      (BothRefused declarations declarations' rootDepth ∨
        ∃ plan, ofDeclarations declarations rootDepth = .ok plan ∧
          ofDeclarations declarations' rootDepth = .ok plan) ∧
      (∀ chain memory, BothRefused declarations declarations' (chain.rootDepth?.getD 0) ∨
        resolveOnce declarations' chain memory = resolveOnce declarations chain memory) ∧
      ∀ settings name source, source.declarations = declarations →
        let source' : RuleSource := { source with declarations := declarations' }
        BothRefused declarations declarations' (source.rule.rootDepthFor declarations) ∨
          Consequence.build settings name source' = Consequence.build settings name source ∧
            ∀ firing,
              (Consequence.build settings name source').bind (·.arguments firing) =
                (Consequence.build settings name source).bind (·.arguments firing) := by
  refine ⟨exists_ofDeclarations_iff.trans placeable_iff_perm, ?_, ?_⟩
  · intro plan made
    exact ⟨rootDepth_of_made made, fun listed => eq_declarations_iff made, eq_order_iff made⟩
  · intro declarations' perm
    refine ⟨ofDeclarations_perm rootDepth perm, ?_, ?_⟩
    · intro chain memory
      refine (ofDeclarations_perm _ perm).imp_right ?_
      rintro ⟨plan, made, made'⟩
      rw [resolveOnce, resolveOnce, made, made']
    · rintro settings name source rfl source'
      refine (ofDeclarations_perm _ perm).imp_right ?_
      rintro ⟨plan, made, -⟩
      have same := Consequence.build_perm settings name source perm made
      exact ⟨same, fun firing => by rw [same]⟩

/-- Listed the other way round, the declarations of a root and a tip make the same plan. -/
theorem tip_and_root_accepted :
    ∃ plan, ofDeclarations rootAndTip.reverse 2 = .ok plan ∧ ofDeclarations rootAndTip 2 = .ok plan ∧
      plan.declarations = rootAndTip ∧ plan.order = [1, 0] := by
  obtain ⟨accepted, made, reordered⟩ := ofDeclarations_accepts_permutations rootAndTip.reverse 2
  obtain ⟨plan, hplan⟩ := accepted.2 ⟨by decide, List.Perm.swap 0 1 []⟩
  obtain ⟨_, declarations, order⟩ := made plan hplan
  have listed : rootAndTip = plan.declarations :=
    (declarations _).2 ⟨(List.reverse_perm _).symm, by simp [rootAndTip]⟩
  have resolved : [1, 0] = plan.order := by
    refine (order _).2 ⟨List.Perm.swap 0 1 [], ?_⟩
    simp [ResolvesBefore, ← listed, rootAndTip, Declaration.Precedes]
  obtain ⟨either, _⟩ := reordered rootAndTip (List.reverse_perm _).symm
  rcases either with ⟨_, _, refused, -⟩ | ⟨plan', same, there⟩
  · cases hplan.symm.trans refused
  · have there : ofDeclarations rootAndTip 2 = .ok plan := by rw [there, ← same, hplan]
    exact ⟨plan, hplan, there, listed.symm, resolved.symm⟩

end Plan
end RuleEngine
