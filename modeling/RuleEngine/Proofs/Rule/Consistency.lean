import RuleEngine.Proofs.Resolution.Acceptance

/-!
# Which rules can be built

A build checks four things, one after the other: that no declaration stands below the root, that the
indices of the declarations are a permutation, that the globals are declared, and that the action asks
for what the rule passes.  `Consistent` says the same of a rule without any plan or layout.

A rule is built exactly when it is consistent.  Otherwise the build reports the first of the checks
that fails, and `Defect` says what that is.  A rule that does not fix the depth of its chains takes it
from its declarations, so none of these stands too deep.
-/

namespace RuleEngine

/-! ## Globals and their types -/

namespace Rule

variable {types : GlobalTypes} {names : List String} {typed : List (String × Ty)} {e : Error}

/-- A global with its declared type. -/
def withType (types : GlobalTypes) (name : String) : Except Error (String × Ty) :=
  match types.find? name with
  | none => .error (Cause.unresolvedGlobal name)
  | some type => .ok (name, type)

theorem withTypes_eq_mapM (types : GlobalTypes) (names : List String) :
    withTypes types names = names.mapM (withType types) := by
  induction names with
  | nil => rfl
  | cons name rest ih =>
      rw [List.mapM_cons, withTypes, withType, ih]
      cases types.find? name with
      | none => rfl
      | some type => cases rest.mapM (withType types) <;> rfl

theorem exists_withType_iff {name : String} :
    (∃ g, withType types name = .ok g) ↔ types.contains name = true := by
  unfold withType Table.contains
  cases types.find? name <;> simp

theorem exists_withTypes_iff :
    (∃ typed, withTypes types names = .ok typed) ↔ ∀ name ∈ names, types.contains name = true := by
  rw [withTypes_eq_mapM, Except.exists_mapM_iff]
  simp only [exists_withType_iff]

/-- The first global without a declared type is reported. -/
theorem withTypes_eq_error_iff :
    withTypes types names = .error e ↔
      ∃ earlier name later, names = earlier ++ name :: later ∧
        (∀ g ∈ earlier, types.contains g = true) ∧ types.contains name = false ∧
          e = (Cause.unresolvedGlobal name : Error) := by
  have single : ∀ name, withType types name = .error e ↔
      types.contains name = false ∧ e = (Cause.unresolvedGlobal name : Error) := by
    intro name
    unfold withType Table.contains
    cases types.find? name <;> simp [eq_comm]
  rw [withTypes_eq_mapM, Except.mapM_eq_error_iff]
  simp only [exists_withType_iff, single]

/-! ## The depth of the root -/

/-- Without a depth of its own, a rule takes that of its deepest declaration, or zero. -/
theorem rootDepthFor_eq (rule : Rule) (declarations : List Declaration) :
    rule.rootDepthFor declarations =
      rule.rootDepth.getD ((declarations.map (·.depth)).max?.getD 0) := by
  have deepest_eq : deepest declarations = (declarations.map (·.depth)).max?.getD 0 := by
    cases declarations with
    | nil => rfl
    | cons d rest =>
        rw [deepest, List.foldl_cons, List.map_cons, List.max?_cons', Option.getD_some,
          List.foldl_map, Nat.zero_max]
  rw [rootDepthFor, deepest_eq]

theorem le_deepest {declarations : List Declaration} {d : Declaration} (named : d ∈ declarations) :
    d.depth ≤ (declarations.map (·.depth)).max?.getD 0 :=
  List.le_max?_getD_of_mem (List.mem_map_of_mem named)

end Rule

/-! ## Signatures -/

/-- A row is one of pairs and a rest when it has what they have, position by position. -/
theorem eq_pairs_append_iff {α β : Type} {row rest : List β} {xs : List α} {f g : α → β} :
    row = (xs.flatMap fun x => [f x, g x]) ++ rest ↔
      row.length = 2 * xs.length + rest.length ∧
        (∀ (i : Nat) x, xs[i]? = some x → row[2 * i]? = some (f x) ∧ row[2 * i + 1]? = some (g x)) ∧
          ∀ (j : Nat) y, rest[j]? = some y → row[2 * xs.length + j]? = some y := by
  have length := length_pairs xs f g
  constructor
  · rintro rfl
    refine ⟨by rw [List.length_append, length], ?_, fun j y at_j => ?_⟩
    · exact fun i x at_i => getElem?_pairs_append xs f g rest at_i
    · rw [getElem?_append_pairs, at_j]
  · rintro ⟨same_length, pairs, others⟩
    apply List.ext_getElem?
    intro k
    rcases Nat.lt_or_ge k (2 * xs.length) with inside | beyond
    · -- `k` is one of the positions of the pair `k / 2`
      have at_pair : xs[k / 2]? = some xs[k / 2] := List.getElem?_eq_getElem (by omega)
      obtain ⟨first, second⟩ := getElem?_pairs_append xs f g rest at_pair
      obtain ⟨first', second'⟩ := pairs _ _ at_pair
      rcases Nat.mod_two_eq_zero_or_one k with even | odd
      · have position : 2 * (k / 2) = k := by omega
        rw [← position, first, first']
      · have position : 2 * (k / 2) + 1 = k := by omega
        rw [← position, second, second']
    · obtain ⟨j, rfl⟩ := Nat.exists_eq_add_of_le beyond
      rw [getElem?_append_pairs]
      cases at_j : rest[j]? with
      | some y => exact others j y at_j
      | none =>
          have past := List.getElem?_eq_none_iff.1 at_j
          exact List.getElem?_eq_none_iff.2 (by omega)

namespace Layout

variable {l : Layout} {signature : List Ty} {e : Error}

/-- The types of the layout are a signature that passes the check. -/
theorem verify_types (l : Layout) : l.verify l.types = .ok () := by
  have no_mismatch : l.firstMismatch? l.types = none := by
    refine Option.map_eq_none_iff.2 (List.find?_eq_none.2 ?_)
    rintro ⟨⟨parameter, declared⟩, k⟩ numbered
    obtain ⟨at_k, type_at_k⟩ :=
      List.getElem?_zip_eq_some.1 (List.mem_zipIdx_iff_getElem?.1 numbered)
    simp only [types, List.getElem?_map, at_k, Option.map_some, Option.some.injEq] at type_at_k
    simp [type_at_k]
  have same_length : l.types.length = l.size := List.length_map _
  simp [verify, no_mismatch, same_length]

theorem verify_eq_error (failed : l.verify signature = .error e) :
    signature ≠ l.types ∧ ∃ message, e = (Cause.signatureMismatch message : Error) := by
  constructor
  · rintro rfl
    cases l.verify_types.symm.trans failed
  · unfold verify at failed
    split at failed
    · exact ⟨_, (Except.error.inj failed).symm⟩
    · split at failed
      · cases failed
      · exact ⟨_, (Except.error.inj failed).symm⟩

end Layout

/-! ## Consistent rules -/

namespace RuleSource

variable {settings : Settings} {source : RuleSource} {plan : Plan} {typed : List (String × Ty)}
  {signature : List Ty}

/-- The depth of the root of the chains of a rule: the one that it fixes, or that of the deepest
declaration, or zero when there is none. -/
def rootDepth (source : RuleSource) : Nat :=
  source.rule.rootDepth.getD ((source.declarations.map (·.depth)).max?.getD 0)

/-- No declaration stands below the root, and the indices are a permutation. -/
structure Placed (source : RuleSource) : Prop where
  within : ∀ d ∈ source.declarations, d.depth ≤ source.rootDepth
  perm : (source.declarations.map (·.index)).Perm (List.range source.declarations.length)

/-- Every global that the rule names has a declared type. -/
def Declared (source : RuleSource) : Prop :=
  ∀ name ∈ source.rule.globals, source.types.contains name = true

/-- A signature asks, position by position, for what the rule passes: the value and the handle of the
declaration of each index, and then the globals in the order of the rule. -/
structure Asks (source : RuleSource) (signature : List Ty) : Prop where
  length : signature.length = 2 * source.declarations.length + source.rule.globals.length
  pairs : ∀ d ∈ source.declarations,
    signature[2 * d.index]? = some d.type ∧ signature[2 * d.index + 1]? = some .handle
  globals : ∀ (j : Nat) name, source.rule.globals[j]? = some name →
    signature[2 * source.declarations.length + j]? = source.types.find? name

/-- What a rule must be to be built. -/
structure Consistent (settings : Settings) (source : RuleSource) : Prop where
  placed : source.Placed
  declared : source.Declared
  signed : settings.checkParameters = true → source.Asks source.action.signature

/-- Why a rule is not built: the first thing that is wrong with it. -/
inductive Defect (settings : Settings) (source : RuleSource) : Cause → Prop where
  | declaration {earlier later : List Declaration} {d : Declaration} {cause : Cause}
      (split : source.declarations = earlier ++ d :: later)
      (fine : Plan.Placeable source.rootDepth source.declarations.length earlier)
      (refused : Plan.Refuses source.rootDepth source.declarations.length earlier d cause) :
      Defect settings source cause
  | global {earlier later : List String} {name : String} (placed : source.Placed)
      (split : source.rule.globals = earlier ++ name :: later)
      (known : ∀ g ∈ earlier, source.types.contains g = true)
      (undeclared : source.types.contains name = false) :
      Defect settings source (.unresolvedGlobal name)
  | signature {message : String} (placed : source.Placed) (declared : source.Declared)
      (checked : settings.checkParameters = true) (differs : ¬ source.Asks source.action.signature) :
      Defect settings source (.signatureMismatch message)

theorem placed_iff :
    source.Placed ↔ Plan.Placeable source.rootDepth source.declarations.length source.declarations := by
  apply Iff.trans _ Plan.placeable_iff_perm.symm
  constructor
  · rintro ⟨within, perm⟩
    exact ⟨within, perm⟩
  · rintro ⟨within, perm⟩
    exact ⟨within, perm⟩

/-- With a defect, a rule is not consistent. -/
theorem Defect.not_consistent {cause : Cause} (defect : source.Defect settings cause) :
    ¬ source.Consistent settings := by
  intro consistent
  cases defect with
  | declaration split fine refused =>
      have all := placed_iff.1 consistent.placed
      rw [split] at refused all
      exact refused.not_placeable all
  | @global earlier later name placed split known undeclared =>
      have declared := consistent.declared name (by simp [split])
      rw [undeclared] at declared
      cases declared
  | signature placed declared checked differs => exact differs (consistent.signed checked)

/-- Only below a root that the rule fixes can a declaration stand too deep. -/
theorem Defect.rootDepth_ne_none {declaration : String} {depth max : Nat}
    (defect : source.Defect settings (.depthOutOfRange declaration depth max)) :
    source.rule.rootDepth ≠ none := by
  intro unfixed
  cases defect with
  | @declaration earlier later d cause split fine refused =>
      cases refused with
      -- the root is that of the deepest declaration, so none lies deeper
      | tooDeep beyond =>
          have listed : d ∈ source.declarations := by simp [split]
          have within := Rule.le_deepest listed
          rw [rootDepth, unfixed, Option.getD_none] at beyond
          exact Nat.not_le.2 beyond within

/-- What the rule passes is what stands in the layout. -/
theorem asks_iff
    (planned : Plan.ofDeclarations source.declarations source.rootDepth = .ok plan)
    (found : Rule.withTypes source.types source.rule.globals = .ok typed) :
    source.Asks signature ↔ signature = (Layout.ofPlan plan typed).types := by
  obtain ⟨names, known⟩ := Rule.withTypes_eq_ok found
  have size : plan.declarations.length = source.declarations.length := Plan.size_of_made planned
  have globals : source.rule.globals.length = (typed.map (·.2)).length := by
    simp [← names]
  -- both sides of the pairs and of the globals, one by index and name, the other by position
  have places : (∀ d ∈ source.declarations,
      signature[2 * d.index]? = some d.type ∧ signature[2 * d.index + 1]? = some .handle) ↔
        ∀ (i : Nat) d, plan.declarations[i]? = some d →
          signature[2 * i]? = some d.type ∧ signature[2 * i + 1]? = some .handle := by
    constructor
    · intro pairs i d at_i
      obtain ⟨named, rfl⟩ := (Plan.declarations_of_made planned).1 at_i
      exact pairs d named
    · intro pairs d named
      exact pairs _ d ((Plan.declarations_of_made planned).2 ⟨named, rfl⟩)
  have types : (∀ (j : Nat) name, source.rule.globals[j]? = some name →
      signature[2 * source.declarations.length + j]? = source.types.find? name) ↔
        ∀ (j : Nat) type, (typed.map (·.2))[j]? = some type →
          signature[2 * source.declarations.length + j]? = some type := by
    simp only [← names, List.getElem?_map, Option.map_eq_some_iff]
    constructor
    · rintro each j type ⟨g, at_j, rfl⟩
      rw [each j g.1 ⟨g, at_j, rfl⟩, known g (List.mem_of_getElem? at_j)]
    · rintro each j name ⟨g, at_j, rfl⟩
      rw [each j g.2 ⟨g, at_j, rfl⟩, known g (List.mem_of_getElem? at_j)]
  rw [Layout.types_ofPlan, eq_pairs_append_iff, size, ← places, ← types, ← globals]
  constructor
  · rintro ⟨length, pairs, rest⟩
    exact ⟨length, pairs, rest⟩
  · rintro ⟨length, pairs, rest⟩
    exact ⟨length, pairs, rest⟩

end RuleSource

/-! ## Builds -/

namespace Consequence

variable {settings : Settings} {name : String} {source : RuleSource} {e : Error}

theorem defect_of_build_error (failed : build settings name source = .error e) :
    source.Defect settings e.cause := by
  obtain ⟨inner, within, rfl⟩ := Except.mapError_eq_error_iff.1 failed
  rw [Rule.rootDepthFor_eq] at within
  -- the checks follow each other, so that each defect comes with the checks that were passed before
  rcases Except.bind_eq_error_iff.1 within with refused | ⟨plan, planned, within⟩
  · obtain ⟨earlier, d, later, cause, split, fine, refuses, rfl⟩ :=
      Plan.ofDeclarations_eq_error_iff.1 refused
    exact .declaration split fine refuses
  have placed : source.Placed := RuleSource.placed_iff.2 (Plan.placeable_of_made planned)
  rcases Except.bind_eq_error_iff.1 within with missing | ⟨typed, found, within⟩
  · obtain ⟨earlier, name, later, split, known, undeclared, rfl⟩ :=
      Rule.withTypes_eq_error_iff.1 missing
    exact .global placed split known undeclared
  have declared : source.Declared := Rule.exists_withTypes_iff.1 ⟨typed, found⟩
  dsimp only at within
  split at within
  · rename_i checked
    rcases Except.bind_eq_error_iff.1 within with refused | ⟨_, -, contra⟩
    · obtain ⟨differs, message, rfl⟩ := Layout.verify_eq_error refused
      exact .signature placed declared checked (mt (RuleSource.asks_iff planned found).1 differs)
    · cases contra
  · cases within

theorem consistent_of_build {c : Consequence} (built : build settings name source = .ok c) :
    source.Consistent settings := by
  obtain ⟨planned, found, layout, verified⟩ := builtFrom_of_build built
  rw [Rule.rootDepthFor_eq] at planned
  refine ⟨RuleSource.placed_iff.2 (Plan.placeable_of_made planned),
    Rule.exists_withTypes_iff.1 ⟨_, found⟩, fun checked => ?_⟩
  have signature := Layout.verify_eq_ok (verified checked)
  rw [layout] at signature
  exact (RuleSource.asks_iff planned found).2 signature

/-- A rule is built exactly when it is consistent: no declaration stands below the root, the indices
are a permutation, the globals are declared, and, if parameters are checked, the signature of the
action is the row of what the rule passes.

When a build fails, the error reports a defect of the rule, under the name of the rule and the name
that the consequence was to bear.  Defects rank in this order: a declaration that is refused, then the
first global that is not declared, then the signature.  Where the rule leaves the depth of the root to
its declarations, no declaration is refused for its depth. -/
theorem build_accepts_consistent (settings : Settings) (name : String) (source : RuleSource) :
    ((∃ c, build settings name source = .ok c) ↔ source.Consistent settings) ∧
    (∀ e, build settings name source = .error e →
      e.context = some { rule := some source.rule.name, artifact := some name } ∧
        source.Defect settings e.cause) ∧
    (source.rule.rootDepth = none → ∀ e, build settings name source = .error e →
      ∀ declaration depth max, e.cause ≠ .depthOutOfRange declaration depth max) := by
  refine ⟨?_, fun e failed => ⟨context_of_build_error failed, defect_of_build_error failed⟩, ?_⟩
  · constructor
    · rintro ⟨c, built⟩
      exact consistent_of_build built
    · intro consistent
      cases built : build settings name source with
      | ok c => exact ⟨c, rfl⟩
      | error e => exact absurd consistent (defect_of_build_error built).not_consistent
  · intro unfixed e failed declaration depth max deep
    exact (deep ▸ defect_of_build_error failed).rootDepth_ne_none unfixed

/-- The rule that greets is built, and it is not when its global has no declared type. -/
theorem greeting_built_when_declared :
    (∃ c, build {} "greeting" greeting = .ok c) ∧
      ∃ e, build {} "hello" { greeting with types := .empty } = .error e ∧
        e.context = some { rule := some "greeting", artifact := some "hello" } ∧
          e.cause = .unresolvedGlobal "limit" := by
  have consistent : greeting.Consistent {} := by
    refine ⟨⟨by decide, List.Perm.swap 0 1 []⟩, ?_, fun _ => ⟨rfl, ?_, ?_⟩⟩
    · exact List.forall_mem_singleton.2 rfl
    · simp [greeting]
    · rintro (_ | j) name ⟨⟩
      rfl
  obtain ⟨accepts, _⟩ := build_accepts_consistent {} "greeting" greeting
  obtain ⟨_, reports, _⟩ := build_accepts_consistent {} "hello" { greeting with types := .empty }
  refine ⟨accepts.2 consistent, ?_⟩
  rcases built : build {} "hello" { greeting with types := .empty } with e | c
  · obtain ⟨context, _⟩ := reports e built
    cases built
    exact ⟨_, rfl, context, rfl⟩
  · cases built

end Consequence
end RuleEngine
