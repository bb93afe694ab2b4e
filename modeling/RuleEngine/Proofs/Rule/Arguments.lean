import RuleEngine.Proofs.Resolution.Plans
import RuleEngine.Rule.Consequence

/-!
# Arguments and their layout

Three orders meet in the arguments of an action.  Declarations are resolved by depth, they are passed
by index as pairs of a value and an identity, and the signature of the action is checked against the
layout, where the globals follow the pairs.

`Passes` says what an action gets for one declaration.  The bindings are matched with the plan place
by place, and the pairs of both are laid out by the same rule, so the arguments meet the layout at
every position.
-/

namespace RuleEngine

/-! ## Pairs in a row -/

section Pairs

variable {α β : Type} (xs : List α) (f g : α → β) (i : Nat)

/-- In a row of pairs the `i`-th pair stands at `2 * i` and `2 * i + 1`. -/
theorem getElem?_pairs :
    (xs.flatMap fun x => [f x, g x])[2 * i]? = xs[i]?.map f ∧
      (xs.flatMap fun x => [f x, g x])[2 * i + 1]? = xs[i]?.map g := by
  induction xs generalizing i with
  | nil => exact ⟨rfl, rfl⟩
  | cons x rest ih =>
      cases i with
      | zero => exact ⟨rfl, rfl⟩
      | succ i => exact ih i

theorem length_pairs : (xs.flatMap fun x => [f x, g x]).length = 2 * xs.length := by
  induction xs with
  | nil => rfl
  | cons x rest ih =>
      rw [List.flatMap_cons, List.length_append, ih]
      simp only [List.length_cons, List.length_nil]
      omega

variable (rest : List β)

/-- What follows on the pairs does not move them. -/
theorem getElem?_pairs_append {x : α} {i : Nat} (listed : xs[i]? = some x) :
    ((xs.flatMap fun x => [f x, g x]) ++ rest)[2 * i]? = some (f x) ∧
      ((xs.flatMap fun x => [f x, g x]) ++ rest)[2 * i + 1]? = some (g x) := by
  have length := length_pairs xs f g
  have inside := (List.getElem?_eq_some_iff.1 listed).1
  obtain ⟨first, second⟩ := getElem?_pairs xs f g i
  rw [listed, Option.map_some] at first second
  constructor
  · rw [List.getElem?_append_left (by omega), first]
  · rw [List.getElem?_append_left (by omega), second]

/-- What follows on the pairs stands behind them. -/
theorem getElem?_append_pairs (j : Nat) :
    ((xs.flatMap fun x => [f x, g x]) ++ rest)[2 * xs.length + j]? = rest[j]? := by
  have length := length_pairs xs f g
  rw [List.getElem?_append_right (by omega), length, Nat.add_sub_cancel_left]

end Pairs

/-! ## What is passed for a declaration -/

/-- Whether a value is one that working memory tells apart by identity. -/
def Value.isInstance : Value → Bool
  | .fact .. | .source _ => true
  | _ => false

/-- What an action gets for a declaration, as a value and an identity.  For a direct declaration that
is the object of its node and the handle of the node.  For an indirect one it is nothing, or a value
extracted from the node: an instance comes with the handle that holds it, another value without. -/
inductive Declaration.Passes (chain : Chain) (memory : WorkingMemory) (d : Declaration) :
    Value → Value → Prop where
  | direct {node : Node} (reached : chain.node? d.depth = some node) (extractor : d.extractor? = none)
      (fits : node.object.fits d.type = true) : Passes chain memory d node.object (.handle node.handle)
  | unbound {x : Extractor} (extractor : d.extractor? = some x) : Passes chain memory d .nil .nil
  | held {node : Node} {x : Extractor} {v : Value} {h : Handle}
      (reached : chain.node? d.depth = some node) (extractor : d.extractor? = some x)
      (extracted : x.extract node.object memory = .ok v) (inst : v.isInstance = true)
      (holder : memory.holder? v = some h) (fits : v.fits d.type = true) :
      Passes chain memory d v (.handle h)
  | plain {node : Node} {x : Extractor} {v : Value}
      (reached : chain.node? d.depth = some node) (extractor : d.extractor? = some x)
      (extracted : x.extract node.object memory = .ok v) (inst : v.isInstance = false)
      (some_value : v.isNil = false) (fits : v.fits d.type = true) : Passes chain memory d v .nil

section Binding

variable {chain : Chain} {memory : WorkingMemory} {d : Declaration} {node : Node} {v : Value}
  {b : Binding}

theorem Declaration.check_eq_ok_iff {u : Unit} : d.check v = .ok u ↔ v.fits d.type = true := by
  unfold check
  split <;> simp_all

theorem Binding.ofNode_eq_ok (bound : Binding.ofNode d node = .ok b) :
    node.object.fits d.type = true ∧ b = ⟨node.object, some node.handle⟩ := by
  rcases Except.map_eq_ok_iff.1 bound with ⟨_, checked, rfl⟩
  exact ⟨Declaration.check_eq_ok_iff.1 checked, rfl⟩

theorem Binding.ofExtracted_of_instance (inst : v.isInstance = true) :
    Binding.ofExtracted d memory v =
      match memory.holder? v with
      | none => .ok .unbound
      | some h => (d.check v).map fun () => ⟨v, some h⟩ := by
  cases v with
  | fact | source => rfl
  | _ => cases inst

theorem Binding.ofExtracted_of_plain (inst : v.isInstance = false) (some_value : v.isNil = false) :
    Binding.ofExtracted d memory v = (d.check v).map fun () => ⟨v, none⟩ := by
  cases v with
  | nil => cases some_value
  | fact | source => cases inst
  | _ => rfl

/-- An extracted value is bound to nothing, or it fits; an instance is then held by working
memory. -/
theorem Binding.ofExtracted_eq_ok (bound : Binding.ofExtracted d memory v = .ok b) :
    b = .unbound ∨
    (∃ h, v.isInstance = true ∧ memory.holder? v = some h ∧ v.fits d.type = true ∧
      b = ⟨v, some h⟩) ∨
    (v.isInstance = false ∧ v.isNil = false ∧ v.fits d.type = true ∧ b = ⟨v, none⟩) := by
  cases inst : v.isInstance with
  | true =>
      rw [ofExtracted_of_instance inst] at bound
      split at bound
      · exact Or.inl (Except.ok.inj bound).symm
      · rename_i h holder
        rcases Except.map_eq_ok_iff.1 bound with ⟨_, checked, rfl⟩
        exact Or.inr (Or.inl ⟨h, rfl, holder, Declaration.check_eq_ok_iff.1 checked, rfl⟩)
  | false =>
      cases some_value : v.isNil with
      | true =>
          cases v <;> cases some_value
          exact Or.inl (Except.ok.inj bound).symm
      | false =>
          rw [ofExtracted_of_plain inst some_value] at bound
          rcases Except.map_eq_ok_iff.1 bound with ⟨_, checked, rfl⟩
          exact Or.inr (Or.inr ⟨rfl, rfl, Declaration.check_eq_ok_iff.1 checked, rfl⟩)

/-- What a binding holds is what is passed. -/
theorem Plan.Binds.passes (binds : Plan.Binds chain memory d b) :
    d.Passes chain memory b.value b.identity := by
  rcases binds with ⟨node, reached, resolved⟩
  have resolved := Except.mapError_eq_ok_iff.1 resolved
  -- the declaration is direct, or indirect with the extractor `x`
  cases extractor : d.extractor? with
  | none =>
      rw [extractor] at resolved
      rcases Binding.ofNode_eq_ok resolved with ⟨fits, rfl⟩
      exact .direct reached extractor fits
  | some x =>
      rw [extractor] at resolved
      rcases Except.bind_eq_ok_iff.1 resolved with ⟨v, extracted, bound⟩
      rcases Binding.ofExtracted_eq_ok bound with
        rfl | ⟨h, inst, holder, fits, rfl⟩ | ⟨inst, some_value, fits, rfl⟩
      · exact .unbound extractor
      · exact .held reached extractor extracted inst holder fits
      · exact .plain reached extractor extracted inst some_value fits

theorem Declaration.Passes.fits {value identity : Value} (passes : d.Passes chain memory value identity) :
    (value = .nil ∨ value.fits d.type = true) ∧ (identity = .nil ∨ identity.fits .handle = true) := by
  cases passes with
  | direct reached extractor fits => exact ⟨Or.inr fits, Or.inr rfl⟩
  | unbound extractor => exact ⟨Or.inl rfl, Or.inl rfl⟩
  | held reached extractor extracted inst holder fits => exact ⟨Or.inr fits, Or.inr rfl⟩
  | plain reached extractor extracted inst some_value fits => exact ⟨Or.inr fits, Or.inl rfl⟩

end Binding

/-! ## Globals -/

section Globals

variable {types : GlobalTypes} {names : List String} {typed : List (String × Ty)} {globals : Globals}
  {vs : List Value}

/-- The globals of a rule are those that it names, each with its declared type. -/
theorem Rule.withTypes_eq_ok (found : Rule.withTypes types names = .ok typed) :
    typed.map (·.1) = names ∧ ∀ g ∈ typed, types.find? g.1 = some g.2 := by
  induction names generalizing typed with
  | nil =>
      cases found
      exact ⟨rfl, by simp⟩
  | cons name rest ih =>
      unfold Rule.withTypes at found
      split at found
      · cases found
      · rename_i type declared
        rcases Except.map_eq_ok_iff.1 found with ⟨later, hlater, rfl⟩
        have ⟨same, known⟩ := ih hlater
        exact ⟨by rw [List.map_cons, same], List.forall_mem_cons.2 ⟨declared, known⟩⟩

theorem Consequence.globalArguments_cons_eq_ok {name : String} {type : Ty}
    (computed : globalArguments globals ((name, type) :: typed) = .ok vs) :
    ∃ v later, globals.find? name = some v ∧ v.fits type = true ∧
      globalArguments globals typed = .ok later ∧ vs = v :: later := by
  rw [globalArguments] at computed
  rcases Except.bind_eq_ok_iff.1 computed with ⟨v, required, computed⟩
  have found : globals.find? name = some v := by
    unfold Globals.require at required
    split at required
    · rename_i v' found
      rw [found, Except.ok.inj required]
    · cases required
  split at computed
  · rename_i fits
    rcases Except.bind_eq_ok_iff.1 computed with ⟨later, hlater, same⟩
    exact ⟨v, later, found, fits, hlater, (Except.ok.inj same).symm⟩
  · cases computed

/-- The arguments for globals are their values in the session, in order, each of its type. -/
theorem Consequence.globalArguments_eq_ok (computed : globalArguments globals typed = .ok vs) :
    vs.length = typed.length ∧
      ∀ (j : Nat) name type, typed[j]? = some (name, type) →
        ∃ v, vs[j]? = some v ∧ globals.find? name = some v ∧ v.fits type = true := by
  induction typed generalizing vs with
  | nil =>
      cases computed
      exact ⟨rfl, by simp⟩
  | cons g rest ih =>
      rcases globalArguments_cons_eq_ok computed with ⟨v, later, found, fits, hlater, rfl⟩
      have ⟨length, values⟩ := ih hlater
      refine ⟨by rw [List.length_cons, length, List.length_cons], ?_⟩
      intro j name type at_j
      cases j with
      | zero =>
          simp only [List.getElem?_cons_zero, Option.some.injEq] at at_j
          rw [at_j] at found fits
          exact ⟨v, rfl, found, fits⟩
      | succ j => exact values j name type at_j

end Globals

/-! ## The layout -/

namespace Layout

variable {l : Layout} {signature : List Ty}

/-- A signature that passes the check is the row of types of the layout. -/
theorem verify_eq_ok (verified : l.verify signature = .ok ()) : signature = l.types := by
  unfold verify at verified
  split at verified
  · cases verified
  · rename_i same_length
    have length : signature.length = l.parameters.length := Decidable.not_not.1 same_length
    split at verified
    · rename_i no_mismatch
      refine List.ext_getElem (by rw [types, List.length_map, length]) ?_
      intro k hk _
      have hp : k < l.parameters.length := length ▸ hk
      have numbered : ((l.parameters[k], signature[k]), k) ∈ (l.parameters.zip signature).zipIdx :=
        List.mem_zipIdx_iff_getElem?.2 <| List.getElem?_zip_eq_some.2
          ⟨List.getElem?_eq_getElem hp, List.getElem?_eq_getElem hk⟩
      have agree := List.find?_eq_none.1 (Option.map_eq_none_iff.1 no_mismatch) _ numbered
      have same : l.parameters[k].type = signature[k] := by simpa using agree
      rw [← same]
      simp only [types, List.getElem_map]
    · cases verified

/-- The types of a layout: those of the declarations in pairs, and then those of the globals. -/
theorem types_ofPlan (plan : Plan) (globals : List (String × Ty)) :
    (ofPlan plan globals).types =
      (plan.declarations.flatMap fun d => [d.type, .handle]) ++ globals.map (·.2) := by
  simp [types, ofPlan, List.map_flatMap, Parameter.type, Function.comp_def]

theorem size_ofPlan (plan : Plan) (globals : List (String × Ty)) :
    (ofPlan plan globals).size = 2 * plan.size + globals.length := by
  have pairs := length_pairs plan.declarations (fun d => Parameter.value d.name d.type)
    fun d => Parameter.identity d.name
  simp [size, ofPlan, pairs, Plan.size]

end Layout

/-! ## The arguments of a consequence -/

namespace Consequence

variable {settings : Settings} {name : String} {source : RuleSource} {c : Consequence}
  {firing : Firing} {args : List Value}

/-- A consequence holds what its source was checked to be. -/
structure BuiltFrom (settings : Settings) (source : RuleSource) (c : Consequence) : Prop where
  planned :
    Plan.ofDeclarations source.declarations (source.rule.rootDepthFor source.declarations) = .ok c.plan
  typed : Rule.withTypes source.types source.rule.globals = .ok c.globals
  layout_eq : c.layout = .ofPlan c.plan c.globals
  verified : settings.checkParameters = true → c.layout.verify source.action.signature = .ok ()

theorem build_eq_ok (built : build settings name source = .ok c) :
    ∃ plan globals,
      Plan.ofDeclarations source.declarations (source.rule.rootDepthFor source.declarations) =
          .ok plan ∧
        Rule.withTypes source.types source.rule.globals = .ok globals ∧
        (settings.checkParameters = true →
          (Layout.ofPlan plan globals).verify source.action.signature = .ok ()) ∧
        c = ⟨name, source.rule.name, plan, globals, .ofPlan plan globals, source.action⟩ := by
  have built := Except.mapError_eq_ok_iff.1 built
  rcases Except.bind_eq_ok_iff.1 built with ⟨plan, planned, built⟩
  rcases Except.bind_eq_ok_iff.1 built with ⟨globals, typed, built⟩
  refine ⟨plan, globals, planned, typed, ?_⟩
  dsimp only at built
  split at built
  · rcases Except.bind_eq_ok_iff.1 built with ⟨_, verified, built⟩
    exact ⟨fun _ => verified, (Except.ok.inj built).symm⟩
  · rename_i unchecked
    exact ⟨fun checked => absurd checked unchecked, (Except.ok.inj built).symm⟩

theorem builtFrom_of_build (built : build settings name source = .ok c) :
    BuiltFrom settings source c := by
  rcases build_eq_ok built with ⟨plan, globals, planned, typed, verified, rfl⟩
  exact ⟨planned, typed, rfl, verified⟩

/-- A consequence bears the name that it was built under, and that of its rule. -/
theorem names_of_build (built : build settings name source = .ok c) :
    c.name = name ∧ c.rule = source.rule.name := by
  rcases build_eq_ok built with ⟨plan, globals, -, -, -, rfl⟩
  exact ⟨rfl, rfl⟩

/-- A build that fails tells of the rule and of the name that the consequence was to bear. -/
theorem context_of_build_error {e : Error} (failed : build settings name source = .error e) :
    e.context = some { rule := some source.rule.name, artifact := some name } := by
  rcases Except.mapError_eq_error_iff.1 failed with ⟨e', -, rfl⟩
  rfl

theorem arguments_eq_ok (computed : c.arguments firing = .ok args) :
    ∃ r vs, c.plan.resolve firing.chain firing.memory = .ok r ∧
      globalArguments firing.globals c.globals = .ok vs ∧
        args = (r.bindings.flatMap fun b => [b.value, b.identity]) ++ vs := by
  rcases Except.bind_eq_ok_iff.1 computed with ⟨r, resolved, computed⟩
  rcases Except.bind_eq_ok_iff.1 computed with ⟨vs, values, computed⟩
  exact ⟨r, vs, resolved, values, (Except.ok.inj computed).symm⟩

theorem length_arguments (computed : c.arguments firing = .ok args) :
    args.length = 2 * c.plan.size + c.globals.length := by
  rcases arguments_eq_ok computed with ⟨r, vs, resolved, values, rfl⟩
  have pairs := length_pairs r.bindings Binding.value Binding.identity
  have globals := (globalArguments_eq_ok values).1
  calc
    ((r.bindings.flatMap fun b => [b.value, b.identity]) ++ vs).length
        = 2 * r.bindings.length + vs.length := by rw [List.length_append, pairs]
    _ = 2 * c.plan.size + c.globals.length := by rw [Plan.length_bindings resolved, globals]

theorem getElem?_arguments_of_declaration (computed : c.arguments firing = .ok args) {i : Nat}
    {d : Declaration} (placed : c.plan.declarations[i]? = some d) :
    ∃ value identity, args[2 * i]? = some value ∧ args[2 * i + 1]? = some identity ∧
      d.Passes firing.chain firing.memory value identity := by
  rcases arguments_eq_ok computed with ⟨r, vs, resolved, -, rfl⟩
  rcases Plan.getElem?_bindings resolved placed with ⟨b, binds, at_place⟩
  rcases getElem?_pairs_append r.bindings Binding.value Binding.identity vs at_place with
    ⟨first, second⟩
  exact ⟨b.value, b.identity, first, second, binds.passes⟩

theorem getElem?_arguments_of_global (computed : c.arguments firing = .ok args) {j : Nat}
    {name : String} {type : Ty} (listed : c.globals[j]? = some (name, type)) :
    ∃ v, args[2 * c.plan.size + j]? = some v ∧ firing.globals.find? name = some v ∧
      v.fits type = true := by
  rcases arguments_eq_ok computed with ⟨r, vs, resolved, values, rfl⟩
  rcases (globalArguments_eq_ok values).2 j name type listed with ⟨v, at_j, found, fits⟩
  refine ⟨v, ?_, found, fits⟩
  rw [← Plan.length_bindings resolved, getElem?_append_pairs, at_j]

theorem fits_types_of_declaration (computed : c.arguments firing = .ok args) {k : Nat} {v : Value}
    (declared : k < 2 * c.plan.size) (passed : args[k]? = some v) :
    ∃ type, (Layout.ofPlan c.plan c.globals).types[k]? = some type ∧
      (v.fits type = true ∨ v = .nil) := by
  -- `k` is one of the two positions of the `i`-th declaration
  obtain ⟨i, position⟩ : ∃ i, k = 2 * i ∨ k = 2 * i + 1 := ⟨k / 2, by omega⟩
  have inside : i < c.plan.declarations.length := by
    unfold Plan.size at declared
    omega
  have placed := List.getElem?_eq_getElem inside
  rcases getElem?_pairs_append c.plan.declarations Declaration.type (fun _ => Ty.handle)
    (c.globals.map (·.2)) placed with ⟨first, second⟩
  rcases getElem?_arguments_of_declaration computed placed with
    ⟨value, identity, at_value, at_identity, passes⟩
  have ⟨value_fits, identity_fits⟩ := passes.fits
  rw [Layout.types_ofPlan]
  rcases position with rfl | rfl
  · rw [at_value, Option.some.injEq] at passed
    subst passed
    exact ⟨_, first, value_fits.symm⟩
  · rw [at_identity, Option.some.injEq] at passed
    subst passed
    exact ⟨_, second, identity_fits.symm⟩

/-- Every argument fits the type at its position in the layout, or it is a nil in a pair. -/
theorem fits_types (computed : c.arguments firing = .ok args) {k : Nat} {v : Value}
    (passed : args[k]? = some v) :
    ∃ type, (Layout.ofPlan c.plan c.globals).types[k]? = some type ∧
      (v.fits type = true ∨ k < 2 * c.plan.size ∧ v = .nil) := by
  by_cases declared : k < 2 * c.plan.size
  · rcases fits_types_of_declaration computed declared passed with ⟨type, at_k, fits⟩
    exact ⟨type, at_k, fits.imp_right fun isNil => ⟨declared, isNil⟩⟩
  -- otherwise it is the position of the `j`-th global
  · obtain ⟨j, rfl⟩ := Nat.exists_eq_add_of_le (Nat.not_lt.1 declared)
    have bound := (List.getElem?_eq_some_iff.1 passed).1
    rw [length_arguments computed] at bound
    have inside : j < c.globals.length := by omega
    have listed : c.globals[j]? = some (c.globals[j].1, c.globals[j].2) :=
      List.getElem?_eq_getElem inside
    rcases getElem?_arguments_of_global computed listed with ⟨v', at_j, -, fits⟩
    rw [at_j, Option.some.injEq] at passed
    subst passed
    refine ⟨_, ?_, Or.inl fits⟩
    rw [Layout.types_ofPlan, Plan.size, getElem?_append_pairs, List.getElem?_map, listed,
      Option.map_some]

/-- The arguments meet the layout at every position.  They are as many; the declaration of each index
gets its pair at twice the index; the globals that the rule names follow in its order, with the values
that they have in the session.  When parameters are checked, every argument therefore fits the type
that the action declares at its position, or it is a nil in the pair of a declaration. -/
theorem arguments_match_layout (settings : Settings) (name : String) (source : RuleSource)
    (c : Consequence) (firing : Firing) (args : List Value)
    (built : build settings name source = .ok c) (computed : c.arguments firing = .ok args) :
    let n := source.declarations.length
    args.length = c.layout.size ∧
    (c.plan.size = n ∧
      ∀ i d, c.plan.declarations[i]? = some d ↔ d ∈ source.declarations ∧ d.index = i) ∧
    (∀ i d, c.plan.declarations[i]? = some d →
      ∃ value identity, args[2 * i]? = some value ∧ args[2 * i + 1]? = some identity ∧
        d.Passes firing.chain firing.memory value identity) ∧
    (∀ j global, source.rule.globals[j]? = some global →
      ∃ type v, source.types.find? global = some type ∧ args[2 * n + j]? = some v ∧
        firing.globals.find? global = some v ∧ v.fits type = true) ∧
    (settings.checkParameters = true →
      ∀ k v, args[k]? = some v →
        ∃ type, source.action.signature[k]? = some type ∧
          (v.fits type = true ∨ k < 2 * n ∧ v = .nil)) := by
  intro n
  have from_source := builtFrom_of_build built
  have size : c.plan.size = n := Plan.size_of_made from_source.planned
  have ⟨names, known⟩ := Rule.withTypes_eq_ok from_source.typed
  refine ⟨?_, ⟨size, fun i d => Plan.declarations_of_made from_source.planned⟩,
    fun i d => getElem?_arguments_of_declaration computed, ?_, ?_⟩
  · calc
      args.length = 2 * c.plan.size + c.globals.length := length_arguments computed
      _ = (Layout.ofPlan c.plan c.globals).size := (Layout.size_ofPlan _ _).symm
      _ = c.layout.size := by rw [from_source.layout_eq]
  · intro j global named
    rw [← names, List.getElem?_map] at named
    rcases Option.map_eq_some_iff.1 named with ⟨⟨_, type⟩, listed, rfl⟩
    rcases getElem?_arguments_of_global computed listed with ⟨v, at_j, found, fits⟩
    exact ⟨type, v, known _ (List.mem_of_getElem? listed), size ▸ at_j, found, fits⟩
  · intro checked k v passed
    rw [Layout.verify_eq_ok (from_source.verified checked), from_source.layout_eq, ← size]
    exact fits_types computed passed

/-- A rule with an extracted name at the first place, a person at the second, and a limit. -/
def greeting : RuleSource where
  rule := { name := "greeting", package := "", rootDepth := none, globals := ["limit"] }
  declarations :=
    [⟨"$person", .fact "Person", 0, 1, none⟩, ⟨"$name", .string, 0, 0, some (.field "name")⟩]
  types := Table.empty.insert "limit" .int
  action :=
    { owner := "Rules", method := "consequence",
      signature := [.string, .handle, .fact "Person", .handle, .int], body := fun _ => .done () }

/-- A firing of that rule for one matched person. -/
def greetingFiring : Firing where
  chain := ⟨[⟨⟨0, 0⟩, .fact ⟨0⟩ "Person" [("name", .string "Ada")]⟩]⟩
  memory := .empty
  globals := ⟨.empty, Table.empty.insert "limit" (.int 3)⟩

def builtGreeting : Consequence where
  name := "greeting"
  rule := "greeting"
  plan :=
    ⟨[⟨"$name", .string, 0, 0, some (.field "name")⟩, ⟨"$person", .fact "Person", 0, 1, none⟩], 0⟩
  globals := [("limit", .int)]
  layout :=
    ⟨[.value "$name" .string, .identity "$name", .value "$person" (.fact "Person"),
      .identity "$person", .global "limit" .int], 2⟩
  action := greeting.action

theorem greeting_arguments_match :
    let args : List Value :=
      [.string "Ada", .nil, .fact ⟨0⟩ "Person" [("name", .string "Ada")], .handle ⟨0, 0⟩, .int 3]
    build {} "greeting" greeting = .ok builtGreeting ∧
      builtGreeting.arguments greetingFiring = .ok args ∧
        ∀ k v, args[k]? = some v →
          ∃ type, greeting.action.signature[k]? = some type ∧
            (v.fits type = true ∨ k < 4 ∧ v = .nil) := by
  intro args
  have in_order : builtGreeting.plan.steps = builtGreeting.plan.declarations.zipIdx := by
    simp [builtGreeting, Plan.steps, Plan.before, List.mergeSort]
  have computed : builtGreeting.arguments greetingFiring = .ok args := by
    unfold arguments Plan.resolve
    rw [in_order]
    rfl
  have matched :=
    arguments_match_layout {} "greeting" greeting builtGreeting greetingFiring args rfl computed
  exact ⟨rfl, computed, matched.2.2.2.2 rfl⟩

end Consequence
end RuleEngine
