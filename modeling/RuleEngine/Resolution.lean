import RuleEngine.Chain
import RuleEngine.Declaration

/-!
# Resolution of declarations

Declarations are resolved in two phases.  A plan is made once for a rule: it puts the declarations
at their places and refuses a list that does not fit the chains to come.  A plan is then resolved
once for each chain: the declarations are visited by depth, so that the chain is walked once from
the tip towards the root, and the bindings come out by place.
-/

namespace RuleEngine

/-! ## Plans -/

/-- Consistent declarations, by place, for chains whose root is at `rootDepth`. -/
structure Plan where
  declarations : List Declaration
  rootDepth : Nat

namespace Plan

/-- Puts declarations at their places, one after the other. -/
def place (rootDepth : Nat) :
    List Declaration → List (Option Declaration) → Except Error (List (Option Declaration))
  | [], places => .ok places
  | d :: rest, places =>
    if rootDepth < d.depth then
      .error (Cause.depthOutOfRange d.name d.depth rootDepth)
    else
      match places[d.index]? with
      | none =>
        .error <| Cause.invalidDeclaration
          s!"{d.name} has index {d.index} but only {places.length} declarations exist"
      | some (some previous) =>
        .error <| Cause.invalidDeclaration
          s!"{previous.name} and {d.name} share index {d.index}"
      | some none => place rootDepth rest (places.set d.index (some d))

def ofDeclarations (declarations : List Declaration) (rootDepth : Nat) : Except Error Plan :=
  (place rootDepth declarations (List.replicate declarations.length none)).map fun places =>
    ⟨places.filterMap id, rootDepth⟩

def size (p : Plan) : Nat :=
  p.declarations.length

/-- Whether one declaration is resolved before another: by depth, then by place. -/
def before (a b : Declaration × Nat) : Bool :=
  a.1.depth < b.1.depth || (a.1.depth == b.1.depth && a.2 ≤ b.2)

/-- The declarations with their places, in the order of resolution. -/
def steps (p : Plan) : List (Declaration × Nat) :=
  p.declarations.zipIdx.mergeSort before

def order (p : Plan) : List Nat :=
  p.steps.map (·.2)

end Plan

/-! ## Bindings -/

/-- What a declaration is bound to: a value, and the handle of the fact if there is one. -/
structure Binding where
  value : Value
  handle : Option Handle

namespace Binding

/-- The binding of an indirect declaration whose fact is not in working memory. -/
def unbound : Binding :=
  ⟨.nil, none⟩

def identity (b : Binding) : Value :=
  .ofHandle? b.handle

def ofNode (d : Declaration) (node : Node) : Except Error Binding :=
  (d.check node.object).map fun () => ⟨node.object, some node.handle⟩

/-- Binds an extracted value.  A fact or a source is bound only while working memory holds it. -/
def ofExtracted (d : Declaration) (memory : WorkingMemory) (v : Value) : Except Error Binding :=
  match v with
  | .nil => .ok unbound
  | .fact .. | .source _ =>
    -- an object that left the memory is unbound, whatever its type
    match memory.holder? v with
    | none => .ok unbound
    | some h => (d.check v).map fun () => ⟨v, some h⟩
  | _ => (d.check v).map fun () => ⟨v, none⟩

def resolve (d : Declaration) (memory : WorkingMemory) (node : Node) : Except Error Binding :=
  let binding :=
    match d.extractor? with
    | none => ofNode d node
    | some x => (x.extract node.object memory).bind (ofExtracted d memory)
  binding.mapError (·.inStep ("resolve " ++ d.name))

end Binding

/-! ## Resolving -/

/-- The bindings by place, the number of nodes passed, and the deepest depth reached. -/
structure Resolution where
  bindings : List Binding
  visits : Nat
  deepest : Nat

namespace Plan

/-- Binds the declarations one after the other along a walk. -/
def resolveSteps (chain : Chain) (memory : WorkingMemory) :
    List (Declaration × Nat) → Walk → List Binding → Except Error (List Binding × Walk)
  | [], walk, bindings => .ok (bindings, walk)
  | (d, place) :: rest, walk, bindings =>
    match walk.ascend chain d.depth with
    | none => .error (Cause.depthOutOfRange d.name d.depth (chain.rootDepth?.getD 0))
    | some (node, walk) =>
      match Binding.resolve d memory node with
      | .error e => .error e
      | .ok binding => resolveSteps chain memory rest walk (bindings.set place binding)

def resolve (p : Plan) (chain : Chain) (memory : WorkingMemory) : Except Error Resolution :=
  (resolveSteps chain memory p.steps .start (List.replicate p.size .unbound)).map
    fun (bindings, walk) => ⟨bindings, walk.visits, walk.depth⟩

def resolveOnce (declarations : List Declaration) (chain : Chain) (memory : WorkingMemory) :
    Except Error Resolution :=
  (ofDeclarations declarations (chain.rootDepth?.getD 0)).bind (·.resolve chain memory)

end Plan
end RuleEngine
