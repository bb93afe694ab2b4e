import RuleEngine.Action.Basic
import RuleEngine.Naming.Tokens
import RuleEngine.Rule.Executable
import RuleEngine.Rule.Layout
import RuleEngine.Settings

/-!
# Consequences

A rule is built once: its declarations are planned, its globals are given their types, and the
parameters of its action are checked against the layout.  What comes out, a consequence, can be
evaluated in any number of firings.
-/

namespace RuleEngine

/-! ## Rules -/

/-- A rule, apart from its declarations and its action.  `rootDepth` is the depth of the root of its
chains, by default that of the deepest declaration. -/
structure Rule where
  name : String
  package : String
  rootDepth : Option Nat
  globals : List String
deriving DecidableEq

namespace Rule

def deepest (declarations : List Declaration) : Nat :=
  declarations.foldl (fun depth d => max depth d.depth) 0

/-- The depth of the root of the chains of a rule with the given declarations. -/
def rootDepthFor (r : Rule) (declarations : List Declaration) : Nat :=
  r.rootDepth.getD (deepest declarations)

/-- The types of the globals that a rule reads, in its order. -/
def withTypes (types : GlobalTypes) : List String → Except Error (List (String × Ty))
  | [] => .ok []
  | name :: rest =>
    match types.find? name with
    | none => .error (Cause.unresolvedGlobal name)
    | some type => (withTypes types rest).map ((name, type) :: ·)

end Rule

/-- What a rule is built from. -/
structure RuleSource where
  rule : Rule
  declarations : List Declaration
  types : GlobalTypes
  action : Action

/-! ## Consequences -/

/-- A rule that was built. -/
structure Consequence where
  name : String
  rule : String
  plan : Plan
  globals : List (String × Ty)
  layout : Layout
  action : Action

namespace Consequence

/-- Builds a rule under a name. -/
def build (settings : Settings) (name : String) (source : RuleSource) : Except Error Consequence :=
  let rule := source.rule
  let built : Except Error Consequence := do
    let plan ← Plan.ofDeclarations source.declarations (rule.rootDepthFor source.declarations)
    let globals ← Rule.withTypes source.types rule.globals
    let layout := Layout.ofPlan plan globals
    if settings.checkParameters then
      layout.verify source.action.signature
    return ⟨name, rule.name, plan, globals, layout, source.action⟩
  -- whatever failed, the error names the rule and nothing inside it
  built.mapError (·.inContext { rule := some rule.name, artifact := some name })

def drawName (settings : Settings) (rule : Rule) (tokens : TokenStream) : String × TokenStream :=
  let (token, tokens) := tokens.draw
  (Naming.invoker (settings.packageFor rule.package) rule.name token, tokens)

/-- Builds a rule under a name drawn for it.  The token is drawn whether or not the build
succeeds. -/
def buildFresh (settings : Settings) (source : RuleSource) (tokens : TokenStream) :
    Except Error Consequence × TokenStream :=
  let (name, tokens) := drawName settings source.rule tokens
  (build settings name source, tokens)

/-! ## Arguments -/

def globalArguments (globals : Globals) : List (String × Ty) → Except Error (List Value)
  | [] => .ok []
  | (name, type) :: rest => do
    let v ← globals.require name
    if v.fits type then
      return v :: (← globalArguments globals rest)
    else
      let e : Error := Cause.typeMismatch type v.type
      throw (e.inStep ("global " ++ name))

/-- The arguments of the action in a firing. -/
def arguments (c : Consequence) (firing : Firing) : Except Error (List Value) := do
  let resolution ← c.plan.resolve firing.chain firing.memory
  let globals ← globalArguments firing.globals c.globals
  return (resolution.bindings.flatMap fun b => [b.value, b.identity]) ++ globals

/-- A consequence as an executable: computes the arguments and runs the action on them. -/
def executable (c : Consequence) : Executable where
  name := c.name
  program firing :=
    match c.arguments firing with
    | .error e => .fail (e.inArtifact c.rule c.name)
    | .ok arguments => c.action.body arguments

end Consequence
end RuleEngine
