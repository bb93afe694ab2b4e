import RuleEngine.Rule.Consequence

/-!
# Deferred consequences

A deferred consequence gets its name at once and is built when it is first needed.  What was built
is kept.  A build that failed is not kept, and is tried again the next time.
-/

namespace RuleEngine

/-- A rule with a name, and the consequence built from it, once there is one. -/
structure Deferred where
  name : String
  settings : Settings
  source : RuleSource
  built : Option Consequence

namespace Deferred

/-- Defers the build of a rule under a name drawn for it. -/
def fresh (settings : Settings) (source : RuleSource) (tokens : TokenStream) :
    Deferred × TokenStream :=
  let (name, tokens) := Consequence.drawName settings source.rule tokens
  (⟨name, settings, source, none⟩, tokens)

def isBuilt (d : Deferred) : Bool :=
  d.built.isSome

/-- The consequence, built if it was not built before. -/
def force (d : Deferred) : Except Error Consequence × Deferred :=
  match d.built with
  | some c => (.ok c, d)
  | none =>
    match Consequence.build d.settings d.name d.source with
    | .ok c => (.ok c, { d with built := some c })
    | .error e => (.error e, d)

/-- The form of a deferred consequence in diagnostics. -/
def debug (d : Deferred) : String :=
  "ConsequenceStub \x7b name: " ++ Text.quoted d.name ++ ", compiled: " ++
    (if d.isBuilt then "true" else "false") ++ ", .. \x7d"

end Deferred

/-! ## Consequences to fire -/

/-- A consequence that can be fired, at hand or deferred. -/
inductive Fireable where
  | ready (c : Consequence)
  | deferred (d : Deferred)

namespace Fireable

def name : Fireable → String
  | ready c => c.name
  | deferred d => d.name

/-- The consequence, built if need be. -/
def force : Fireable → Except Error Consequence × Fireable
  | ready c => (.ok c, ready c)
  | deferred d =>
    let (c, d) := d.force
    (c, deferred d)

/-- As an executable, under its own name.  It fails when the consequence cannot be built. -/
def executable (u : Fireable) : Executable where
  name := u.name
  program firing :=
    match u.force.1 with
    | .error e => .fail e
    | .ok c => c.executable.program firing

/-- Evaluates in a firing; what was deferred is built by then. -/
def evaluate (u : Fireable) (firing : Firing) (s : Progress) :
    Except Error Unit × Fireable × Progress :=
  let (result, s) := u.executable.evaluate firing s
  (result, u.force.2, s)

end Fireable
end RuleEngine
