/-!
# Names of generated artifacts

The name of a consequence is made of its package, its rule and a token; the names of the two classes
of a rule unit are made of the name of the unit and one token that they share.
-/

namespace RuleEngine
namespace Naming

/-- The package of rules and units that do not name one. -/
def defaultPackage : String :=
  "defaultpkg"

/-- A text with every character other than an ASCII letter or digit replaced by an underscore. -/
def identifier (text : String) : String :=
  String.ofList (text.toList.map fun c => if c.isAlphanum then c else '_')

def invoker (package rule : String) (token : UInt64) : String :=
  package ++ ".Rule_" ++ identifier rule ++ s!"_{token}ConsequenceInvoker"

def unitClass (unit : String) (token : UInt64) : String :=
  unit ++ s!"RuleUnit{token}"

/-- The simple name of the class of the instances of a unit. -/
def instanceClass (unit : String) (token : UInt64) : String :=
  unit ++ s!"RuleUnitInstance{token}"

/-- A simple name, qualified by its package; no package qualifies nothing. -/
def qualified (package simple : String) : String :=
  if package.isEmpty then simple else package ++ "." ++ simple

def directory (package : String) : String :=
  String.ofList (package.toList.map fun c => if c = '.' then '/' else c)

/-- The names of a generated class. -/
structure GeneratedName where
  simple : String
  qualified : String
  path : String
deriving DecidableEq

def artifact (package simple : String) : GeneratedName where
  simple := simple
  qualified := qualified package simple
  path := if package.isEmpty then simple ++ ".rs" else directory package ++ "/" ++ simple ++ ".rs"

end Naming
end RuleEngine
