import RuleEngine.Error
import RuleEngine.Table
import RuleEngine.Template.Basic

/-!
# Catalogs of templates

A catalog holds templates by name.  The built-in catalog holds the two templates that rule units are
generated from.
-/

namespace RuleEngine

abbrev Catalog := Table Template

namespace Catalog

def unitTemplate : String :=
  "RuleUnitTemplate"

/-- The name of the template of the class of the instances of a unit. -/
def instanceTemplate : String :=
  "RuleUnitInstanceTemplate"

/-- The method of an instance that binds the variables of its unit. -/
def bindMethod : String :=
  "bind"

/-- Adds a template, in place of the template of its name. -/
def add (catalog : Catalog) (template : Template) : Catalog :=
  catalog.insert template.origin template

def require (catalog : Catalog) (name : String) : Except Error Template :=
  match catalog.find? name with
  | some template => .ok template
  | none => .error (Cause.missingTemplate name)

def unitClassTemplate : Template :=
  { Template.ofName unitTemplate with
    implements := [.generic "RuleUnit" [.slot .unitClass]]
    fields := [⟨"units", .named "RuleUnits"⟩]
    maker? := some
      { name := "new"
        receiver := false
        params := [⟨"units", .named "RuleUnits"⟩]
        returns := some (.slot .className)
        body := [.result (.init (.slot .className) [("units", .name "units")])] }
    methods :=
      [{ name := "create_instance"
         receiver := true
         params := [⟨"value", .slot .unitClass⟩, ⟨"config", .named "RuleConfig"⟩]
         returns := some (.slot .instanceClass)
         body :=
          [.result
            (.new (.slot .instanceClass)
              [.name "value",
                .call (.call .self "units" []) "create_executor"
                  [.new (.slot .unitModel) [], .name "config"]])] }] }

/-- The built-in template of the class of the instances of a unit. -/
def instanceClassTemplate : Template :=
  let params : List TypedName :=
    [⟨"value", .slot .unitClass⟩, ⟨"evaluator", .named "RuleUnitExecutor"⟩]
  { Template.ofName instanceTemplate with
    implements := [.generic "RuleUnitInstance" [.slot .unitClass]]
    fields := params
    maker? := some
      { name := "new"
        receiver := false
        params := params
        returns := some (.slot .className)
        body :=
          [.result
            (.init (.slot .className)
              [("value", .name "value"), ("evaluator", .name "evaluator")])] }
    methods :=
      [{ name := bindMethod
         receiver := true
         params := [⟨"evaluator", .named "RuleUnitExecutor"⟩, ⟨"rule_unit", .slot .unitClass⟩]
         returns := none
         body := [] }] }

def builtin : Catalog :=
  add (add .empty unitClassTemplate) instanceClassTemplate

end Catalog
end RuleEngine
