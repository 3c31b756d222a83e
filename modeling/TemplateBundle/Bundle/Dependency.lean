import TemplateBundle.Environment
import TemplateBundle.Options.Basic

/-!
Contract: the dependencies of an AMD module.

Owns: the kinds of declaration, the rule of a raw value, whose list is taken as it is given,
and the dependencies that a rule gives for one wrapper.
-/

namespace TemplateBundle.DependencyRule

variable {Item : Type}

/-- The dependency of a module that names none of its own. -/
def standardDependency : String := "handlebars"

/-- There is an AMD wrapper. -/
def isOn : DependencyRule Item → Bool
  | .off => false
  | _ => true

/-- The rule that a raw value is, functions among values included. -/
def ofValue : Value → Except ConfigFault (DependencyRule Value)
  | .null => .ok .off
  | .bool false => .ok .off
  | .bool true => .ok .standard
  | .text name => .ok (.named name)
  | .list items => .ok (.listed items)
  | .callable function => .ok (.computed function)
  | other => .error (.unsupportedDependency other)

/-- The dependencies that do not depend on the template, given how a name is an item. -/
def fixedDependencies (ofName : String → Item) : DependencyRule Item → List Item
  | .off => []
  | .standard => [ofName standardDependency]
  | .named name => [ofName name]
  | .listed items => items
  | .computed _ => []

/-- The dependencies of a wrapper, given the name it is for, the syntax tree and the compiled
text. A computed dependency has to be a text that is not empty. -/
def dependencies (ofName : String → Item) (environment : Environment) (name ast compiled : Value) :
    DependencyRule Item → Except Failure (List Item)
  | .computed function =>
      match environment.call function [name, ast, compiled] with
      | .error failure => .error failure
      | .ok (.text dependency) =>
          if dependency = "" then .error (.config (.dependencyAnswer (.text "")))
          else .ok [ofName dependency]
      | .ok answer => .error (.config (.dependencyAnswer answer))
  | rule => .ok (rule.fixedDependencies ofName)

end TemplateBundle.DependencyRule
