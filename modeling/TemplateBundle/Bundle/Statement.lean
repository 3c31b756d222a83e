import TemplateBundle.Namespace.Registry
import TemplateBundle.Value.Document

/-!
Contract: the statements that a generated module is made of.

Owns: the statements, their text, and a list of them joined by a separator.

Does not own: which statements a bundle has, and in which order (`Bundle.Assembly`).
-/

namespace TemplateBundle

/-- A statement of the generated module. Names are values: a function may name a template
by something else than a text. -/
inductive Statement where
  | commonjsOpen (runtime : String)
  | amdOpen (dependencies : List String) (runtime : String)
  | nodeGlobal
  | nodeRuntime (runtime : String)
  /-- Declares namespaces, given by their segments. -/
  | declare (paths : List (List String))
  /-- Registers a partial under a name. -/
  | register (runtime : String) (name : Value) (body : String)
  /-- Registers a partial and assigns it into a namespace. -/
  | registerIn (runtime : String) (name : Value) (target : List String) (body : String)
  /-- Assigns a template into a namespace. -/
  | assign (target : List String) (name : Value) (body : String)
  /-- Returns a template from a CommonJS module. -/
  | returnTemplate (body : String)
  /-- Returns a template from an AMD module, without a semicolon. -/
  | returnTemplateBare (body : String)
  /-- A template on its own. -/
  | evaluate (body : String)
  | nodeExport (target : List String)
  /-- Returns the namespace that all declarations share, by its written form. -/
  | returnShared (path : String)
  /-- Returns the namespace of the last template. -/
  | returnLast (target : List String)
  | amdClose
  | commonjsClose
deriving DecidableEq

namespace Statement

/-- The literal of a name. -/
def nameLiteral (name : Value) : String := name.document .all

/-- The place in a namespace that a name is assigned to. -/
def place (target : List String) (name : Value) : String :=
  Namespace.expression target ++ "[" ++ nameLiteral name ++ "]"

/-- The list of dependencies in a module's opening. -/
def dependencyList (dependencies : List String) : String :=
  String.intercalate ", " (dependencies.map Text.singleQuoted)

/-- The text of a statement. -/
def text : Statement → String
  | .commonjsOpen runtime => "module.exports = function(" ++ runtime ++ ") \x7b"
  | .amdOpen dependencies runtime =>
      "define([" ++ dependencyList dependencies ++ "], function(" ++ runtime ++ ") \x7b"
  | .nodeGlobal => "var glob = ('undefined' === typeof window) ? global : window,"
  | .nodeRuntime runtime => runtime ++ " = glob." ++ runtime ++ " || require('handlebars');"
  | .declare paths => Namespace.declarationsText paths
  | .register runtime name body =>
      runtime ++ ".registerPartial(" ++ nameLiteral name ++ ", " ++ body ++ ");"
  | .registerIn runtime name target body =>
      runtime ++ ".registerPartial(" ++ nameLiteral name ++ ", " ++ place target name ++ " = " ++
        body ++ ");"
  | .assign target name body => place target name ++ " = " ++ body ++ ";"
  | .returnTemplate body => "return " ++ body ++ ";"
  | .returnTemplateBare body => "return " ++ body
  | .evaluate body => "(" ++ body ++ ");"
  | .nodeExport target =>
      "if (typeof exports === 'object' && exports) \x7bmodule.exports = " ++
        Namespace.expression target ++ ";\x7d"
  | .returnShared path => "return " ++ path ++ ";"
  | .returnLast target => "return " ++ Namespace.expression target ++ ";"
  | .amdClose => "\x7d);"
  | .commonjsClose => "\x7d;"

/-- The text of some statements, with a separator between them. -/
def render (separator : String) (statements : List Statement) : String :=
  String.intercalate separator (statements.map text)

end Statement

end TemplateBundle
