import TemplateBundle.Bridge
import TemplateBundle.Text.Numeral

/-!
Contract: settings from the environment.

Owns: the names of the settings, which are read in any case, their defaults, and the limit
of the time for the compiler.
-/

namespace TemplateBundle.Settings

/-- The variables of an environment, in order. -/
abbrev Variables := List (String × String)

/-- The variable that names the compiler's program. -/
def binaryName : String := "HBSBUNDLE_NODE_BINARY"

/-- The variable that names the compiler's module. -/
def moduleName : String := "HBSBUNDLE_HANDLEBARS_MODULE"

/-- The variable for the time that the compiler may take. -/
def timeoutName : String := "HBSBUNDLE_BRIDGE_TIMEOUT"

/-- The variables that settings are read from. -/
def names : List String := [binaryName, moduleName, timeoutName]

/-- The last value of a variable, whatever the case of its name. -/
def settingOf? (given : Variables) (name : String) : Option String :=
  (given.reverse.find? fun entry => entry.1.toLower == name.toLower).map Prod.snd

/-- The time for the compiler: a number above zero. -/
def timeout (text : String) : Except (List OptionFault) Decimal.Binary64 :=
  match Text.readSettingNumber? text with
  | none => .error [⟨[.name "bridge_timeout"], .floatParsing⟩]
  | some number =>
      if !number.isAboveZero then .error [⟨[.name "bridge_timeout"], .notAbove⟩] else .ok number

/-- The bridge that the environment asks for. -/
def bridge (given : Variables) : Except (List OptionFault) Bridge := do
  let standard := Bridge.standard
  let timeout ← match settingOf? given timeoutName with
    | none => .ok standard.timeout
    | some text => timeout text
  .ok ⟨(settingOf? given binaryName).getD standard.binary,
    (settingOf? given moduleName).getD standard.module, timeout⟩

end TemplateBundle.Settings
