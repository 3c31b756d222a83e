import TemplateBundle.Text.Split

/-!
Contract: the arguments of a command as options with their values, flags and operands.

Owns: the two spellings of options, clusters of short ones, values that are attached or that
follow, and two hyphens after which everything is an operand.
-/

namespace TemplateBundle.CommandLine

/-- An option of a command: its long name, its letter, and whether it takes a value. -/
structure OptionRule where
  name : String
  letter : Option Char
  takesValue : Bool

/-- What is wrong with the use of a command. -/
inductive UsageFault where
  | unknownOption (option : String)
  | missingValue (name : String)
  | unexpectedValue (name : String)
  | missingCommand
  | unknownCommand (name : String)
  | missingOperand (name : String)
  | extraOperands (operands : List String)
  /-- A value has not the form that it needs. -/
  | badValue (text : String)
deriving DecidableEq, Repr

/-- The wording of a fault. -/
def UsageFault.message : UsageFault → String
  | .unknownOption option => "No such option: " ++ option
  | .missingValue name => "Option '--" ++ name ++ "' requires an argument."
  | .unexpectedValue name => "Option '--" ++ name ++ "' does not take a value."
  | .missingCommand => "Missing command."
  | .unknownCommand name => "No such command '" ++ name ++ "'."
  | .missingOperand name => "Missing argument '" ++ name ++ "'."
  | .extraOperands operands =>
      "Got unexpected extra arguments (" ++ String.intercalate " " operands ++ ")"
  | .badValue text => text

/-- One thing that is said to a command. -/
inductive Said where
  | flag (name : String)
  | value (name content : String)
  | operand (content : String)
deriving DecidableEq, Repr

/-- An argument that is no operand: more than a hyphen, and a hyphen first. -/
def isOption (argument : String) : Bool :=
  argument.toList.head? = some '-' && argument ≠ "-"

/-- What one argument says, and the option whose value is still to follow. -/
structure Reading where
  said : List Said
  waiting : Option String

/-- A cluster of letters. The first that takes a value takes the rest of the cluster. -/
def readLetters (rules : List OptionRule) : List Char → Except UsageFault Reading
  | [] => .ok ⟨[], none⟩
  | letter :: rest =>
      match rules.find? fun rule => rule.letter == some letter with
      | none => .error (.unknownOption (String.ofList ['-', letter]))
      | some rule =>
          if rule.takesValue then
            if rest = [] then .ok ⟨[], some rule.name⟩
            else .ok ⟨[.value rule.name (String.ofList rest)], none⟩
          else
            match readLetters rules rest with
            | .ok reading => .ok { reading with said := .flag rule.name :: reading.said }
            | .error fault => .error fault

/-- A long option, with its attached value if there is one. -/
def readLong (rules : List OptionRule) (name : String) (attached : Option String) :
    Except UsageFault Reading :=
  match rules.find? fun rule => rule.name == name with
  | none => .error (.unknownOption ("--" ++ name))
  | some rule =>
      match rule.takesValue, attached with
      | true, some content => .ok ⟨[.value name content], none⟩
      | true, none => .ok ⟨[], some name⟩
      | false, some _ => .error (.unexpectedValue name)
      | false, none => .ok ⟨[.flag name], none⟩

/-- One argument that is an option. -/
def readOption (rules : List OptionRule) (argument : String) : Except UsageFault Reading :=
  match argument.toList with
  | '-' :: '-' :: long =>
      let long := String.ofList long
      match Text.cutAtFirst? '=' long with
      | some (name, content) => readLong rules name (some content)
      | none => readLong rules long none
  | letters => readLetters rules (letters.drop 1)

/-- The arguments of a command, in order. Options may follow operands. -/
def readArguments (rules : List OptionRule) : List String → Except UsageFault (List Said)
  | [] => .ok []
  | argument :: rest =>
      if argument = "--" then .ok (rest.map .operand)
      else if isOption argument then
        match readOption rules argument, rest with
        | .error fault, _ => .error fault
        | .ok ⟨said, none⟩, rest => (readArguments rules rest).map (said ++ ·)
        | .ok ⟨_, some name⟩, [] => .error (.missingValue name)
        | .ok ⟨said, some name⟩, content :: rest =>
            (readArguments rules rest).map fun more => said ++ .value name content :: more
      else (readArguments rules rest).map (.operand argument :: ·)

/-! ## What was said -/

/-- The flag was given. -/
def hasFlag (said : List Said) (name : String) : Bool := said.contains (.flag name)

/-- The values of an option, in order. -/
def valuesOf (said : List Said) (name : String) : List String :=
  said.filterMap fun item =>
    match item with
    | .value other content => if other = name then some content else none
    | _ => none

/-- The value of an option: of several, the last. -/
def value? (said : List Said) (name : String) : Option String := (valuesOf said name).getLast?

/-- The operands, in order. -/
def operandsOf (said : List Said) : List String :=
  said.filterMap fun item =>
    match item with
    | .operand content => some content
    | _ => none

end TemplateBundle.CommandLine
