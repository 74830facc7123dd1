import Signpost.Table
import Signpost.Text.Case

/-!
# The environment

The variables of a process in the order in which they were defined, and the two ways of reading
settings from them: one variable for a key, or every variable under a lead, keyed by the rest of its
name in lower case.

## Main definitions

* `Environment`: the variables of a process.
* `Environment.placeholder?`: the value of a placeholder.
* `EnvScope`: the variables that hold the settings of one program.
-/

namespace Signpost

/-- The variables of a process, in the order of their definition. -/
structure Environment where
  vars : List (Text × Text) := []
  deriving DecidableEq, Repr

namespace Environment

/-- The value of a variable: what follows its name and an equals sign in a definition
`NAME=value`. A name with an equals sign in it so finds the rest of a value. -/
def get? (environment : Environment) (name : Text) : Option Text :=
  environment.vars.findSome? fun (defined, value) =>
    Text.stripLead? (name ++ ['=']) (defined ++ '=' :: value)

/-- The environment with a further variable, unless it is defined already. -/
def defineNew (environment : Environment) (name value : Text) : Environment :=
  if (environment.get? name).isSome then environment
  else ⟨environment.vars ++ [(name, value)]⟩

/-- A name behind a lead and an underscore. -/
def underLead (lead : Option Text) (name : Text) : Text :=
  match lead with
  | some lead => lead ++ '_' :: name
  | none => name

/-- The character that a dot, a dash or any other character of a key becomes in a name. -/
def nameChar (c : Char) : Char :=
  if c = '.' ∨ c = '-' then '_' else c

/-- The variable that a placeholder reads. -/
def placeholderName (lead : Option Text) (key : Text) : Text :=
  underLead lead (key.toUpper.map nameChar)

/-- The value of a placeholder. -/
def placeholder? (environment : Environment) (lead : Option Text) (key : Text) : Option Text :=
  environment.get? (placeholderName lead key)

end Environment

/-- The variables that hold the settings of one program: those whose names start with a lead. -/
structure EnvScope where
  lead : Option Text := none
  deriving DecidableEq, Repr

namespace EnvScope

/-- The key under which a variable is loaded, if it is. Underscores behind the lead are dropped. -/
def key? (scope : EnvScope) (name : Text) : Option Text :=
  match scope.lead with
  | none => some name.toLower
  | some lead => do
    let rest ← Text.stripLead? lead name
    let rest := rest.dropWhile (· = '_')
    guard (rest ≠ [])
    return Text.toLower rest

/-- All variables that are loaded, by key. Of two under one key the later one wins. -/
def table (scope : EnvScope) (environment : Environment) : Table Text :=
  Table.ofList (environment.vars.filterMap fun (name, value) =>
    (scope.key? name).map fun key => (key, value))

/-- The variable for a key. -/
def variableName (scope : EnvScope) (key : Text) : Text :=
  Environment.underLead scope.lead
    (key.map fun c => Character.asciiUpper (Environment.nameChar c))

/-- The value of the variable for a key. -/
def value? (scope : EnvScope) (environment : Environment) (key : Text) : Option Text :=
  environment.get? (scope.variableName key)

end EnvScope

end Signpost
