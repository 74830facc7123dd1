import Signpost.Config.Document
import Signpost.Config.Settings
import Signpost.Config.Store

/-!
# Configuration

The configuration of a program collects values from its environment and from documents, later ones
replacing earlier ones under the same top-level key, and hands them out by key.

## Main definitions

* `Configuration`: the values, and the lead of the environment variables that belong to them.
* `Configuration.insert`, `Configuration.addEnvironment`, `Configuration.addEnvFile`,
  `Configuration.addDocument`, `Configuration.addFile`: adding values.
* `Configuration.get`, `Configuration.getAs`, `Configuration.getOrDefault`: the value of a key, of
  any type, of one type, or a default.
* `Configuration.linkSettings`: the settings that links are built with.
-/

namespace Signpost

-- Powers are those of numbers, whatever other powers a module knows of.
attribute [local instance (high)] instPowNat

/-- The configuration of a program. -/
structure Configuration where
  /-- The key that the settings of links stand under. -/
  linksKey : Text
  store : Store := []
  /-- What the names of its environment variables start with. -/
  lead : Option Text := none

namespace Configuration

/-- The configuration with a value under a top-level key. -/
def insert (config : Configuration) (key : Text) (value : Json) : Configuration :=
  { config with store := Table.insert config.store key value }

/-- The configuration with the values of a table, which replace those under the same key. -/
def addAll (config : Configuration) (values : Table Json) : Configuration :=
  { config with store := Table.merge config.store values }

/-- The configuration with the values of its environment variables. -/
def addEnvironment (config : Configuration) (environment : Environment) : Configuration :=
  let loaded := EnvScope.table ⟨config.lead⟩ environment
  config.addAll (loaded.map fun entry => (entry.1, .text entry.2))

/-- Defines the variables of a file and loads the environment. The variables in front of a malformed
line are defined even if that line makes the loading fail. Without `path` the file has its usual
name, and neither its absence nor a malformed line matters. -/
def addEnvFile (config : Configuration) (environment : Environment) (path : Option Text)
    (content? : Option Text) : Except ConfigError Configuration × Environment :=
  match content? with
  | none =>
    match path with
    | some path => (.error (.unreadableVariables path), environment)
    | none => (.ok (config.addEnvironment environment), environment)
  | some content =>
    let (environment, sound) := EnvFile.define environment content
    if path.isSome && !sound then (.error .malformedVariables, environment)
    else (.ok (config.addEnvironment environment), environment)

/-- The configuration with the values of a document. -/
def addDocument (config : Configuration) (environment : Environment) (format : DocumentFormat)
    (content : Text) : Except ConfigError Configuration := do
  return config.addAll (← format.parse environment content)

/-- The configuration with the values of the document in a file, which may be missing. Without a
format, the name of the file decides. -/
def addFile (config : Configuration) (environment : Environment) (path : Text)
    (format? : Option DocumentFormat) (content? : Option Text) :
    Except ConfigError Configuration := do
  let format ←
    match format? with
    | some format => pure format
    | none => DocumentFormat.ofPath path
  match content? with
  | some content => config.addDocument environment format content
  | none => throw (.unreadableFile path)

/-- Whether there is a value under a key. -/
def contains (config : Configuration) (key : Text) : Bool :=
  (config.store.lookup? key).isSome

/-- The value under a key. -/
def get (config : Configuration) (key : Text) : Except ConfigError Json :=
  match config.store.lookup? key with
  | some value => .ok value
  | none => .error (.keyNotFound key)

/-- A value that is a text. -/
def asText : Json → Except ConfigError Text
  | .text text => .ok text
  | _ => .error .conversion

/-- A value that is an integer of sixty-four bits with a sign. -/
def asInt : Json → Except ConfigError Int
  | .number (.integer n) => if n < 2 ^ (63 : Nat) then .ok n else .error .conversion
  | _ => .error .conversion

/-- A value that is a truth value. -/
def asBool : Json → Except ConfigError Bool
  | .bool value => .ok value
  | _ => .error .conversion

/-- A value that is a list of integers of sixty-four bits with a sign. -/
def asInts : Json → Except ConfigError (List Int)
  | .list items => items.mapM asInt
  | _ => .error .conversion

/-- The value under a key, of one type. -/
def getAs {α : Type} (config : Configuration) (read : Json → Except ConfigError α)
    (key : Text) : Except ConfigError α := do
  read (← config.get key)

/-- A value in the type of another one: a text, a truth value, a list of integers or an integer. -/
def inTypeOf (sample value : Json) : Except ConfigError Json :=
  let integer (n : Int) : Json := .number (.integer n)
  match sample with
  | .text _ => (asText value).map .text
  | .bool _ => (asBool value).map .bool
  | .list _ => (asInts value).map fun ns => .list (ns.map integer)
  | _ => (asInt value).map integer

/-- The value under a key if it has the type of the default, else the default. -/
def getOrDefault (config : Configuration) (key : Text) (default : Json) : Json :=
  (config.getAs (inTypeOf default) key).toOption.getD default

/-- The settings that links are built with, if they can be used. -/
def linkSettings (config : Configuration) : Except ConfigError LinkSettings := do
  let settings ←
    match config.store.lookup? config.linksKey with
    | some value => LinkSettings.ofJson value
    | none => pure {}
  settings.validate
  return settings

end Configuration

end Signpost
