import Signpost.Error

/-!
# What can go wrong with configuration

Configuration fails while it is loaded, because a document cannot be read, or while it is used,
because a value is missing or has another type. `ConfigError` names the causes, `FileProblem` those
of a file that cannot be read.

## Main definitions

* `DocumentFormat`: the formats of documents.
* `FileProblem`: why a file cannot be read.
* `ConfigError`, `ConfigError.message`: the causes and the text shown for them.
-/

namespace Signpost

/-- A format of configuration documents. -/
inductive DocumentFormat where
  | json
  | toml
  | env
  deriving DecidableEq, Repr

/-- The name of a format. -/
def DocumentFormat.name : DocumentFormat → Text
  | json => "JSON".toList
  | toml => "TOML".toList
  | env => "env".toList

/-- Why a file cannot be read. -/
inductive FileProblem where
  | missing
  | directory
  | nameTooLong
  | nulInName
  deriving DecidableEq, Repr

namespace FileProblem

/-- The greatest length of the name of a file in UTF-8. -/
def maxNameLength : Nat := 255

/-- The greatest length of a path in UTF-8. -/
def maxPathLength : Nat := 4095

/-- Why nothing can be read at a path, seen from an empty directory: a path of dots alone leads to a
directory, and the first other part of a path is missing unless no file can have that name. -/
def ofPath (path : Text) : FileProblem :=
  if Char.ofNat 0 ∈ path then nulInName
  else if path.utf8.length > maxPathLength then nameTooLong
  else
    match path.segments.find? fun part => part ≠ ['.'] ∧ part ≠ ['.', '.'] with
    | some part => if (Text.utf8 part).length > maxNameLength then nameTooLong else missing
    | none => if path = [] then missing else directory

/-- The text shown for a problem. -/
def message : FileProblem → Text
  | missing => "No such file or directory (os error 2)".toList
  | directory => "Is a directory (os error 21)".toList
  | nameTooLong => "File name too long (os error 36)".toList
  | nulInName => "file name contained an unexpected NUL byte".toList

end FileProblem

/-- Why configuration could not be loaded or used. -/
inductive ConfigError where
  /-- There is no value under the key. -/
  | keyNotFound (key : Text)
  /-- The name of a file belongs to no format. -/
  | unsupportedFile (path : Text)
  /-- There is no file to be read as a document. -/
  | unreadableFile (path : Text)
  /-- There is no file to define variables from. -/
  | unreadableVariables (path : Text)
  /-- A line of a file that defines variables is malformed. -/
  | malformedVariables
  /-- A document does not have its format. -/
  | malformed (format : DocumentFormat)
  /-- A document is a value other than an object. -/
  | notAnObject
  /-- Link settings have a value out of range. -/
  | invalidSettings (reason : Text)
  /-- A value has another type. -/
  | conversion
  /-- An environment variable is not defined. -/
  | undefinedVariable
  deriving DecidableEq, Repr

namespace ConfigError

/-- The text shown for a cause. -/
def message : ConfigError → Text
  | keyNotFound key => "Configuration key not found: ".toList ++ key
  | unsupportedFile path =>
    "Failed to load configuration: Unsupported configuration file: ".toList ++ path
  | unreadableFile path =>
    "Failed to load configuration: Failed to read ".toList ++ path ++ ": ".toList ++
      (FileProblem.ofPath path).message
  | unreadableVariables path =>
    "Failed to load configuration: ".toList ++ (FileProblem.ofPath path).message
  | malformedVariables =>
    "Failed to load configuration: Error parsing line: malformed assignment".toList
  | malformed format =>
    "Failed to parse configuration: ".toList ++ format.name ++
      " parse error: malformed document".toList
  | notAnObject => "Failed to parse configuration: JSON configuration must be an object".toList
  | invalidSettings reason => "Invalid link settings: ".toList ++ reason
  | conversion => "Value conversion failed: the value has another type".toList
  | undefinedVariable => "Environment variable error: environment variable not found".toList

end ConfigError

end Signpost
