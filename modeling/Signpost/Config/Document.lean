import Signpost.Config.EnvFile
import Signpost.Config.Error
import Signpost.Json.Reader
import Signpost.Toml.Reader

/-!
# Configuration documents

A document is written in one of three formats, which the name of its file tells apart. Whatever the
format, it gives values under top-level keys.

## Main definitions

* `DocumentFormat.ofExtension?`, `DocumentFormat.ofPath?`: the format that belongs to a name.
* `DocumentFormat.parse`: the values of a document.
-/

namespace Signpost.DocumentFormat

/-- The format that an extension stands for, in any case. -/
def ofExtension? (extension : Text) : Option DocumentFormat :=
  let extension := extension.toLower
  if extension = "json".toList then some json
  else if extension = "toml".toList then some toml
  else if extension = "env".toList then some env
  else none

/-- The name of the file that a path leads to. Empty parts and single dots are passed over. -/
def fileName? (path : Text) : Option Text := do
  let parts := (Text.splitOn '/' path).filter fun part => part ≠ [] && part ≠ ['.']
  let name ← parts.getLast?
  guard (name ≠ "..".toList)
  return name

/-- What stands behind the last dot of a name, if something stands in front of it. -/
def extension? (name : Text) : Option Text :=
  let reversed := name.reverse
  match reversed.dropWhile (· ≠ '.') with
  | [] | [_] => none
  | _ => some (reversed.takeWhile (· ≠ '.')).reverse

/-- The format of the file that a path leads to. -/
def ofPath? (path : Text) : Option DocumentFormat := do
  let name ← fileName? path
  if name = ".env".toList then return env
  let extension ← extension? name
  ofExtension? extension

/-- The format of the file that a path leads to, or the reason why there is none. -/
def ofPath (path : Text) : Except ConfigError DocumentFormat :=
  match ofPath? path with
  | some format => .ok format
  | none => .error (.unsupportedFile path)

/-- The values of a document. Assignments to variables are kept under their names in lower case; the
environment only serves substitutions in them. -/
def parse (format : DocumentFormat) (environment : Environment) (content : Text) :
    Except ConfigError (Table Json) :=
  match format with
  | json =>
    match Json.parse? content with
    | some (.object entries) => .ok entries
    | some _ => .error .notAnObject
    | none => .error (.malformed json)
  | toml =>
    match Toml.parse? content with
    | some entries => .ok entries
    | none => .error (.malformed toml)
  | env =>
    match EnvFile.entries? environment content with
    | some entries =>
      .ok (Table.ofList (entries.map fun entry => (Text.toLower entry.1, .text entry.2)))
    | none => .error (.malformed env)

end Signpost.DocumentFormat
