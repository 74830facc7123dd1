import Signpost.Config.Environment
import Signpost.Json.Value

/-!
# Stored settings

Settings are values under top-level keys. A key is looked up as it is, then as a path into nested
objects, its parts separated by dots, and then in the form it has when it was loaded from the
environment.

## Main definitions

* `Store`: the settings.
* `Store.lookup?`: the value of a key.
* `Store.placeholder?`: the text of a key, for a placeholder.
-/

namespace Signpost

/-- Values under top-level keys. -/
abbrev Store := Table Json

namespace Store

/-- The value that a dotted path leads to. -/
def nested? (store : Store) (key : Text) : Option Json :=
  match Text.splitOn '.' key with
  | [] => none
  | first :: rest => do
    let value ← Table.get? store first
    rest.foldlM Json.child? value

/-- The form that a key has when it was loaded from the environment. -/
def environmentForm (key : Text) : Text :=
  key.map fun c => Character.asciiLower (Environment.nameChar c)

/-- The value of a key. -/
def lookup? (store : Store) (key : Text) : Option Json :=
  match Table.get? store key with
  | some value => some value
  | none =>
    match store.nested? key with
    | some value => some value
    | none => Table.get? store (environmentForm key)

/-- The text of a scalar. -/
def scalarText? : Json → Option Text
  | .text text => some text
  | .number number => some number.write
  | .bool value => some (if value then "true".toList else "false".toList)
  | _ => none

/-- The text of a key, if its value is a scalar. -/
def placeholder? (store : Store) (key : Text) : Option Text := do
  scalarText? (← store.lookup? key)

end Store

end Signpost
