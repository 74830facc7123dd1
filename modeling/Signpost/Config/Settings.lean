import Signpost.Config.Error
import Signpost.Json.Value
import Signpost.Uri.Base

/-!
# Link settings

The settings that links are built with: the base they are resolved against and the number of
recordings that are kept.

## Main definitions

* `LinkSettings`: the settings.
* `LinkSettings.ofJson`, `LinkSettings.toJson`: reading and writing.
* `LinkSettings.base`, `LinkSettings.validate`: the base, and whether the settings can be used.
-/

namespace Signpost

/-- The settings that links are built with. -/
structure LinkSettings where
  baseUri : Option Text := none
  capacity : Nat := 256
  deriving DecidableEq, Repr

namespace LinkSettings

/-- The key of the base. -/
def baseKey : Text := "base_uri".toList

/-- The key of the capacity. -/
def capacityKey : Text := "recorder_cache_capacity".toList

/-- Reads the base. -/
def readBase : Json → Except ConfigError (Option Text)
  | .null => .ok none
  | .text base => .ok (some base)
  | _ => .error .conversion

/-- Reads the capacity. -/
def readCapacity (value : Json) : Except ConfigError Nat :=
  match value.nat? with
  | some n => .ok n
  | none => .error .conversion

/-- Reads settings from an object or from the list of their values. A missing value has its default;
an object may have further keys, a list no further items. -/
def ofJson (value : Json) : Except ConfigError LinkSettings := do
  let defaults : LinkSettings := {}
  let read (base? capacity? : Option Json) : Except ConfigError LinkSettings := do
    let baseUri ← (base?.map readBase).getD (.ok defaults.baseUri)
    let capacity ← (capacity?.map readCapacity).getD (.ok defaults.capacity)
    return { baseUri, capacity }
  match value with
  | .object _ => read (value.child? baseKey) (value.child? capacityKey)
  | .list [] => read none none
  | .list [base] => read (some base) none
  | .list [base, capacity] => read (some base) (some capacity)
  | _ => .error .conversion

/-- The settings as an object. -/
def toJson (settings : LinkSettings) : Json :=
  .object (Table.ofList
    [(baseKey, Json.ofOption .text settings.baseUri),
      (capacityKey, Json.ofNat settings.capacity)])

/-- The base of links. -/
def base (settings : LinkSettings) : Except ConfigError BaseUri :=
  match settings.baseUri with
  | none => .ok .root
  | some text =>
    match BaseUri.parse text with
    | .ok base => .ok base
    | .error error => .error (.invalidSettings error.message)

/-- Whether the settings can be used, or the first reason why not. -/
def validate (settings : LinkSettings) : Except ConfigError Unit :=
  if settings.capacity = 0 then
    .error (.invalidSettings "recorder_cache_capacity must be greater than zero".toList)
  else settings.base.map fun _ => ()

end LinkSettings

end Signpost
