import Signpost.Number.Layout
import Signpost.Table

/-!
# JSON values

The values that configuration holds and that links are published as. A number is an integer of
sixty-four bits, with or without sign, or a floating-point number. An object is a table: its keys
are sorted and distinct.

## Main definitions

* `Json`, `JsonNumber`: values and numbers.
* `Json.child?`, `Json.text?`, `Json.nat?`, `Json.items`, `Json.entries`: what a value holds.
* `Json.write`: a value as text.
-/

namespace Signpost

/-- A number of JSON. -/
inductive JsonNumber where
  /-- An integer from `-2 ^ 63` up to `2 ^ 64 - 1`. -/
  | integer (n : Int)
  | float (x : Binary)
  deriving DecidableEq, Repr

/-- A number as text. -/
def JsonNumber.write : JsonNumber → Text
  | integer n => Text.ofInt n
  | float x => FloatLayout.scientific.write binary64 x

/-- A value of JSON. -/
inductive Json where
  | null
  | bool (value : Bool)
  | number (value : JsonNumber)
  | text (value : Text)
  | list (items : List Json)
  | object (entries : List (Text × Json))
  deriving Inhabited

namespace Json

/-- A natural number as a value. -/
def ofNat (n : Nat) : Json :=
  .number (.integer n)

/-- A value that may be missing. -/
def ofOption {α : Type} (f : α → Json) : Option α → Json
  | none => .null
  | some a => f a

/-- An object from its entries, of which the last one wins under each key. -/
def ofEntries (entries : List (String × Json)) : Json :=
  .object (Table.ofList (entries.map fun entry => (entry.1.toList, entry.2)))

/-- The value under a key of an object. -/
def child? (value : Json) (key : Text) : Option Json :=
  match value with
  | object entries => Table.get? entries key
  | _ => none

/-- The text of a value that is one. -/
def text? : Json → Option Text
  | text value => some value
  | _ => none

/-- The number of a value that is a natural one. -/
def nat? : Json → Option Nat
  | number (.integer (.ofNat n)) => some n
  | _ => none

/-- The items of a list; any other value has none. -/
def items : Json → List Json
  | list values => values
  | _ => []

/-- The entries of an object; any other value has none. -/
def entries : Json → List (Text × Json)
  | object fields => fields
  | _ => []

/-- A character inside a quoted text. -/
def writeChar (c : Char) : Text :=
  if c = '"' then ['\\', '"']
  else if c = '\\' then ['\\', '\\']
  else if c.toNat < 32 then
    '\\' :: 'u' :: '0' :: '0' :: [Nat.digitChar (c.toNat / 16), Nat.digitChar (c.toNat % 16)]
  else [c]

/-- A text in quotes. -/
def writeText (text : Text) : Text :=
  '"' :: text.flatMap writeChar ++ ['"']

mutual

/-- A value as text, without white space. -/
def write : Json → Text
  | null => "null".toList
  | bool value => if value then "true".toList else "false".toList
  | number value => value.write
  | text value => writeText value
  | list items => '[' :: Text.join [','] (writeItems items) ++ [']']
  | object entries => '{' :: Text.join [','] (writeEntries entries) ++ ['}']

/-- The texts of the items of a list. -/
def writeItems : List Json → List Text
  | [] => []
  | item :: items => write item :: writeItems items

/-- The texts of the entries of an object. -/
def writeEntries : List (Text × Json) → List Text
  | [] => []
  | (key, value) :: entries => (writeText key ++ ':' :: write value) :: writeEntries entries

end

end Json

end Signpost
