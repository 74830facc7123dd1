import Signpost.Text.Basic

/-!
# Diagnostic text

How values are shown in diagnostics: texts in quotes with invisible characters spelled out, records
with their field names, lists in brackets.

## Main definitions

* `Diagnostic.quoted`: a text in quotes.
* `Diagnostic.record`, `Diagnostic.list`, `Diagnostic.option`: the other shapes.
-/

namespace Signpost.Diagnostic

/-- A character inside quotes. -/
def quotedChar (c : Char) : Text :=
  if c = '"' then ['\\', '"']
  else if c = '\\' then ['\\', '\\']
  else if c = '\n' then ['\\', 'n']
  else if c = '\r' then ['\\', 'r']
  else if c = '\t' then ['\\', 't']
  else if c.toNat = 0 then ['\\', '0']
  else if Character.isShown c then [c]
  else '\\' :: 'u' :: '{' :: Nat.toDigits 16 c.toNat ++ ['}']

/-- A text in quotes. -/
def quoted (text : Text) : Text :=
  '"' :: text.flatMap quotedChar ++ ['"']

/-- A record with its fields, which are at least one. -/
def record (name : Text) (fields : List (Text × Text)) : Text :=
  name ++ " \x7b ".toList ++
    Text.join ", ".toList (fields.map fun field => field.1 ++ ": ".toList ++ field.2) ++
    " \x7d".toList

/-- A value behind the name of its constructor. -/
def wrapped (name content : Text) : Text :=
  name ++ '(' :: content ++ [')']

/-- A list in brackets. -/
def list (items : List Text) : Text :=
  '[' :: Text.join ", ".toList items ++ [']']

/-- A value that may be missing. -/
def option : Option Text → Text
  | none => "None".toList
  | some content => wrapped "Some".toList content

end Signpost.Diagnostic
