import Signpost.Toml.Scalar

/-!
# Tables of TOML

A document builds one table out of assignments and headers that may name the same table again and
again. Whether a table may be named again depends on how it came about: by a header, on the way to
another header, or by a dotted key.

## Main definitions

* `Toml.Node`, `Toml.Origin`: what stands under a key, and how a table came about.
* `Toml.assign?`: a value under a dotted key.
* `Toml.openTable?`, `Toml.openElement?`: a table named by a header, and a new element of a list of
  tables.
* `Toml.Node.toJson?`: the value of a node.
-/

namespace Signpost.Toml

/-- How a table came about. -/
inductive Origin where
  /-- A header names it. -/
  | header
  /-- A header names a table inside it. -/
  | implied
  /-- A dotted key names it. -/
  | dotted
  deriving DecidableEq, Repr

/-- What stands under a key. -/
inductive Node where
  /-- A value that nothing can be added to. -/
  | value (value : Json)
  | table (origin : Origin) (entries : List (Text × Node))
  /-- A list of tables that headers add elements to. -/
  | elements (tables : List (List (Text × Node)))

/-- The entries of a table. -/
abbrev Entries := List (Text × Node)

/-- The entries with `node` under a key, in the place of what stood there. -/
def put (entries : Entries) (key : Text) (node : Node) : Entries :=
  match entries with
  | [] => [(key, node)]
  | (k, n) :: rest => if k = key then (key, node) :: rest else (k, n) :: put rest key node

/-- The entries with a value under a dotted key. A table on the way must not be named by a header,
and the last one has to come from a dotted key. A list of tables on the way stands for its last
element, which is no last table. -/
def assign? (entries : Entries) (path : List Text) (key : Text) (value : Json) : Option Entries :=
  match path with
  | [] =>
    match entries.lookup key with
    | none => some (put entries key (.value value))
    | some _ => none
  | first :: path =>
    match entries.lookup first with
    | none => (assign? [] path key value).map fun inner => put entries first (.table .dotted inner)
    | some (.table origin inner) =>
      if origin = .header ∨ (path = [] ∧ origin ≠ .dotted) then none
      else (assign? inner path key value).map fun inner => put entries first (.table origin inner)
    | some (.elements tables) =>
      match path, tables.reverse with
      | next :: path, last :: before =>
        (assign? last (next :: path) key value).map fun last =>
          put entries first (.elements (last :: before).reverse)
      | _, _ => none
    | some (.value _) => none

/-- The entries with `change` made to the table that a path of headers leads to; in a list of tables
it leads to the last one. -/
def changeAt? (change : Entries → Option Entries) (entries : Entries) (path : List Text) :
    Option Entries :=
  match path with
  | [] => change entries
  | first :: path =>
    match entries.lookup first with
    | none => (changeAt? change [] path).map fun inner => put entries first (.table .implied inner)
    | some (.table origin inner) =>
      (changeAt? change inner path).map fun inner => put entries first (.table origin inner)
    | some (.elements tables) =>
      match tables.reverse with
      | [] => none
      | last :: before =>
        (changeAt? change last path).map fun last =>
          put entries first (.elements (last :: before).reverse)
    | some (.value _) => none

/-- The entries with a table named by a header. Only a table on the way to another header may be
there already. -/
def openTable? (key : Text) (entries : Entries) : Option Entries :=
  match entries.lookup key with
  | none => some (put entries key (.table .header []))
  | some (.table .implied inner) => some (put entries key (.table .header inner))
  | some _ => none

/-- The entries with a new element of the list of tables under a key. -/
def openElement? (key : Text) (entries : Entries) : Option Entries :=
  match entries.lookup key with
  | none => some (put entries key (.elements [[]]))
  | some (.elements tables) => some (put entries key (.elements (tables ++ [[]])))
  | some _ => none

/-- The value that a table inside a document stands for: the table itself, or a date or time if the
text of one has to stand under its first key. -/
def ofTable? (entries : Table Json) : Option Json :=
  match entries with
  | (key, value) :: rest =>
    if key = dateTimeKey then do
      let written ← value.text?
      return (← readDateTime? written).toJson
    else some (.object ((key, value) :: rest))
  | [] => some (.object [])

mutual

/-- The value of a node. -/
def Node.toJson? : Node → Option Json
  | .value value => some value
  | .table _ entries => do ofTable? (Table.ofList (← entriesToJson? entries))
  | .elements tables => do return .list (← tablesToJson? tables)

/-- The values of entries. -/
def entriesToJson? : List (Text × Node) → Option (List (Text × Json))
  | [] => some []
  | (key, node) :: rest => do return (key, ← node.toJson?) :: (← entriesToJson? rest)

/-- The values of tables. -/
def tablesToJson? : List (List (Text × Node)) → Option (List Json)
  | [] => some []
  | entries :: rest => do
    let value ← ofTable? (Table.ofList (← entriesToJson? entries))
    return value :: (← tablesToJson? rest)

end

end Signpost.Toml
