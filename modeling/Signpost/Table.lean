import Signpost.Text.Basic

/-!
# Tables keyed by text

A table is a list of entries sorted by key, the keys compared character by character. Inserting
keeps the order and replaces an entry that is there already, so two tables with the same look-ups
are built from the same entries.

## Main definitions

* `Table`: entries sorted by key.
* `Table.get?`, `Table.insert`, `Table.merge`: look-up, insertion and the union in which later
  entries win.
-/

namespace Signpost

/-- Entries sorted by key. -/
abbrev Table (α : Type) := List (Text × α)

namespace Table

variable {α : Type}

/-- The value under a key. -/
def get? (table : Table α) (key : Text) : Option α :=
  match table with
  | [] => none
  | (k, v) :: rest => if key = k then some v else get? rest key

/-- The table with `value` under `key`. -/
def insert (table : Table α) (key : Text) (value : α) : Table α :=
  match table with
  | [] => [(key, value)]
  | (k, v) :: rest =>
    if key = k then (key, value) :: rest
    else if key < k then (key, value) :: (k, v) :: rest
    else (k, v) :: insert rest key value

/-- The table with every entry of `additions` inserted. -/
def merge (table additions : Table α) : Table α :=
  additions.foldl (fun merged entry => merged.insert entry.1 entry.2) table

/-- The table of a list of entries, of which the last one wins under each key. -/
def ofList (entries : List (Text × α)) : Table α :=
  merge [] entries

/-- The keys in ascending order. -/
def keys (table : Table α) : List Text :=
  table.map (·.1)

/-- Insertion changes the look-up of one key alone. -/
theorem get?_insert (table : Table α) (key : Text) (value : α) (query : Text) :
    (table.insert key value).get? query = if query = key then some value else table.get? query := by
  induction table with
  | nil => rfl
  | cons entry rest ih =>
    obtain ⟨k, v⟩ := entry
    by_cases hk : key = k
    · subst hk
      by_cases h : query = key <;> simp [insert, get?, h]
    · by_cases hlt : key < k
      · simp [insert, get?, hk, hlt]
      · simp only [insert, hk, hlt, if_false, get?, ih]
        by_cases h : query = key
        · subst h
          simp [hk]
        · simp [h]

@[simp] theorem get?_insert_self (table : Table α) (key : Text) (value : α) :
    (table.insert key value).get? key = some value := by
  simp [get?_insert]

theorem get?_insert_of_ne (table : Table α) {key query : Text} (value : α) (h : query ≠ key) :
    (table.insert key value).get? query = table.get? query := by
  simp [get?_insert, h]

end Table

end Signpost
