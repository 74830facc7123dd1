import Mathlib.Data.List.Basic
import Signpost.Config.Basic
import Signpost.Proofs.Text.Separators

/-!
# What a new value changes

A key is looked for in three places: as it is, as a path into the object under its first part, and
in the form it has in the environment. A value put under a key stands in one of these places for the
look-up of another key if it is the other one's first part or its form in the environment, and then
it is met only if no place in front of that one holds a value. All other look-ups stay as they are.

## Main definitions

* `Store.firstPart`: the part of a key in front of its first dot.

## Main results

* `Store.lookup?_insert`: what a look-up finds after a value has been put under a key.
* `Configuration.lookup?_store_insert`: the look-ups that a new value leaves alone.
-/

namespace Signpost

namespace Store

/-- The part of a key in front of its first dot. A path leads into the object under it. -/
def firstPart (key : Text) : Text :=
  key.takeWhile (· ≠ '.')

variable {store : Store} {key query : Text} {value : Json}

/-! ### The three places -/

/-- A path goes from the value under the first part of the key through the others. -/
theorem nested?_eq (store : Store) (key : Text) :
    store.nested? key =
      (Table.get? store (firstPart key)).bind fun value =>
        (Text.splitOn '.' key).tail.foldlM Json.child? value := by
  have hhead : (Text.splitOn '.' key).head? = some (firstPart key) := Text.head?_splitOn key
  obtain ⟨rest, hrest⟩ := List.head?_eq_some_iff.mp hhead
  simp only [nested?, hrest, List.tail_cons, Option.bind_eq_bind]

/-- The places are gone through in turn. -/
theorem lookup?_eq (store : Store) (key : Text) :
    store.lookup? key =
      (Table.get? store key).or
        ((store.nested? key).or (Table.get? store (environmentForm key))) := by
  rw [lookup?]
  cases Table.get? store key with
  | some value => rfl
  | none =>
    cases store.nested? key with
    | some value => rfl
    | none => rfl

/-! ### A new value -/

theorem nested?_insert (store : Store) (key : Text) (value : Json) (query : Text) :
    nested? (Table.insert store key value) query =
      if firstPart query = key then (Text.splitOn '.' query).tail.foldlM Json.child? value
      else store.nested? query := by
  rw [nested?_eq, nested?_eq, Table.get?_insert]
  split <;> rfl

/-- What a look-up finds after a value has been put under a key. -/
theorem lookup?_insert (store : Store) (key : Text) (value : Json) (query : Text) :
    lookup? (Table.insert store key value) query =
      if query = key then some value
      else
        (Table.get? store query).or
          ((if firstPart query = key then (Text.splitOn '.' query).tail.foldlM Json.child? value
            else store.nested? query).or
          (if environmentForm query = key then some value
            else Table.get? store (environmentForm query))) := by
  rw [lookup?_eq, Table.get?_insert, Table.get?_insert, nested?_insert]
  split <;> rfl

theorem lookup?_insert_of_top (hne : query ≠ key)
    (htop : (Table.get? store query).isSome = true) :
    lookup? (Table.insert store key value) query = store.lookup? query := by
  obtain ⟨found, hfound⟩ := Option.isSome_iff_exists.mp htop
  rw [lookup?_insert, if_neg hne, lookup?_eq, hfound, Option.some_or, Option.some_or]

theorem lookup?_insert_of_nested (hne : query ≠ key) (hfirst : firstPart query ≠ key)
    (hpath : (store.nested? query).isSome = true) :
    lookup? (Table.insert store key value) query = store.lookup? query := by
  obtain ⟨found, hfound⟩ := Option.isSome_iff_exists.mp hpath
  rw [lookup?_insert, if_neg hne, if_neg hfirst, lookup?_eq, hfound, Option.some_or,
    Option.some_or]

theorem lookup?_insert_of_ne (hne : query ≠ key) (hfirst : firstPart query ≠ key)
    (hform : environmentForm query ≠ key) :
    lookup? (Table.insert store key value) query = store.lookup? query := by
  rw [lookup?_insert, if_neg hne, if_neg hfirst, if_neg hform, lookup?_eq]

end Store

namespace Configuration

/-- **What a new value changes.** A value put under a key is found under it. The look-up of any
other key stays as it is if that key is a top-level one itself, or if its first part and its form in
the environment differ from the key of the new value; and a key that leads along a path to a value
goes on doing so although the new value stands under its form in the environment, unless that is its
first part, too. -/
theorem lookup?_store_insert (config : Configuration) (key : Text) (value : Json) (query : Text) :
    let store := (config.insert key value).store
    store.lookup? key = some value ∧
      (query ≠ key → (Table.get? config.store query).isSome = true →
        store.lookup? query = config.store.lookup? query) ∧
      (query ≠ key → Store.firstPart query ≠ key → Store.environmentForm query ≠ key →
        store.lookup? query = config.store.lookup? query) ∧
      (query ≠ key → Store.firstPart query ≠ key → Store.environmentForm query = key →
        (config.store.nested? query).isSome = true →
        store.lookup? query = config.store.lookup? query) := by
  refine ⟨?_, Store.lookup?_insert_of_top, Store.lookup?_insert_of_ne, ?_⟩
  · exact (Store.lookup?_insert config.store key value key).trans (if_pos rfl)
  · exact fun hne hfirst _ => Store.lookup?_insert_of_nested hne hfirst

/-- A configuration of an interface and a region. -/
def apiConfiguration : Configuration where
  linksKey := "links".toList
  store :=
    [("api".toList, .object [("version".toList, .text "v2".toList)]),
      ("region".toList, .text "eu".toList)]

/-- A variable of the environment leaves a top-level key, a path and a key without a value alone. -/
theorem lookup?_store_insert_of_version :
    let key := "api_version".toList
    let store := (apiConfiguration.insert key (.text "v9".toList)).store
    store.lookup? key = some (.text "v9".toList) ∧
      ("region".toList ≠ key ∧ (Table.get? apiConfiguration.store "region".toList).isSome = true ∧
        store.lookup? "region".toList = some (.text "eu".toList)) ∧
      ("api.port".toList ≠ key ∧ Store.firstPart "api.port".toList ≠ key ∧
        Store.environmentForm "api.port".toList ≠ key ∧
        store.lookup? "api.port".toList = none) ∧
      ("api.version".toList ≠ key ∧ Store.firstPart "api.version".toList ≠ key ∧
        Store.environmentForm "api.version".toList = key ∧
        (apiConfiguration.store.nested? "api.version".toList).isSome = true ∧
        store.lookup? "api.version".toList = some (.text "v2".toList)) := by
  intro key store
  have hkey (query : Text) := lookup?_store_insert apiConfiguration key (.text "v9".toList) query
  have hregion : "region".toList ≠ key := by decide
  have hport : "api.port".toList ≠ key ∧ Store.firstPart "api.port".toList ≠ key ∧
      Store.environmentForm "api.port".toList ≠ key := by decide
  have hversion : "api.version".toList ≠ key ∧ Store.firstPart "api.version".toList ≠ key ∧
      Store.environmentForm "api.version".toList = key := by decide
  obtain ⟨hne, hfirst, hform⟩ := hport
  obtain ⟨hne', hfirst', hform'⟩ := hversion
  refine ⟨(hkey key).1, ⟨hregion, rfl, ?_⟩, ⟨hne, hfirst, hform, ?_⟩,
    ⟨hne', hfirst', hform', rfl, ?_⟩⟩
  · exact (hkey _).2.1 hregion rfl
  · exact (hkey _).2.2.1 hne hfirst hform
  · exact (hkey _).2.2.2 hne' hfirst' hform' rfl

end Configuration

end Signpost
