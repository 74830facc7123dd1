import Mathlib.Data.List.Nodup
import Signpost.Table

/-!
# Tables with every key once

The keys of a table built by insertion stand in ascending order, so each of them stands there once.
Of entries with every key once, each is found under its key, in whatever order they are inserted.

## Main definitions

* `Table.IsSorted`: the keys ascend.

## Main results

* `Table.isSorted_ofList`: the keys of a table built from entries ascend.
* `Table.get?_merge`: what is found after entries with every key once have been inserted.
* `Table.get?_eq_some_iff`: the entries are what is found.
* `Table.ofList_eq_of_perm`: entries with every key once make one table in every order.
-/

namespace Signpost.Table

/-- The keys of the table ascend. -/
def IsSorted {α : Type} (table : Table α) : Prop :=
  (keys table).Pairwise (· < ·)

variable {α β : Type} {table additions : Table α} {key query : Text} {value : α}

/-! ### Keys -/

theorem mem_keys_insert :
    query ∈ keys (insert table key value) ↔ query = key ∨ query ∈ keys table := by
  induction table with
  | nil => exact List.mem_cons
  | cons entry rest ih =>
    obtain ⟨k, v⟩ := entry
    rw [insert]
    split
    · rename_i hk
      simp [keys, hk]
    · split
      · simp [keys]
      · change query ∈ k :: keys (insert rest key value) ↔ query = key ∨ query ∈ k :: keys rest
        rw [List.mem_cons, List.mem_cons, ih]
        exact or_left_comm

theorem mem_insert {entry : Text × α} (h : entry ∈ insert table key value) :
    entry = (key, value) ∨ entry ∈ table := by
  induction table with
  | nil => exact List.mem_cons.mp h
  | cons first rest ih =>
    obtain ⟨k, v⟩ := first
    rw [insert] at h
    split at h
    · exact (List.mem_cons.mp h).imp_right (List.mem_cons_of_mem _)
    · split at h
      · exact List.mem_cons.mp h
      · rcases List.mem_cons.mp h with rfl | h
        · exact .inr List.mem_cons_self
        · exact (ih h).imp_right (List.mem_cons_of_mem _)

theorem IsSorted.insert (h : IsSorted table) (key : Text) (value : α) :
    IsSorted (insert table key value) := by
  induction table with
  | nil => exact List.pairwise_singleton _ _
  | cons entry rest ih =>
    obtain ⟨k, v⟩ := entry
    obtain ⟨hfirst, hrest⟩ := List.pairwise_cons.mp h
    rw [Table.insert]
    split
    · rename_i hk
      exact hk ▸ h
    · rename_i hk
      split
      · rename_i hlt
        refine List.pairwise_cons.mpr ⟨fun other hother => ?_, h⟩
        rcases List.mem_cons.mp hother with rfl | hlater
        · exact hlt
        · exact List.lt_trans hlt (hfirst other hlater)
      · rename_i hlt
        refine List.pairwise_cons.mpr ⟨fun other hother => ?_, ih hrest⟩
        rcases mem_keys_insert.mp hother with rfl | hlater
        · by_contra hgt
          exact hk (List.le_antisymm (List.not_lt.mp hgt) (List.not_lt.mp hlt))
        · exact hfirst other hlater

theorem IsSorted.merge (h : IsSorted table) (additions : Table α) :
    IsSorted (merge table additions) := by
  induction additions generalizing table with
  | nil => exact h
  | cons entry additions ih => exact ih (h.insert entry.1 entry.2)

/-- The keys of a table built from entries ascend. -/
theorem isSorted_ofList (entries : List (Text × α)) : IsSorted (ofList entries) := by
  have hnil : IsSorted ([] : Table α) := List.Pairwise.nil
  exact hnil.merge entries

/-- An entry behind all others is inserted at the end. -/
theorem insert_of_lt (h : ∀ other ∈ keys table, other < key) :
    insert table key value = table ++ [(key, value)] := by
  induction table with
  | nil => rfl
  | cons entry rest ih =>
    obtain ⟨k, v⟩ := entry
    obtain ⟨hfirst, hrest⟩ := List.forall_mem_cons.mp h
    have hlt : k < key := hfirst
    have hne : key ≠ k := by
      rintro rfl
      exact List.lt_irrefl _ hlt
    rw [Table.insert, if_neg hne, if_neg (List.not_lt.mpr (List.le_of_lt hlt)), ih hrest,
      List.cons_append]

/-- Entries behind all others are appended. -/
theorem merge_of_isSorted_append (h : IsSorted (table ++ additions)) :
    Table.merge table additions = table ++ additions := by
  induction additions generalizing table with
  | nil => exact (List.append_nil table).symm
  | cons entry additions ih =>
    have hlast : ∀ other ∈ keys table, other < entry.1 := by
      intro other hother
      rw [IsSorted, keys, List.map_append, List.pairwise_append] at h
      exact h.2.2 other hother entry.1 List.mem_cons_self
    change Table.merge (Table.insert table entry.1 entry.2) additions = _
    rw [insert_of_lt hlast, ih (by rwa [List.append_assoc]), List.append_assoc]
    rfl

/-- A table is built from its own entries. -/
theorem ofList_of_isSorted (h : IsSorted table) : ofList table = table :=
  merge_of_isSorted_append h

theorem IsSorted.nodup (h : IsSorted table) : (keys table).Nodup := by
  refine List.Pairwise.imp (fun hlt heq => ?_) h
  subst heq
  exact List.lt_irrefl _ hlt

/-! ### Look-ups -/

theorem get?_eq_none_iff : get? table query = none ↔ query ∉ keys table := by
  induction table with
  | nil => exact iff_of_true rfl List.not_mem_nil
  | cons entry rest ih =>
    obtain ⟨k, v⟩ := entry
    rw [get?]
    split
    · rename_i hk
      exact iff_of_false (Option.some_ne_none v) (not_not.mpr (hk ▸ List.mem_cons_self))
    · rename_i hk
      rw [ih]
      change query ∉ keys rest ↔ query ∉ k :: keys rest
      rw [List.mem_cons, not_or, and_iff_right hk]

/-- Of entries with every key once, each is found. -/
theorem get?_eq_some_iff (h : (keys table).Nodup) :
    get? table query = some value ↔ (query, value) ∈ table := by
  induction table with
  | nil => exact iff_of_false (Option.some_ne_none value ∘ Eq.symm) List.not_mem_nil
  | cons entry rest ih =>
    obtain ⟨k, v⟩ := entry
    obtain ⟨hfirst, hrest⟩ := List.nodup_cons.mp h
    rw [get?, List.mem_cons, Prod.mk.injEq]
    split
    · rename_i hk
      subst hk
      rw [Option.some_inj]
      refine ⟨fun hv => .inl ⟨rfl, hv.symm⟩, ?_⟩
      rintro (⟨-, hv⟩ | hmem)
      · exact hv.symm
      · exact absurd (List.mem_map_of_mem hmem) hfirst
    · rename_i hk
      rw [ih hrest]
      exact ⟨.inr, fun hmem => hmem.resolve_left fun heq => hk heq.1⟩

/-- What is found after entries with every key once have been inserted. -/
theorem get?_merge (h : (keys additions).Nodup) (table : Table α) (query : Text) :
    get? (merge table additions) query = (get? additions query).or (get? table query) := by
  induction additions generalizing table with
  | nil => rfl
  | cons entry additions ih =>
    obtain ⟨k, v⟩ := entry
    obtain ⟨hfirst, hrest⟩ := List.nodup_cons.mp h
    have hlater : get? (merge (insert table k v) additions) query = _ := ih hrest _
    change get? (merge (insert table k v) additions) query = _
    rw [hlater, get?_insert, get?]
    split
    · rename_i hquery
      rw [hquery, get?_eq_none_iff.mpr hfirst, Option.none_or, Option.some_or]
    · rfl

theorem get?_ofList {entries : List (Text × α)} (h : (keys entries).Nodup) (query : Text) :
    get? (ofList entries) query = get? entries query := by
  rw [ofList, get?_merge h, get?, Option.or_none]

/-! ### Orders of entries -/

/-- Entries stand in ascending order of their keys in one way only. -/
theorem IsSorted.eq_of_perm {other : Table α} (h : IsSorted table) (hother : IsSorted other)
    (hperm : table.Perm other) : table = other := by
  refine hperm.eq_of_pairwise (fun a b _ _ hlt hgt => ?_) (List.pairwise_map.mp h)
    (List.pairwise_map.mp hother)
  exact absurd hgt (List.lt_asymm hlt)

/-- Entries with every key once are told by what is found. -/
theorem perm_of_get?_eq {other : Table α} (h : (keys table).Nodup) (hother : (keys other).Nodup)
    (hsame : ∀ query, get? table query = get? other query) : table.Perm other := by
  refine (List.perm_ext_iff_of_nodup (List.Nodup.of_map _ h) (List.Nodup.of_map _ hother)).mpr
    fun entry => ?_
  rw [← get?_eq_some_iff h, ← get?_eq_some_iff hother, hsame]

/-- A table built from entries with every key once holds just these. -/
theorem perm_ofList {entries : List (Text × α)} (h : (keys entries).Nodup) :
    (ofList entries).Perm entries :=
  perm_of_get?_eq (isSorted_ofList entries).nodup h (get?_ofList h)

/-- Entries with every key once make one table, in whatever order they come. -/
theorem ofList_eq_of_perm {entries others : List (Text × α)} (hperm : entries.Perm others)
    (h : (keys entries).Nodup) : ofList entries = ofList others := by
  have hothers : (keys others).Nodup := (hperm.map Prod.fst).nodup_iff.mp h
  exact (isSorted_ofList entries).eq_of_perm (isSorted_ofList others)
    ((perm_ofList h).trans (hperm.trans (perm_ofList hothers).symm))

/-! ### Other values -/

theorem get?_map (f : α → β) (table : Table α) (query : Text) :
    get? (table.map fun entry => (entry.1, f entry.2)) query = (get? table query).map f := by
  induction table with
  | nil => rfl
  | cons entry rest ih =>
    obtain ⟨k, v⟩ := entry
    rw [List.map_cons, get?, get?, ih]
    split <;> rfl

theorem keys_map (f : α → β) (table : Table α) :
    keys (table.map fun entry => (entry.1, f entry.2)) = keys table := by
  rw [keys, List.map_map]
  rfl

end Signpost.Table
