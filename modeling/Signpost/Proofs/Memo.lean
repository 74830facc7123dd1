import Mathlib.Data.Finset.Card
import Signpost.Memo

/-!
# Memo tables over a run of look-ups

A look-up leaves the answers that are at hand alone and adds at most the one it worked out. Hence a
property that links answers to their keys holds of a table as soon as it holds of every answer that
was worked out, and the two counters of a table tell how many keys were looked up and how often.

## Main definitions

* `Memo.Holds`: every answer at hand has a property.
* `Memo.Tallies`, `Memo.Counts`: the keys and the counters of a table after certain look-ups.

## Main results

* `Memo.find?_fetch`: what a look-up changes.
* `Memo.Holds.fetch`, `Memo.Tallies.fetch`: one look-up keeps a property, and counts.
* `Memo.Tallies.size_eq_card`: a table has as many answers as different keys were looked up.
-/

namespace Signpost.Memo

variable {κ α : Type} [DecidableEq κ] {memo : Memo κ α} {key : κ}

/-! ### Answers -/

theorem fetch_of_find?_eq_some {answer : α} (h : memo.find? key = some answer)
    (compute : Unit → α) : memo.fetch key compute = (answer, memo.hit) := by
  rw [fetch, h]

theorem fetch_of_find?_eq_none (h : memo.find? key = none) (compute : Unit → α) :
    memo.fetch key compute = (compute (), memo.store key (compute ())) := by
  rw [fetch, h]

theorem fetch_fst (memo : Memo κ α) (key : κ) (compute : Unit → α) :
    (memo.fetch key compute).1 = (memo.find? key).getD (compute ()) := by
  cases h : memo.find? key with
  | none => rw [fetch_of_find?_eq_none h, Option.getD_none]
  | some answer => rw [fetch_of_find?_eq_some h, Option.getD_some]

/-- A look-up puts the answer to its own key at hand and changes nothing else. -/
theorem find?_fetch (memo : Memo κ α) (key : κ) (compute : Unit → α) (query : κ) :
    (memo.fetch key compute).2.find? query =
      if query = key then some ((memo.find? key).getD (compute ())) else memo.find? query := by
  cases h : memo.find? key with
  | none => rw [fetch_of_find?_eq_none h, find?_store, Option.getD_none]
  | some answer =>
    rw [fetch_of_find?_eq_some h, find?_hit, Option.getD_some]
    split
    · rename_i hquery
      rw [hquery, h]
    · rfl

/-- Every answer at hand has the property `p` together with its key. -/
def Holds (memo : Memo κ α) (p : κ → α → Prop) : Prop :=
  ∀ key answer, memo.find? key = some answer → p key answer

namespace Holds

variable {p : κ → α → Prop}

theorem empty : ({} : Memo κ α).Holds p :=
  fun _ _ h => absurd h (Option.not_mem_none _)

theorem store (h : memo.Holds p) {answer : α} (hanswer : p key answer) :
    (memo.store key answer).Holds p := by
  intro query found hfound
  rw [find?_store] at hfound
  split at hfound
  · rename_i hquery
    rw [← Option.some_inj.mp hfound, hquery]
    exact hanswer
  · exact h query found hfound

/-- The answer of a look-up has the property, and so have all answers afterwards. -/
theorem fetch (h : memo.Holds p) (compute : Unit → α) (hcompute : p key (compute ())) :
    p key (memo.fetch key compute).1 ∧ (memo.fetch key compute).2.Holds p := by
  cases hfind : memo.find? key with
  | none =>
    rw [fetch_of_find?_eq_none hfind]
    exact ⟨hcompute, h.store hcompute⟩
  | some answer =>
    rw [fetch_of_find?_eq_some hfind]
    exact ⟨h key answer hfind, h⟩

end Holds

/-! ### Counters -/

/-- The keys of a table and its counters after look-ups of the keys `asked`: an answer is at hand
for every one of them and for nothing else, each was worked out once, and every look-up was
counted. -/
structure Tallies (memo : Memo κ α) (asked : List κ) : Prop where
  nodup : (memo.entries.map Prod.fst).Nodup
  mem_keys : ∀ key, key ∈ memo.entries.map Prod.fst ↔ key ∈ asked
  misses : memo.misses = memo.size
  total : memo.hits + memo.misses = asked.length

theorem find?_eq_none_iff : memo.find? key = none ↔ key ∉ memo.entries.map Prod.fst := by
  rw [find?, List.lookup_eq_none_iff]
  constructor
  · intro h hmem
    obtain ⟨entry, hentry, rfl⟩ := List.mem_map.mp hmem
    exact absurd (h entry hentry) (by simp)
  · intro h entry hentry
    rw [bne_iff_ne]
    rintro rfl
    exact h (List.mem_map_of_mem hentry)

namespace Tallies

variable {asked : List κ}

omit [DecidableEq κ] in
theorem empty : ({} : Memo κ α).Tallies [] where
  nodup := List.nodup_nil
  mem_keys _ := Iff.rfl
  misses := rfl
  total := rfl

theorem hit (h : memo.Tallies asked) (hkey : memo.find? key ≠ none) :
    memo.hit.Tallies (asked ++ [key]) where
  nodup := h.nodup
  mem_keys query := by
    have hmem : key ∈ asked := by
      rw [← h.mem_keys]
      by_contra hnot
      exact hkey (find?_eq_none_iff.mpr hnot)
    rw [List.mem_append, List.mem_singleton, ← h.mem_keys query]
    refine ⟨.inl, ?_⟩
    rintro (hquery | rfl)
    · exact hquery
    · exact (h.mem_keys query).mpr hmem
  misses := h.misses
  total := by
    have := h.total
    simp only [Memo.hit, List.length_append, List.length_singleton]
    omega

theorem store (h : memo.Tallies asked) (hkey : memo.find? key = none) (answer : α) :
    (memo.store key answer).Tallies (asked ++ [key]) where
  nodup := List.nodup_cons.mpr ⟨find?_eq_none_iff.mp hkey, h.nodup⟩
  mem_keys query := by
    rw [Memo.store, List.map_cons, List.mem_cons, h.mem_keys, List.mem_append, List.mem_singleton,
      or_comm]
  misses := by
    rw [size, Memo.store, List.length_cons, h.misses, size]
  total := by
    have := h.total
    simp only [Memo.store, List.length_append, List.length_singleton]
    omega

theorem fetch (h : memo.Tallies asked) (compute : Unit → α) :
    (memo.fetch key compute).2.Tallies (asked ++ [key]) := by
  cases hfind : memo.find? key with
  | none =>
    rw [fetch_of_find?_eq_none hfind]
    exact h.store hfind (compute ())
  | some answer =>
    rw [fetch_of_find?_eq_some hfind]
    exact h.hit (by rw [hfind]; exact Option.some_ne_none answer)

/-- A table has as many answers as different keys were looked up. -/
theorem size_eq_card (h : memo.Tallies asked) : memo.size = asked.toFinset.card := by
  have hkeys : (memo.entries.map Prod.fst).toFinset = asked.toFinset := by
    ext key
    rw [List.mem_toFinset, List.mem_toFinset, h.mem_keys]
  rw [← hkeys, List.toFinset_card_of_nodup h.nodup, List.length_map, size]

end Tallies

/-- The counters of a table agree with its look-ups: every answer was worked out once, there is one
for each different key, and each look-up was counted. -/
def Counts (memo : Memo κ α) (asked : List κ) : Prop :=
  memo.misses = memo.size ∧ memo.size = asked.toFinset.card ∧
    memo.hits + memo.misses = asked.length

theorem Tallies.counts {asked : List κ} (h : memo.Tallies asked) : memo.Counts asked :=
  ⟨h.misses, h.size_eq_card, h.total⟩

end Signpost.Memo
