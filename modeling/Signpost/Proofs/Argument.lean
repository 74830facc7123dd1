import Signpost.Argument.Basic
import Signpost.Binding.Call
import Signpost.Proofs.Binding.Call
import Signpost.Proofs.Recording.Reuse
import Signpost.Proofs.Table

/-!
# Maps whose entries come in any order

A map gives its entries in an order of its own, and one map may give them in another order the next
time. It is recorded as the table of its entries, which is the same for all these orders as long as
no two keys have the same text. So nothing that is made of the argument depends on the order: not
the pairs it adds to a query, and not the recording that is found under it. A map among the values
is recorded before the map it is in, so that its own order does not matter either.

## Main results

* `Argument.ofUnordered_eq_keyed`: a map is recorded as the table of its entries.
* `CallBinding.bind_keyed`: the pairs that a map adds to a query.
* `Argument.ofUnordered_perm`: one map in two orders.
-/

namespace Signpost

/-- The entries of a map add their pairs to a query one after the other. -/
theorem CallBinding.bind_keyed {parameter : Parameter} {name : Text} (formatters : Formatters)
    (mapping : Mapping) (call : Call) (method : Method) (binding : CallBinding) (index : Nat)
    (hrole : parameter.role = .query) (hname : parameter.name? = some name)
    (entries : List (Text × Argument)) :
    binding.bind formatters mapping call method index parameter (.keyed entries) =
      .ok { binding with
        pairs := binding.pairs ++ entries.flatMap fun entry =>
          QueryPair.ofEntry formatters entry.1 entry.2 } := by
  have hpairs : QueryPair.ofArgument formatters parameter name (.keyed entries) = .ok _ := rfl
  refine bind_eq_ok_iff.mpr ⟨⟨fun hpath => ?_, fun _ => ⟨name, _, hname, hpairs⟩⟩,
    (absorb_query hrole hname hpairs).symm⟩
  exact absurd (hrole.symm.trans hpath) (by decide)

namespace Argument

variable {entry : Text × Argument} {entries sorted : Table Argument}

/-- An entry with a key of its own is put where a table has it. -/
theorem insertByKey_eq_insert (h : entry.1 ∉ Table.keys sorted) :
    insertByKey entry sorted = Table.insert sorted entry.1 entry.2 := by
  induction sorted with
  | nil => rfl
  | cons other rest ih =>
    have hne : entry.1 ≠ other.1 := List.ne_of_not_mem_cons h
    rw [insertByKey, Table.insert, if_neg hne, ih (List.not_mem_of_not_mem_cons h)]

/-- Entries with keys of their own are put where a table has them. -/
theorem foldl_insertByKey_eq_merge (hkeys : (Table.keys entries).Nodup)
    (hnew : ∀ key ∈ Table.keys entries, key ∉ Table.keys sorted) :
    entries.foldl (fun sorted entry => insertByKey entry sorted) sorted =
      Table.merge sorted entries := by
  induction entries generalizing sorted with
  | nil => rfl
  | cons entry rest ih =>
    obtain ⟨hfirst, hrest⟩ := List.nodup_cons.mp hkeys
    obtain ⟨hentry, hlater⟩ := List.forall_mem_cons.mp hnew
    rw [List.foldl_cons, insertByKey_eq_insert hentry, ih hrest fun key hkey hmem => ?_]
    · rfl
    · rcases Table.mem_keys_insert.mp hmem with rfl | hold
      · exact hfirst hkey
      · exact hlater key hkey hold

/-- A map is recorded as the table of its entries. -/
theorem ofUnordered_eq_keyed (hkeys : (Table.keys entries).Nodup) :
    ofUnordered entries = .keyed (Table.ofList entries) := by
  rw [ofUnordered, foldl_insertByKey_eq_merge hkeys fun _ _ => List.not_mem_nil]
  rfl

/-- A map is recorded as the same argument in every order of its entries. -/
theorem ofUnordered_eq_of_perm {order other : List (Text × Argument)} (hperm : order.Perm other)
    (hkeys : (Table.keys order).Nodup) : ofUnordered order = ofUnordered other := by
  have hother : (Table.keys other).Nodup := (hperm.map Prod.fst).nodup_iff.mp hkeys
  rw [ofUnordered_eq_keyed hkeys, ofUnordered_eq_keyed hother, Table.ofList_eq_of_perm hperm hkeys]

/-- **Maps in any order.** Take the entries of any map whose keys are distinct texts, in any two
orders. The argument recorded for the one and for the other has the entries in strictly ascending
order of their keys, and adds their pairs in this order to a query. A stand-in that is asked for
with the one among its class-level arguments, and again with the other after any acts, has the same
recording if and only if this is still kept, and it is kept until as many requests were made as
there are places. -/
theorem ofUnordered_perm {order other : List (Text × Argument)} (hperm : order.Perm other)
    (hkeys : (order.map (·.1)).Nodup) :
    ∃ sorted : Table Argument, sorted.Perm order ∧ sorted.IsSorted ∧
      (∀ argument ∈ [ofUnordered order, ofUnordered other], argument = .keyed sorted ∧
        ∀ (formatters : Formatters) (mapping : Mapping) (call : Call) (method : Method)
          (binding : CallBinding) (index : Nat) (parameter : Parameter) (name : Text),
          parameter.role = .query → parameter.name? = some name →
            binding.bind formatters mapping call method index parameter argument =
              .ok { binding with
                pairs := binding.pairs ++ sorted.flatMap fun entry =>
                  QueryPair.ofEntry formatters entry.1 entry.2 }) ∧
      ∀ (handlers : HandlerTable) (capacity : Nat) (earlier later : List Recordings.Act)
        (type : Text) (before after : List Argument),
        let first := Recordings.Log.after handlers ⟨.ofCapacity capacity, []⟩ earlier
        let last := (first.step handlers (.start type (before ++ ofUnordered order :: after))).after
          handlers later
        let again := last.step handlers (.start type (before ++ ofUnordered other :: after))
        ∃ number, last.number? first.acts.length = some number ∧
          (again.number? last.acts.length = some number ↔
            ∃ key, (key, number) ∈ last.recordings.kept) ∧
          (later.countP Recordings.Act.isStart < max capacity 1 →
            ∃ key, (key, number) ∈ last.recordings.kept) := by
  have hsame := ofUnordered_eq_of_perm hperm hkeys
  have hkeyed : ofUnordered order = .keyed (Table.ofList order) := ofUnordered_eq_keyed hkeys
  refine ⟨Table.ofList order, Table.perm_ofList hkeys, Table.isSorted_ofList order,
    fun argument hargument => ?_, fun handlers capacity earlier later type before after => ?_⟩
  · have hargument : argument = .keyed (Table.ofList order) := by
      rw [← hsame, hkeyed] at hargument
      simpa using hargument
    subst hargument
    exact ⟨rfl, fun formatters mapping call method binding index parameter name hrole hname =>
      CallBinding.bind_keyed formatters mapping call method binding index hrole hname _⟩
  · rw [← hsame]
    exact Recordings.number?_start_after handlers capacity earlier later type _

/-- What a product is searched by: two collections, nothing, and a single value. -/
def productEntries : List (Text × Argument) :=
  [("material".toList, .collection [⟨"String".toList, "wood".toList⟩]),
    ("finish".toList,
      .collection [⟨"String".toList, "oak".toList⟩, ⟨"String".toList, "ash".toList⟩]),
    ("note".toList, .absent),
    ("age".toList, .scalar ⟨"u32".toList, "3".toList⟩)]

/-- The entries in the opposite order add the same pairs, and the same recording is found again. -/
theorem ofUnordered_perm_productEntries :
    let parameter : Parameter := { role := .query, bound := some "attributes".toList }
    let method : Method := { name := "search".toList, parameters := [parameter] }
    let catalog : Handler := { type := "Catalog".toList, methods := [method] }
    let call : Call := ⟨catalog, catalog, method.name, [ofUnordered productEntries.reverse]⟩
    let first := Recordings.Log.after ⟨[catalog]⟩ ⟨.ofCapacity 2, []⟩ []
    let last := (first.step ⟨[catalog]⟩ (.start catalog.type [ofUnordered productEntries])).after
      ⟨[catalog]⟩ [.call 0 catalog.type method.name [], .start "Other".toList []]
    let again := last.step ⟨[catalog]⟩ (.start catalog.type [ofUnordered productEntries.reverse])
    productEntries.Perm productEntries.reverse ∧ (productEntries.map (·.1)).Nodup ∧
      CallBinding.bind {} ⟨[], []⟩ call method {} 0 parameter (ofUnordered productEntries.reverse) =
        .ok { pairs := [.value "age".toList "3".toList, .value "finish".toList "oak".toList,
          .value "finish".toList "ash".toList, .value "material".toList "wood".toList] } ∧
      ∃ number, last.number? 0 = some number ∧ again.number? 3 = some number := by
  intro parameter method catalog call first last again
  have hperm : productEntries.Perm productEntries.reverse := (List.reverse_perm productEntries).symm
  have hkeys : (productEntries.map (·.1)).Nodup := by decide
  obtain ⟨sorted, hsorted, hascending, hargument, hshared⟩ := ofUnordered_perm hperm hkeys
  obtain ⟨number, hfirst, hagain, hkept⟩ :=
    hshared ⟨[catalog]⟩ 2 [] [.call 0 catalog.type method.name [], .start "Other".toList []]
      catalog.type [] []
  refine ⟨hperm, hkeys, ?_, number, hfirst, hagain.mpr (hkept (by decide))⟩
  obtain ⟨-, hbind⟩ := hargument _ (List.mem_cons_of_mem _ List.mem_cons_self)
  have hentries : sorted =
      [productEntries[3], productEntries[1], productEntries[0], productEntries[2]] :=
    hascending.eq_of_perm (by unfold Table.IsSorted; decide) (hsorted.trans (by decide))
  rw [hbind {} _ call method {} 0 parameter _ rfl rfl, hentries]
  rfl

end Argument

end Signpost
