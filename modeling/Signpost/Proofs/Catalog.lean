import Mathlib
import Signpost.Catalog
import Signpost.Proofs.Link.Draft
import Signpost.Proofs.Link.Segments

/-!
# Items of a collection

The link to an item is the link to its collection with the name of the item appended. A name is
taken apart at its slashes, and what is empty between them is left out. So an item lives one segment
below the collection exactly if its name is one segment: an empty name, or one that consists of
slashes, gives the collection itself, a name with a slash inside a resource further below, and names
that differ in superfluous slashes only share a link.

## Main definitions

* `Catalog.IsItemBelow`: an href one segment below a path, for a name.

## Main results

* `Catalog.exists_item_eq_ok`: the link to an item as a draft that is extended.
* `Catalog.isItemBelow_item_iff`: where items live, and when they share a link.
-/

namespace Signpost.Catalog

/-- The href is the path without the slashes at its end, a slash and one segment, which is the
encoded form of a name. -/
def IsItemBelow (path name href : Text) : Prop :=
  ∃ segment, segment ≠ [] ∧ '/' ∉ segment ∧ Percent.decode? segment = some name ∧
    href = Text.dropEndWhile (· = '/') path ++ '/' :: segment

variable {catalog : Catalog} {linker : Linker} {surroundings : Surroundings} {entity : Text}
  {collection : AffordingLink} {draft : LinkDraft}

/-! ### The links of an entity -/

theorem collection_eq_ok_iff :
    (catalog.collection linker surroundings entity).1 = .ok collection ↔
      ∃ draft, (catalog.link linker surroundings entity []).1 = .ok draft ∧
        draft.under .self = collection := by
  rw [Catalog.collection]
  cases hlink : (catalog.link linker surroundings entity []).1 with
  | error error => simp [hlink, Except.map]
  | ok draft => simp [hlink, Except.map]

/-- If the collection has a link, then every item has one, that to the collection extended. -/
theorem exists_item_eq_ok
    (h : (catalog.collection linker surroundings entity).1 = .ok collection) :
    ∃ draft : LinkDraft, draft.under .self = collection ∧
      ∀ id, (catalog.item linker surroundings entity id).1 =
        .ok ((draft.extend id).under .self) := by
  obtain ⟨draft, hlink, hunder⟩ := collection_eq_ok_iff.mp h
  refine ⟨draft, hunder, fun id => ?_⟩
  simp only [item, hlink]
  rfl

/-! ### One segment below -/

/-- The path is extended by one segment that stands for a text exactly if the text is one
segment. -/
theorem isItemBelow_appendSegments_iff {path : Text}
    (hpath : ∀ c ∈ path, LinkDraft.endsPath c = false) (id : Text) :
    IsItemBelow path id (LinkDraft.appendSegments path id) ↔ id ≠ [] ∧ '/' ∉ id := by
  rw [← Text.segments_eq_singleton_iff]
  constructor
  · rintro ⟨segment, hne, hslash, hdecode, hhref⟩
    by_cases hnil : Text.segments id = []
    · -- the path would end with a segment and be cut in front of it all the same
      rw [LinkDraft.appendSegments_of_eq_nil hnil] at hhref
      have hstays : ∀ c ∈ segment, decide (c = '/') = false := fun c hc =>
        decide_eq_false fun hc' => hslash (hc' ▸ hc)
      have hcut := congrArg (Text.dropEndWhile (· = '/')) hhref
      rw [List.append_cons, Text.dropEndWhile_append_of_ne_nil hne hstays, List.append_assoc,
        List.self_eq_append_right] at hcut
      exact absurd hcut (List.cons_ne_nil _ _)
    · rw [LinkDraft.appendSegments_of_path hpath hnil] at hhref
      have hsegments := congrArg Text.segments (List.append_cancel_left hhref)
      rw [Template.segments_segmentPath, ← List.nil_append ('/' :: segment), Text.segments_append,
        Text.segments_eq_singleton_iff.mpr ⟨hne, hslash⟩] at hsegments
      obtain ⟨name, hname, rfl⟩ := List.map_eq_singleton_iff.mp hsegments
      rw [Percent.decode?_encode, Option.some_inj] at hdecode
      rw [hname, hdecode]
  · intro hsegments
    obtain ⟨hne, hslash⟩ := Text.segments_eq_singleton_iff.mp hsegments
    have hsome : Text.segments id ≠ [] := hsegments ▸ List.cons_ne_nil _ _
    refine ⟨Percent.encode id, Percent.encode_ne_nil hne, Percent.notMem_encode (by decide) id,
      Percent.decode?_encode id, ?_⟩
    rw [LinkDraft.appendSegments_of_path hpath hsome, Template.segmentPath, hsegments,
      List.flatMap_singleton]

/-- **Where items live.** Take any entity whose collection has a link, with an href that is a path.
Then every name gives the link to an item. Its href is one segment below that of the collection, and
this segment stands for the name, if and only if the name is not empty and holds no slash. A name
without anything between its slashes gives the link to the collection itself, any other a path of as
many segments as there are non-empty parts between its slashes, so one further below if there are
several. Two names share a link if and only if these parts are the same. -/
theorem isItemBelow_item_iff
    (h : (catalog.collection linker surroundings entity).1 = .ok collection)
    (hpath : ∀ c ∈ collection.href, LinkDraft.endsPath c = false) (id : Text) :
    ∃ link, (catalog.item linker surroundings entity id).1 = .ok link ∧
      (IsItemBelow collection.href id link.href ↔ id ≠ [] ∧ '/' ∉ id) ∧
      (link = collection ↔ Text.segments id = []) ∧
      (Text.segments id ≠ [] → link.href =
        Text.dropEndWhile (· = '/') collection.href ++
          (Text.segments id).flatMap fun segment => '/' :: Percent.encode segment) ∧
      ∀ other, ∃ link', (catalog.item linker surroundings entity other).1 = .ok link' ∧
        (link'.href = link.href ↔ Text.segments other = Text.segments id) ∧
        (Text.segments other = Text.segments id → link' = link) := by
  obtain ⟨draft, rfl, hitem⟩ := exists_item_eq_ok h
  rw [LinkDraft.href_under] at hpath
  refine ⟨_, hitem id, ?_, ⟨fun hsame => ?_, fun hnil => ?_⟩, fun hne => ?_,
    fun other => ⟨_, hitem other, ?_, fun hsame => ?_⟩⟩
  · rw [LinkDraft.href_under, LinkDraft.href_under]
    exact isItemBelow_appendSegments_iff hpath id
  · have huri := congrArg (fun link => link.href) hsame
    simp only [LinkDraft.href_under] at huri
    exact LinkDraft.appendSegments_eq_self_iff.mp huri
  · rw [LinkDraft.extend, LinkDraft.appendSegments_of_eq_nil hnil]
  · rw [LinkDraft.href_under, LinkDraft.href_under]
    exact LinkDraft.appendSegments_of_path hpath hne
  · rw [LinkDraft.href_under, LinkDraft.href_under]
    exact LinkDraft.appendSegments_inj
  · rw [LinkDraft.extend, LinkDraft.appendSegments_inj.mpr hsame]
    rfl

/-! ### Orders -/

/-- The handler of orders. -/
def orderHandler : Handler :=
  { type := "OrderController".toList, mapping := some "/orders".toList,
    serves := some "Order".toList }

/-- A catalog with the handler of orders. -/
def orders : Catalog :=
  .ofHandlers [orderHandler]

/-- A program with the handler of orders. -/
def orderSurroundings : Surroundings :=
  { handlers := ⟨[orderHandler]⟩ }

theorem collection_orders :
    (orders.collection {} orderSurroundings "Order".toList).1 =
      .ok { href := "/orders".toList } := by
  cbv

/-- An order whose number holds no slash lives one segment below the orders. -/
theorem isItemBelow_item_orders :
    (orders.collection {} orderSurroundings "Order".toList).1 =
        .ok { href := "/orders".toList } ∧
      (∀ c ∈ "/orders".toList, LinkDraft.endsPath c = false) ∧
      ∃ link, (orders.item {} orderSurroundings "Order".toList "4 2".toList).1 = .ok link ∧
        link.href = "/orders/4%202".toList ∧
        IsItemBelow "/orders".toList "4 2".toList link.href := by
  have hpath : ∀ c ∈ "/orders".toList, LinkDraft.endsPath c = false := by
    simp [LinkDraft.endsPath]
  obtain ⟨link, hlink, hbelow, -, hhref, -⟩ :=
    isItemBelow_item_iff collection_orders hpath "4 2".toList
  exact ⟨collection_orders, hpath, link, hlink, (hhref (by decide)).trans (by decide),
    hbelow.mpr (by decide)⟩

/-- A number with a slash gives a resource two segments below, which it shares with another number,
and an empty number gives the collection itself. -/
theorem not_isItemBelow_item_orders :
    (orders.collection {} orderSurroundings "Order".toList).1 =
        .ok { href := "/orders".toList } ∧
      (∃ link, (orders.item {} orderSurroundings "Order".toList "a/b".toList).1 = .ok link ∧
        link.href = "/orders/a/b".toList ∧
        ¬IsItemBelow "/orders".toList "a/b".toList link.href ∧
        (orders.item {} orderSurroundings "Order".toList "a//b".toList).1 = .ok link) ∧
      (orders.item {} orderSurroundings "Order".toList []).1 =
        .ok { href := "/orders".toList } := by
  have hpath : ∀ c ∈ "/orders".toList, LinkDraft.endsPath c = false := by
    simp [LinkDraft.endsPath]
  have hhref : "/orders/a/b".toList =
      LinkDraft.appendSegments "/orders".toList "a/b".toList := by
    decide
  refine ⟨collection_orders, ⟨{ href := "/orders/a/b".toList }, by cbv, rfl, ?_, by cbv⟩, by cbv⟩
  rw [hhref, isItemBelow_appendSegments_iff hpath]
  decide

end Signpost.Catalog
