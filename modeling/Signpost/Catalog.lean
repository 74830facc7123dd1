import Signpost.Linker

/-!
# Links to entities

A handler that serves an entity is the collection resource of the entity; its items live one path
segment below it.

## Main definitions

* `Catalog`: the handler of each entity.
* `Catalog.link`: the link to the handler of an entity.
* `Catalog.collection`, `Catalog.item`: the links to the collection and to an item.
-/

namespace Signpost

/-- The handler of each entity, by the type of the entity. -/
structure Catalog where
  handlers : Table Handler := []
  deriving DecidableEq, Repr

namespace Catalog

/-- The entities that handlers serve. Of two handlers of one entity the later one wins. -/
def ofHandlers (handlers : List Handler) : Catalog :=
  ⟨Table.ofList (handlers.filterMap fun handler =>
    handler.serves.map fun entity => (entity, handler))⟩

/-- Whether an entity has a handler. -/
def contains (catalog : Catalog) (entity : Text) : Bool :=
  (catalog.handlers.get? entity).isSome

/-- The handler of an entity. -/
def handler (catalog : Catalog) (entity : Text) : Except LinkError Handler :=
  match catalog.handlers.get? entity with
  | some handler => .ok handler
  | none => .error (.unservedEntity entity)

/-- The link to the handler of an entity. -/
def link (catalog : Catalog) (linker : Linker) (surroundings : Surroundings) (entity : Text)
    (parameters : List Argument) : Except LinkError LinkDraft × Linker :=
  match catalog.handler entity with
  | .error error => (.error error, linker)
  | .ok handler => linker.linkHandler surroundings handler parameters

/-- The link to the collection of an entity. -/
def collection (catalog : Catalog) (linker : Linker) (surroundings : Surroundings)
    (entity : Text) : Except LinkError AffordingLink × Linker :=
  let (draft, linker) := catalog.link linker surroundings entity []
  (draft.map (·.under .self), linker)

/-- The link to an item of an entity. -/
def item (catalog : Catalog) (linker : Linker) (surroundings : Surroundings) (entity id : Text) :
    Except LinkError AffordingLink × Linker :=
  let (draft, linker) := catalog.link linker surroundings entity []
  (draft.map fun draft => (draft.extend id).under .self, linker)

/-- The entities in diagnostics. -/
def diagnostic (catalog : Catalog) : Text :=
  let entities := Diagnostic.list (catalog.handlers.keys.map Diagnostic.quoted)
  Diagnostic.record "EntityLinks".toList [("entities".toList, entities)]

end Catalog

end Signpost
