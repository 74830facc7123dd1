import Signpost.Binding.Call
import Signpost.Link.Draft
import Signpost.Mapping.Source

/-!
# Linking to handlers

A linker turns recorded calls into links. It asks its source for the mapping of the call, binds
the arguments and adds what the link affords. The mappings it has read and the offers of methods
it has collected are kept in memo tables.

## Main definitions

* `Linker`: a source of mappings, formatters and a base, with two memo tables.
* `Linker.linkHandler`, `Linker.linkCall`: the link to a handler as a whole and to a call.
* `Linker.linkLast`, `Linker.linkTarget`: the same for the last call and the target
  of a recording.
-/

namespace Signpost

/-- What links are made with. -/
structure Linker where
  base : BaseUri := .root
  formatters : Formatters := {}
  source : MappingSource := .cached (.environment none)
  /-- The mappings read so far, by their text. -/
  mappings : Memo Text Mapping := {}
  /-- The offers collected so far, by the type of the target and the name of the method. -/
  offers : Memo (Text × Text) Offer := {}

namespace Linker

/-- The answer to a question about a mapping, read. -/
def mapping? (linker : Linker) (surroundings : Surroundings) (inquiry : Inquiry) :
    Option Mapping × Linker :=
  let (raw?, source) := linker.source.answer surroundings inquiry
  match raw? with
  | none => (none, { linker with source })
  | some raw =>
    let (mapping, mappings) := linker.mappings.fetch raw fun _ => Mapping.parse raw
    (some mapping, { linker with source, mappings })

/-- The offer of a method that is called on a target. -/
def offer (linker : Linker) (target : Handler) (method : Method) : Offer × Linker :=
  let (offer, offers) :=
    linker.offers.fetch (target.type, method.name) fun _ => Offer.ofMethod method
  (offer, { linker with offers })

/-- The link to a handler as a whole. -/
def linkHandler (linker : Linker) (surroundings : Surroundings) (handler : Handler)
    (parameters : List Argument) : Except LinkError LinkDraft × Linker :=
  match linker.mapping? surroundings (.ofType handler) with
  | (none, linker) => (.error (.noTypeMapping handler.name), linker)
  | (some mapping, linker) =>
    (.ok { uri := (Target.ofType linker.base linker.formatters mapping parameters).href }, linker)

/-- The method of a call, which must take as many arguments as were given. -/
def calledMethod (surroundings : Surroundings) (call : Call) : Except LinkError Method := do
  let method ← call.declaration surroundings.handlers
  if call.arguments.length ≠ method.parameters.length then
    throw (.argumentCount call.declaring.name method.name method.parameters.length
      call.arguments.length)
  return method

/-- The target of a call and the link to it. -/
def target (linker : Linker) (mapping : Mapping) (parameters : List Argument)
    (call : Call) (method : Method) : Except LinkError (Target × Link) := do
  let target ← Target.ofCall linker.base linker.formatters mapping parameters call method
  let link ← target.toLink
  return (target, link)

/-- The link to a call, given the class-level arguments. -/
def linkCall (linker : Linker) (surroundings : Surroundings) (parameters : List Argument)
    (call : Call) : Except LinkError LinkDraft × Linker :=
  match calledMethod surroundings call with
  | .error error => (.error error, linker)
  | .ok method =>
    match linker.mapping? surroundings (.ofCall call.target method) with
    | (none, linker) => (.error (.noMapping call.target.name method.name), linker)
    | (some mapping, linker) =>
      match linker.target mapping parameters call method with
      | .error error => (.error error, linker)
      | .ok (target, link) =>
        let (offer, linker) := linker.offer call.target method
        (.ok
          { uri := target.href
            vars := target.vars
            affordances := offer.affordances link }, linker)

/-- The link to the last call of a recording. -/
def linkLast (linker : Linker) (surroundings : Surroundings) (recording : Recording) :
    Except LinkError LinkDraft × Linker :=
  match recording.lastCall with
  | .error error => (.error error, linker)
  | .ok call => linker.linkCall surroundings recording.parameters call

/-- The link to the target of a recording as a whole. -/
def linkTarget (linker : Linker) (surroundings : Surroundings) (recording : Recording) :
    Except LinkError LinkDraft × Linker :=
  linker.linkHandler surroundings recording.target recording.parameters

end Linker

end Signpost
