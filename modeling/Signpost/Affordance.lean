import Signpost.Handler.Basic
import Signpost.Link.Basic

/-!
# Affordances

For every verb that a method answers to, a link affords one operation, which carries what a client
needs in order to use it: the types of input and output, the query parameters and the accepted media
types. `Offer` is the part that does not depend on the link.

## Main definitions

* `QueryParameter`: a query parameter as it is advertised.
* `Offer.ofMethod`: what a method offers.
* `Affordance`, `Offer.affordances`: the operations that a link affords.
-/

namespace Signpost

/-- A query parameter as it is advertised. -/
structure QueryParameter where
  name : Text
  /-- The value that stands in for a missing one. -/
  value : Option Text := none
  required : Bool
  deriving DecidableEq, Repr

/-- The advertised form of a named query parameter. One with a default is never required. -/
def QueryParameter.ofParameter? (parameter : Parameter) : Option QueryParameter :=
  if parameter.role = .query then
    parameter.name?.map fun name =>
      { name
        value := parameter.default
        required := parameter.isRequired && parameter.default.isNone }
  else none

/-- The advertised query parameters of a method, in the order of declaration. -/
def QueryParameter.ofMethod (method : Method) : List QueryParameter :=
  method.parameters.filterMap ofParameter?

/-- What a method offers on any link to it. -/
structure Offer where
  name : Text
  verbs : List Verb
  input : Option Text
  output : Option Text
  query : List QueryParameter
  consumes : List MediaType
  deriving DecidableEq, Repr

/-- What a method offers. -/
def Offer.ofMethod (method : Method) : Offer where
  name := method.name
  verbs := method.answers
  input := method.input
  output := method.output
  query := QueryParameter.ofMethod method
  consumes := method.consumes

/-- An operation that a link affords. -/
structure Affordance where
  name : Text
  /-- The link the operation is invoked on, under the name of the method as its relation. -/
  link : Link
  verb : Verb
  input : Option Text
  output : Option Text
  query : List QueryParameter
  consumes : List MediaType
  deriving DecidableEq, Repr

/-- One operation on `link` for every verb of an offer. -/
def Offer.affordances (offer : Offer) (link : Link) : List Affordance :=
  offer.verbs.map fun verb =>
    { name := offer.name
      link := link.under ⟨offer.name⟩
      verb
      input := offer.input
      output := offer.output
      query := offer.query
      consumes := offer.consumes }

/-- The operations on `link` that a method offers. -/
def Affordance.ofMethod (method : Method) (link : Link) : List Affordance :=
  (Offer.ofMethod method).affordances link

end Signpost
