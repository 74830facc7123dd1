import Signpost.Text.Basic

/-!
# What can go wrong with a link

A link fails while it is built, because the metadata of a handler does not fit the recorded call,
or while its template is expanded, because a required value is missing. `LinkError` names the
causes; `LinkError.message` is the only place that puts them into words.

## Main definitions

* `LinkError`: the causes.
* `LinkError.isConfiguration`, `LinkError.isBinding`: the phase a cause belongs to.
* `LinkError.message`: the text shown for a cause.
-/

namespace Signpost

/-- Why a link could not be built or expanded. -/
inductive LinkError where
  /-- Neither the handler nor the method declares a mapping. -/
  | noMapping (handler method : Text)
  /-- The handler declares no mapping of its own. -/
  | noTypeMapping (handler : Text)
  /-- The invoked method is not among those of the handler. -/
  | unknownMethod (handler method : Text)
  /-- A path or query parameter has no name. -/
  | unnamedParameter (handler method : Text) (index : Nat)
  /-- The method was invoked with too many or too few arguments. -/
  | argumentCount (handler method : Text) (expected actual : Nat)
  /-- A required query parameter without a value cannot become a template variable. -/
  | unusableName (name : Text)
  /-- Nothing was invoked on the stand-in. -/
  | noCall (handler : Text)
  /-- No handler serves the entity. -/
  | unservedEntity (entity : Text)
  /-- A required template variable was given no value. -/
  | missingVariable (name : Text)
  /-- A text is no template. -/
  | invalidTemplate (reason : Text)
  /-- A text is no base for links. -/
  | invalidBase (reason : Text)
  deriving DecidableEq, Repr

namespace LinkError

/-- Broken metadata or wiring, found while a link is built. -/
def isConfiguration : LinkError → Bool
  | missingVariable _ | invalidTemplate _ => false
  | _ => true

/-- A value missing when a template is expanded. -/
def isBinding : LinkError → Bool
  | missingVariable _ => true
  | _ => false

private def qualified (handler method : Text) : Text :=
  handler ++ "::".toList ++ method

/-- The text shown for a cause. -/
def message : LinkError → Text
  | noMapping handler method => "No mapping found for ".toList ++ qualified handler method
  | noTypeMapping handler => "No mapping found for handler ".toList ++ handler
  | unknownMethod handler method =>
    "Method ".toList ++ method ++ " is not declared on handler ".toList ++ handler ++
      " or its parents".toList
  | unnamedParameter handler method index =>
    "Could not determine the variable name for parameter #".toList ++ Text.ofNat index ++
      " of ".toList ++ qualified handler method ++
      ": declare an explicit name or a binding name".toList
  | argumentCount handler method expected actual =>
    qualified handler method ++ " declares ".toList ++ Text.ofNat expected ++
      " parameters but was invoked with ".toList ++ Text.ofNat actual ++ " arguments".toList
  | unusableName name =>
    "Query parameter name '".toList ++ name ++ "' cannot be left as a template variable".toList
  | noCall handler => "No invocation recorded on stand-in for ".toList ++ handler
  | unservedEntity entity => "No handler registered for entity type ".toList ++ entity
  | missingVariable name =>
    "Template variable ".toList ++ name ++ " is required but no value was given".toList
  | invalidTemplate reason => "Invalid URI template: ".toList ++ reason
  | invalidBase reason => "Invalid base URI: ".toList ++ reason

end LinkError

end Signpost
