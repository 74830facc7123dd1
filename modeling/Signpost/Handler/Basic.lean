import Signpost.Argument.Basic
import Signpost.Http.MediaType
import Signpost.Http.Verb

/-!
# Handlers

What is known about a handler: its mapping, its methods with their parameters, the handler it
inherits from and the entity it serves. A handler is identified by the name of its type and refers
to its parent by name; a table of handlers resolves these references.

## Main definitions

* `Parameter`, `Method`, `Handler`: the metadata.
* `HandlerTable`: the handlers of a program.
* `HandlerTable.ancestry`: a handler and those it inherits from, the nearest first.
* `HandlerTable.method?`, `HandlerTable.typeMapping?`: the nearest declaration.
-/

namespace Signpost

/-- How a parameter takes part in a request. -/
inductive Parameter.Role where
  /-- Bound to a variable of the mapping. -/
  | path
  /-- Bound to a query parameter. -/
  | query
  /-- The body of the request. -/
  | body
  /-- Nothing a link depends on. -/
  | other
  deriving DecidableEq, Repr

namespace Parameter.Role

/-- All roles. -/
def all : List Parameter.Role := [path, query, body, other]

/-- The name of a role. -/
def name : Parameter.Role → Text
  | path => "path".toList
  | query => "query".toList
  | body => "body".toList
  | other => "other".toList

end Parameter.Role

/-- A parameter of a method. -/
structure Parameter where
  role : Parameter.Role
  /-- The name given for the variable. -/
  named : Option Text := none
  /-- The name of the parameter itself. -/
  bound : Option Text := none
  /-- Whether the parameter is declared as required. -/
  demanded : Bool := true
  /-- The value that stands in for a missing one. -/
  default : Option Text := none
  /-- Whether the type of the parameter allows for a missing value. -/
  nullable : Bool := false
  /-- Whether a collection is bound as one value. -/
  joined : Bool := false
  type : Option Text := none
  deriving DecidableEq, Repr

namespace Parameter

/-- The name of the variable: the one given for it, else that of the parameter. -/
def name? (parameter : Parameter) : Option Text :=
  parameter.named <|> parameter.bound

/-- Whether a request needs a value. -/
def isRequired (parameter : Parameter) : Bool :=
  parameter.demanded && !parameter.nullable

end Parameter

/-- A method of a handler. -/
structure Method where
  name : Text
  mapping : Option Text := none
  /-- The verbs declared. -/
  verbs : List Verb := []
  consumes : List MediaType := []
  parameters : List Parameter := []
  /-- The type of the result. -/
  output : Option Text := none
  deriving DecidableEq, Repr

namespace Method

/-- The method answering to a further verb. -/
def withVerb (method : Method) (verb : Verb) : Method :=
  if verb ∈ method.verbs then method else { method with verbs := method.verbs ++ [verb] }

/-- The verbs the method answers to; without a declared one it is `GET`. -/
def answers (method : Method) : List Verb :=
  if method.verbs = [] then [.get] else method.verbs

/-- The type of the request body. -/
def input (method : Method) : Option Text := do
  let parameter ← method.parameters.find? (·.role = .body)
  parameter.type

end Method

/-- A handler. -/
structure Handler where
  /-- The name of its type, by which it is known. -/
  type : Text
  mapping : Option Text := none
  /-- The type of the handler it inherits from. -/
  parent : Option Text := none
  methods : List Method := []
  /-- The type of the entity it serves. -/
  serves : Option Text := none
  deriving DecidableEq, Repr

/-- The name of the handler without its path. -/
def Handler.name (handler : Handler) : Text :=
  unqualified handler.type

/-- The handlers of a program. -/
structure HandlerTable where
  handlers : List Handler := []
  deriving Repr

namespace HandlerTable

/-- The handler of a type. A type that was never described has a handler without any metadata. -/
def describe (table : HandlerTable) (type : Text) : Handler :=
  (table.handlers.find? (·.type = type)).getD { type }

/-- The parent of a handler. -/
def parent? (table : HandlerTable) (handler : Handler) : Option Handler :=
  handler.parent.map table.describe

/-- A handler and up to `steps` of those it inherits from. -/
def ancestryFrom (table : HandlerTable) (handler : Handler) : (steps : Nat) → List Handler
  | 0 => [handler]
  | steps + 1 =>
    match table.parent? handler with
    | none => [handler]
    | some parent => handler :: table.ancestryFrom parent steps

/-- A handler and those it inherits from, the nearest first. Without a cycle, every parent but the
last one is another handler of the table. -/
def ancestry (table : HandlerTable) (handler : Handler) : List Handler :=
  table.ancestryFrom handler (table.handlers.length + 1)

/-- The method of a given name that is declared nearest to the handler. -/
def method? (table : HandlerTable) (handler : Handler) (name : Text) : Option Method :=
  (table.ancestry handler).findSome? fun ancestor => ancestor.methods.find? (·.name = name)

/-- The mapping of a whole handler: the one declared nearest to it. -/
def typeMapping? (table : HandlerTable) (handler : Handler) : Option Text :=
  (table.ancestry handler).findSome? (·.mapping)

/-- A handler in diagnostics. -/
def diagnostic (table : HandlerTable) (handler : Handler) : Text :=
  let shown (text? : Option Text) := Diagnostic.option (text?.map Diagnostic.quoted)
  Diagnostic.record "HandlerDescriptor".toList
    [("name".toList, Diagnostic.quoted handler.name),
      ("mapping".toList, shown handler.mapping),
      ("parent".toList, shown ((table.parent? handler).map (·.name))),
      ("methods".toList, Text.ofNat handler.methods.length),
      ("exposes".toList, shown handler.serves)]

end HandlerTable

end Signpost
