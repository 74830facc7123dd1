import Signpost.Binding.Path
import Signpost.Binding.Query
import Signpost.Link.Basic
import Signpost.Recording
import Signpost.Uri.Base

/-!
# Binding a call

Given the mapping of a method, the arguments of a recorded call determine an href and the optional
query parameters that were left out, which stay behind the href as template variables.

## Main definitions

* `CallBinding`: the arguments of a call, bound one after the other.
* `CallBinding.ofCall`: all arguments of a call, bound.
* `Target`, `Target.ofCall`, `Target.ofType`: what a call, or a handler as a whole, is linked to.
-/

namespace Signpost

/-- The arguments of a call as far as they are bound. -/
structure CallBinding where
  path : PathBinding := []
  pairs : List QueryPair := []
  /-- The names of the optional query parameters left out. -/
  omitted : List Text := []
  deriving DecidableEq, Repr

namespace CallBinding

/-- The name of the variable of a parameter, given its position. -/
def variableName (call : Call) (method : Method) (index : Nat) (parameter : Parameter) :
    Except LinkError Text :=
  match parameter.name? with
  | some name => .ok name
  | none => .error (.unnamedParameter call.declaring.name method.name index)

/-- Binds one argument. -/
def bind (formatters : Formatters) (mapping : Mapping) (call : Call) (method : Method)
    (binding : CallBinding) (index : Nat) (parameter : Parameter) (argument : Argument) :
    Except LinkError CallBinding :=
  match parameter.role with
  | .path => do
    let name ← variableName call method index parameter
    return { binding with path := binding.path.bind formatters mapping name argument }
  | .query => do
    let name ← variableName call method index parameter
    match ← QueryPair.ofArgument formatters parameter name argument with
    | some pairs => return { binding with pairs := binding.pairs ++ pairs }
    | none => return { binding with omitted := binding.omitted ++ [name] }
  | .body | .other => .ok binding

/-- Binds the arguments of the parameters from position `index` on. -/
def bindFrom (formatters : Formatters) (mapping : Mapping) (call : Call)
    (method : Method) (binding : CallBinding) (index : Nat) :
    List (Parameter × Argument) → Except LinkError CallBinding
  | [] => .ok binding
  | (parameter, argument) :: rest => do
    let binding ← binding.bind formatters mapping call method index parameter argument
    bindFrom formatters mapping call method binding (index + 1) rest

/-- Binds the class-level arguments and then those of the call. -/
def ofCall (formatters : Formatters) (mapping : Mapping) (parameters : List Argument)
    (call : Call) (method : Method) : Except LinkError CallBinding :=
  bindFrom formatters mapping call method
    { path := .ofParameters formatters mapping parameters } 0
    (method.parameters.zip call.arguments)

end CallBinding

/-- An href and the optional variables behind it. -/
structure Target where
  href : Text
  vars : List Template.Variable := []
  deriving DecidableEq, Repr

namespace Target

/-- Optional query parameters behind an href: the first one starts a query, unless there is one. -/
def optionalVariables (href : Text) : List Text → List Template.Variable
  | [] => []
  | name :: names =>
    ⟨name, if '?' ∈ href then .queryContinued else .query, false⟩ ::
      names.map fun name => ⟨name, .queryContinued, false⟩

/-- What a handler as a whole is linked to. -/
def ofType (base : BaseUri) (formatters : Formatters) (mapping : Mapping)
    (parameters : List Argument) : Target :=
  ⟨base.resolve ((PathBinding.ofParameters formatters mapping parameters).expand mapping), []⟩

/-- What a call is linked to. -/
def ofCall (base : BaseUri) (formatters : Formatters) (mapping : Mapping)
    (parameters : List Argument) (call : Call) (method : Method) :
    Except LinkError Target := do
  let binding ← CallBinding.ofCall formatters mapping parameters call method
  let href := base.resolve (QueryPair.attach (binding.path.expand mapping) binding.pairs)
  return ⟨href, optionalVariables href binding.omitted⟩

/-- The link to a target; its href has to be a template. -/
def toLink (target : Target) : Except LinkError Link := do
  return (← Link.parse target.href).addVars target.vars

end Target

end Signpost
