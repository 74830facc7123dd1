import Signpost.Config.Store
import Signpost.Handler.Basic
import Signpost.Mapping.Fragments
import Signpost.Mapping.Placeholder
import Signpost.Memo

/-!
# Sources of mappings

Which mapping a handler or a method is bound to is answered in layers. The innermost layer reads the
declarations of the handlers, the others put values in the place of placeholders or remember
answers.

## Main definitions

* `Inquiry`: a question about a mapping.
* `PlaceholderSource`: where the values of placeholders come from.
* `MappingSource`: a stack of layers.
* `MappingSource.declaredAnswer?`: the answer that the declarations give.
* `MappingSource.answer`: the answer of a stack, and the stack afterwards.
-/

namespace Signpost

/-- A question about a mapping. -/
inductive Inquiry where
  /-- The mapping of a handler as a whole. -/
  | ofType (handler : Handler)
  /-- The mapping of a method on the handler that declares it. -/
  | ofMethod (declaring : Handler) (method : Method)
  /-- The mapping of a method that is invoked on a handler. -/
  | ofCall (target : Handler) (method : Method)
  deriving DecidableEq, Repr

/-- What tells questions apart: handlers are the same if their types are, methods if they agree in
name and declared mapping. -/
inductive InquiryKey where
  | ofType (type : Text)
  | ofMethod (type name : Text) (mapping : Option Text)
  | ofCall (type name : Text) (mapping : Option Text)
  deriving DecidableEq, Repr

/-- The key of a question. -/
def Inquiry.key : Inquiry → InquiryKey
  | ofType handler => .ofType handler.type
  | ofMethod declaring method => .ofMethod declaring.type method.name method.mapping
  | ofCall target method => .ofCall target.type method.name method.mapping

/-- What answers are drawn from. -/
structure Surroundings where
  handlers : HandlerTable := {}
  environment : Environment := {}
  settings : Store := []

/-- Where the values of placeholders come from. -/
inductive PlaceholderSource where
  | fixed (values : Table Text)
  /-- Environment variables, their names behind an optional lead. -/
  | environment (lead : Option Text)
  /-- The settings as they are when the question is asked. -/
  | settings
  /-- A source of the program's own. -/
  | custom (value? : Text → Option Text)

/-- The value of a placeholder. -/
def PlaceholderSource.value? (source : PlaceholderSource) (surroundings : Surroundings)
    (key : Text) : Option Text :=
  match source with
  | fixed values => values.get? key
  | environment lead => surroundings.environment.placeholder? lead key
  | settings => surroundings.settings.placeholder? key
  | custom value? => value? key

/-- A stack of layers that answer questions about mappings. -/
inductive MappingSource where
  /-- Reads declarations. -/
  | declared
  /-- Replaces the placeholders in the answers of a stack. -/
  | resolving (source : PlaceholderSource) (inner : MappingSource)
  /-- Remembers the answers of a stack, also that there is none. -/
  | caching (memo : Memo InquiryKey (Option Text)) (inner : MappingSource)

namespace MappingSource

/-- The answer that declarations give. The mapping of a method starts with that of the handler it is
asked for, not of the one that declares it. -/
def declaredAnswer? (handlers : HandlerTable) : Inquiry → Option Text
  | .ofType handler => handlers.typeMapping? handler
  | .ofMethod handler method | .ofCall handler method =>
    Mapping.ofFragments (handlers.typeMapping? handler) method.mapping

/-- The answer of a stack, and the stack after giving it. -/
def answer (surroundings : Surroundings) (inquiry : Inquiry) :
    MappingSource → Option Text × MappingSource
  | declared => (declaredAnswer? surroundings.handlers inquiry, declared)
  | resolving source inner =>
    let (mapping?, inner) := answer surroundings inquiry inner
    (mapping?.map (Placeholder.resolve (source.value? surroundings)), resolving source inner)
  | caching memo inner =>
    match memo.find? inquiry.key with
    | some mapping? => (mapping?, caching memo.hit inner)
    | none =>
      let (mapping?, inner) := answer surroundings inquiry inner
      (mapping?, caching (memo.store inquiry.key mapping?) inner)

/-- A stack that remembers answers from declarations with their placeholders replaced. -/
def cached (source : PlaceholderSource) : MappingSource :=
  caching {} (resolving source declared)

/-- The memo table of the outermost layer, if it is one. -/
def memo? : MappingSource → Option (Memo InquiryKey (Option Text))
  | caching memo _ => some memo
  | _ => none

end MappingSource

end Signpost
