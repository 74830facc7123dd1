import Signpost.Argument.Formatters
import Signpost.Mapping.Basic
import Signpost.Table
import Signpost.Template.Basic

/-!
# Arguments in a path

An argument takes the place of a variable of the mapping. An ordinary variable takes one encoded
segment, a catch-all a slash and an encoded segment for every non-empty part of the text.
Class-level arguments are bound first, in the order of the variables, then those of the method by
name; a later value replaces an earlier one.

## Main definitions

* `PathBinding.text?`: what an argument puts in the place of a variable.
* `PathBinding.ofParameters`, `PathBinding.bind`: binding class-level arguments, and one argument of
  a method.
* `PathBinding.expand`: the path.
-/

namespace Signpost

/-- Substitutions by the keys of the variables they are for. -/
abbrev PathBinding := Table Substitution

namespace PathBinding

/-- What a text puts in the place of a variable. -/
def encode (v : Mapping.Variable) (text : Text) : Text :=
  if v.catchAll then Template.segmentPath text else Percent.encode text

/-- What an argument puts in the place of a variable, if anything. The items of a collection become
segments of a catch-all; an ordinary variable takes them separated by commas. -/
def text? (formatters : Formatters) (v : Mapping.Variable) : Argument → Option Text
  | .scalar value => some (encode v (formatters.format value))
  | .collection items =>
    let texts := items.map formatters.format
    some (if v.catchAll then encode v (Text.join ['/'] texts)
      else Text.join [','] (texts.map Percent.encode))
  | .absent | .keyed _ | .body _ => none

/-- The substitutions with `substitution` under a key that has none. -/
def insertNew (values : PathBinding) (key : Text) (substitution : Substitution) : PathBinding :=
  if (values.get? key).isSome then values else values.insert key substitution

/-- The substitutions that class-level arguments make. -/
def ofParameters (formatters : Formatters) (mapping : Mapping) (parameters : List Argument) :
    PathBinding :=
  (mapping.vars.zip parameters).foldl
    (fun values pair =>
      match text? formatters pair.1 pair.2 with
      | some text => values.insert pair.1.key (.text text)
      | none => values) []

/-- The substitutions with an argument bound to the variable of a given name. A name that is no
variable of the mapping is bound like an ordinary variable. -/
def bind (formatters : Formatters) (mapping : Mapping) (values : PathBinding) (name : Text)
    (argument : Argument) : PathBinding :=
  let v := (mapping.find? name).getD { name }
  match text? formatters v argument with
  | some text => values.insert v.key (.text text)
  | none => values.insertNew v.key v.absent

/-- The substitutions with one for every variable of the mapping. -/
def complete (values : PathBinding) (mapping : Mapping) : PathBinding :=
  mapping.vars.foldl (fun values v => values.insertNew v.key v.absent) values

/-- The mapping with the substitutions made. -/
def expand (values : PathBinding) (mapping : Mapping) : Text :=
  mapping.expand (values.complete mapping).get?

end PathBinding

end Signpost
