import Signpost.Text.Braces

/-!
# Placeholders

A mapping may refer to settings by `${key}` or `${key:default}`. A placeholder is replaced by the
value of its key, else by its default, else it stays as it is. The text put in its place is not
searched again.

## Main definitions

* `Placeholder.substitute`: what stands in the place of one placeholder.
* `Placeholder.resolve`: a text with its placeholders replaced.
-/

namespace Signpost.Placeholder

/-- What stands in the place of the placeholder with the given content. -/
def substitute (value? : Text → Option Text) (content : Text) : Text :=
  let (key, default?) :=
    match Text.splitOnce? ':' content with
    | some (key, default) => (key, some default)
    | none => (content, none)
  match value? key.trim, default? with
  | some value, _ => value
  | none, some default => default
  | none, none => '$' :: '{' :: content ++ ['}']

/-- The text with its placeholders replaced. A placeholder that is never closed ends the search. -/
def resolve (value? : Text → Option Text) (text : Text) : Text :=
  match text with
  | [] => []
  | [c] => [c]
  | c :: d :: rest =>
    if c = '$' ∧ d = '{' then
      match h : Text.closeBrace? rest with
      | some (content, after) =>
        have : after.length < rest.length := Text.length_lt_of_closeBrace? h
        substitute value? content ++ resolve value? after
      | none => c :: d :: rest
    else c :: resolve value? (d :: rest)
termination_by text.length

end Signpost.Placeholder
