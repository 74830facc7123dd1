import Signpost.Text.Case

/-!
# Verbs of HTTP

The verbs a handler method can answer to, read in any case and written in upper case.
-/

namespace Signpost

/-- A verb of HTTP. -/
inductive Verb where
  | get
  | post
  | put
  | delete
  | patch
  | head
  | options
  deriving DecidableEq, Repr

namespace Verb

/-- All verbs. -/
def all : List Verb := [get, post, put, delete, patch, head, options]

/-- The name of a verb. -/
def name : Verb → Text
  | get => "GET".toList
  | post => "POST".toList
  | put => "PUT".toList
  | delete => "DELETE".toList
  | patch => "PATCH".toList
  | head => "HEAD".toList
  | options => "OPTIONS".toList

/-- The verb whose name `text` is in upper case. -/
def ofName? (text : Text) : Option Verb :=
  all.find? fun method => method.name = text.toUpper

end Verb

end Signpost
