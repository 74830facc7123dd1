import Signpost.Config.Environment
import Signpost.Log.Filter

/-!
# Logging

What is logged, where to and in which form. The filter comes from the configuration itself, else
from the environment, else from the level of the configuration; one that cannot be read is passed
over.

## Main definitions

* `LogForm`, `LogSink`: the form of logged events and where they go to.
* `LogOptions`: the choices.
* `LogOptions.filter`: the filter in effect.
-/

namespace Signpost

/-- The form of logged events. -/
inductive LogForm where
  | json
  | plain
  | pretty
  | compact
  deriving DecidableEq, Repr

namespace LogForm

/-- All forms. -/
def all : List LogForm := [json, plain, pretty, compact]

/-- The name of a form. -/
def name : LogForm → Text
  | json => "json".toList
  | plain => "plain".toList
  | pretty => "pretty".toList
  | compact => "compact".toList

end LogForm

/-- Where events are logged to. -/
inductive LogSink where
  | stdout
  | stderr
  deriving DecidableEq, Repr

/-- The name of an output. -/
def LogSink.name : LogSink → Text
  | stdout => "stdout".toList
  | stderr => "stderr".toList

/-- How events are logged. -/
structure LogOptions where
  level : LogLevel := .warn
  format : LogForm := .json
  output : LogSink := .stdout
  /-- Whether the target of an event is shown. -/
  targets : Bool := true
  /-- Whether the place of an event is shown. -/
  fileLine : Bool := false
  colors : Bool := false
  /-- The filter asked for. -/
  directives : Option Text := none
  /-- The environment variables that are asked for a filter, one after the other. -/
  sources : List Text := []
  deriving DecidableEq, Repr

namespace LogOptions

/-- The filter in effect. -/
def filter (config : LogOptions) (environment : Environment) : LogFilter :=
  let candidates := config.directives :: config.sources.map environment.get?
  ((candidates.filterMap id).findSome? LogFilter.parse?).getD [⟨none, config.level⟩]

end LogOptions

end Signpost
