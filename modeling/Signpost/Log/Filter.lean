import Signpost.Text.Case

/-!
# Log filters

A filter says up to which level events are logged. A directive sets the level of one target and of
those below it, or the level of all others: `server=debug,warn`.

## Main definitions

* `LogLevel`: how much is logged.
* `LogDirective`, `LogFilter`: the level of a target, and a set of directives.
* `LogFilter.parse?`, `LogFilter.display`: reading and writing.
-/

namespace Signpost

/-- How much is logged: events of a level and of the levels in front of it. -/
inductive LogLevel where
  | off
  | error
  | warn
  | info
  | debug
  | trace
  deriving DecidableEq, Repr

namespace LogLevel

/-- The levels from nothing to everything. -/
def all : List LogLevel := [off, error, warn, info, debug, trace]

/-- The name of a level. -/
def name : LogLevel → Text
  | off => "off".toList
  | error => "error".toList
  | warn => "warn".toList
  | info => "info".toList
  | debug => "debug".toList
  | trace => "trace".toList

/-- The level of a given name in any case, or at a given place, which may have a plus sign. -/
def ofText? (text : Text) : Option LogLevel :=
  match Text.toNat? ((Text.stripLead? ['+'] text).getD text) with
  | some place => all[place]?
  | none => all.find? fun level => level.name = text.toAsciiLower

end LogLevel

/-- The level of one target, or of every target without a directive of its own. -/
structure LogDirective where
  target : Option Text
  level : LogLevel
  deriving DecidableEq, Repr

namespace LogDirective

/-- A character that a directive may start with, apart from white space. -/
def isStart (c : Char) : Bool :=
  Character.isAlphanumeric c || c = '_' || c = '-' || c = ':'

/-- Reads the level behind the equals sign of a directive; without one everything is logged. -/
def readLevel? (text : Text) : Option LogLevel :=
  if text = [] then some .trace else LogLevel.ofText? text

/-- Reads a directive: a level, a target, or both. A target alone logs everything. Behind its first
character a target may hold anything but an equals sign and a bracket. White space belongs to the
target or level it stands at, and none may stand in front of a target that is given a level. -/
def parse? (text : Text) : Option LogDirective := do
  guard ((Text.trim text).head?.any isStart)
  match Text.splitOnce? '=' text with
  | some (target, level) =>
    guard (target.head?.any isStart ∧ '[' ∉ target)
    return ⟨some target, ← readLevel? level⟩
  | none =>
    guard ('[' ∉ text)
    match LogLevel.ofText? text with
    | some level => return ⟨none, level⟩
    | none => return ⟨some text, .trace⟩

/-- A directive as text. -/
def display (directive : LogDirective) : Text :=
  match directive.target with
  | some target => target ++ '=' :: directive.level.name
  | none => directive.level.name

/-- Whether a target comes in front of another: the one that is longer in UTF-8, and of two of the
same length the greater one. The directive for all others comes last. -/
def precedes : (target other : Option Text) → Bool
  | none, _ => false
  | some _, none => true
  | some target, some other =>
    target.utf8.length > other.utf8.length ||
      (target.utf8.length = other.utf8.length && other < target)

end LogDirective

/-- Directives with distinct targets, the most specific one first. -/
abbrev LogFilter := List LogDirective

namespace LogFilter

/-- The filter with a further directive, which replaces one of the same target. -/
def insert (directive : LogDirective) : LogFilter → LogFilter
  | [] => [directive]
  | other :: rest =>
    if other.target = directive.target then directive :: rest
    else if LogDirective.precedes directive.target other.target then directive :: other :: rest
    else other :: insert directive rest

/-- Reads a filter. One without any directive logs nothing. -/
def parse? (text : Text) : Option LogFilter := do
  let written := (Text.splitOn ',' text).filter (· ≠ [])
  let directives ← written.mapM LogDirective.parse?
  return directives.foldl (fun filter directive => insert directive filter) []

/-- A filter as text. -/
def display (filter : LogFilter) : Text :=
  Text.join [','] (filter.map LogDirective.display)

end LogFilter

end Signpost
