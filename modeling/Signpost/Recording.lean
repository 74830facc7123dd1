import Signpost.Error
import Signpost.Handler.Basic

/-!
# Recorded calls

A call that a link should point to is recorded on a stand-in for its handler. Stand-ins that come
from one request for a stand-in, directly or as results of recorded calls, share a recording: the
target and its class-level arguments, and the last call. The recordings handed out most recently are
kept, and a kept one is handed out again, cleared, for the same target with equal arguments. It
keeps the arguments that it was made with, which may differ from those in what is not visible.

## Main definitions

* `Call`: a recorded call.
* `Recording`: what stand-ins share.
* `Recordings`: all recordings, and which of them are kept.
* `Recordings.start`, `Recordings.record`, `Recordings.get?`: a new stand-in, a call on it, and
  reading.
-/

namespace Signpost

/-- A recorded call. -/
structure Call where
  /-- The handler the recording was started on. -/
  target : Handler
  /-- The handler whose method was called. -/
  declaring : Handler
  method : Text
  arguments : List Argument
  deriving DecidableEq, Repr

namespace Call

/-- The metadata of the called method. -/
def declaration (handlers : HandlerTable) (call : Call) : Except LinkError Method :=
  match handlers.method? call.declaring call.method with
  | some method => .ok method
  | none => .error (.unknownMethod call.declaring.name call.method)

/-- Whether two calls are of one method of one handler, on one target and with equal arguments. -/
def agrees (a b : Call) : Bool :=
  a.target.type = b.target.type && a.declaring.type = b.declaring.type && a.method = b.method &&
    a.arguments.map Argument.visible = b.arguments.map Argument.visible

/-- A recorded call in diagnostics. -/
def diagnostic (call : Call) : Text :=
  Diagnostic.record "MethodInvocation".toList
    [("target".toList, Diagnostic.quoted call.target.name),
      ("method".toList, call.declaring.name ++ "::".toList ++ call.method),
      ("arguments".toList, Diagnostic.list (call.arguments.map (·.diagnostic)))]

end Call

/-- What the stand-ins of one recording share. -/
structure Recording where
  target : Handler
  /-- The arguments for the variables of the mapping of the target. -/
  parameters : List Argument
  last : Option Call := none
  deriving DecidableEq, Repr

namespace Recording

/-- The last call, or the error that there is none. -/
def lastCall (recording : Recording) : Except LinkError Call :=
  match recording.last with
  | some call => .ok call
  | none => .error (.noCall recording.target.name)

/-- Whether the last calls of two recordings agree, or both have none. -/
def agrees (a b : Recording) : Bool :=
  match a.last, b.last with
  | none, none => true
  | some x, some y => x.agrees y
  | _, _ => false

/-- A stand-in in diagnostics. -/
def diagnostic (recording : Recording) : Text :=
  Diagnostic.record "Recording".toList
    [("target".toList, Diagnostic.quoted recording.target.name),
      ("last_invocation".toList, Diagnostic.option (recording.last.map (·.diagnostic)))]

end Recording

/-- What a kept recording is found by: the type of its target and the class-level arguments as far
as arguments are compared. -/
structure RecordingKey where
  type : Text
  parameters : List Argument
  deriving DecidableEq, Repr

/-- What a recording for a target with class-level arguments is found by. -/
def RecordingKey.of (target : Handler) (parameters : List Argument) : RecordingKey :=
  ⟨target.type, parameters.map Argument.visible⟩

/-- All recordings, by number, and the keys of those that are kept, the one handed out last
first. -/
structure Recordings where
  capacity : Nat := 256
  kept : List (RecordingKey × Nat) := []
  all : List Recording := []
  deriving Repr

namespace Recordings

/-- No recordings yet; up to `capacity` will be kept, and one at least. -/
def ofCapacity (capacity : Nat) : Recordings :=
  { capacity := max capacity 1 }

/-- The number of recordings that are kept. -/
def size (recordings : Recordings) : Nat :=
  recordings.kept.length

/-- The recording that a stand-in belongs to. -/
def get? (recordings : Recordings) (standIn : Nat) : Option Recording :=
  recordings.all[standIn]?

/-- The kept keys with `key` for the recording `standIn` in front. -/
def keep (recordings : Recordings) (key : RecordingKey) (standIn : Nat) :
    List (RecordingKey × Nat) :=
  ((key, standIn) :: recordings.kept.filter (·.1 ≠ key)).take recordings.capacity

/-- A stand-in for a handler, and the recordings afterwards. A kept recording is cleared and handed
out again; a new one pushes out the one that was handed out longest ago. -/
def start (recordings : Recordings) (target : Handler) (parameters : List Argument) :
    Nat × Recordings :=
  let key := RecordingKey.of target parameters
  match recordings.kept.lookup key with
  | some standIn =>
    (standIn, { recordings with
      kept := recordings.keep key standIn
      all := recordings.all.modify standIn fun recording => { recording with last := none } })
  | none =>
    let standIn := recordings.all.length
    (standIn, { recordings with
      kept := recordings.keep key standIn
      all := recordings.all ++ [{ target, parameters }] })

/-- The recordings after a call on a stand-in. The result of the call is a stand-in of the same
recording. -/
def record (recordings : Recordings) (standIn : Nat) (declaring : Handler) (method : Text)
    (arguments : List Argument) : Recordings :=
  { recordings with
    all := recordings.all.modify standIn fun recording =>
      { recording with
        last := some { target := recording.target, declaring, method, arguments } } }

/-- The recordings in diagnostics. -/
def diagnostic (recordings : Recordings) : Text :=
  Diagnostic.record "InvocationRecorder".toList
    [("len".toList, Text.ofNat recordings.size),
      ("capacity".toList, Text.ofNat recordings.capacity)]

end Recordings

end Signpost
