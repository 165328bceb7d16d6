import AnchorLayout.Error
import AnchorLayout.Json.Basic

/-!
# Events and where they go

An event has a level, a target, a message and fields in ascending order of their names. A logger
drops the events below its least level and hands the others to a sink: one that holds events, one
that holds the text written so far, one that holds the text of a file with a bound on its length, or
one that drops everything. In text an event is one line of compact JSON, and a line never holds a
line feed of its own.
-/

namespace AnchorLayout

/-- How much an event matters. -/
inductive Level where
  | trace | debug | info | warn | error
deriving DecidableEq

namespace Level

/-- The levels in ascending order. -/
def all : List Level := [trace, debug, info, warn, error]

/-- The place of a level in the order. -/
def rank : Level → Nat
  | trace => 0
  | debug => 1
  | info => 2
  | warn => 3
  | error => 4

/-- The name of a level in an event. -/
def name : Level → String
  | trace => "trace"
  | debug => "debug"
  | info => "info"
  | warn => "warn"
  | error => "error"

end Level

/-- Something that happened, at a time in milliseconds. -/
structure Event where
  time : Nat
  level : Level
  target : String
  message : String
  fields : List (String × Json) := []

namespace Event

/-- An event with fields in any order; of several fields with one name the last counts. -/
def ofFields (time : Nat) (level : Level) (target message : String)
    (fields : List (String × Json)) : Event :=
  { time, level, target, message, fields := Json.sortMembers fields }

/-- The members of an event apart from its time. Without fields there is no member for them. -/
def members (e : Event) : List (String × Json) :=
  [("level", .string e.level.name), ("target", .string e.target), ("message", .string e.message)] ++
    (if e.fields.isEmpty then [] else [("fields", .object e.fields)])

/-- The event as compact JSON. -/
def line (e : Event) : String := (Json.object (("ts_ms", .ofInt e.time) :: e.members)).compact

end Event

/-- Where events go. -/
inductive Sink where
  /-- Holds the events. -/
  | memory (events : List Event)
  /-- Holds the lines written so far. -/
  | writer (text : String)
  /-- Holds the text of a file that is emptied before a line that would make it longer than
  `maxBytes`; zero stands for no bound. -/
  | file (text : String) (maxBytes : Nat)
  /-- Drops the events. -/
  | discard

namespace Sink

/-- The text of a file after one more line. -/
def appendLine (text : String) (maxBytes : Nat) (line : String) : String :=
  if maxBytes ≠ 0 && maxBytes < text.utf8ByteSize + line.utf8ByteSize then line else text ++ line

/-- Takes one event. -/
def log (s : Sink) (e : Event) : Sink :=
  match s with
  | memory events => memory (events ++ [e])
  | writer text => writer (text ++ (e.line ++ "\n"))
  | file text maxBytes => file (appendLine text maxBytes (e.line ++ "\n")) maxBytes
  | discard => discard

/-- The events that a sink holds. -/
def events : Sink → List Event
  | memory events => events
  | _ => []

end Sink

/-- A sink for the events from a least level on. -/
structure Logger where
  sink : Sink
  leastLevel : Level := .trace

namespace Logger

/-- Hands an event to the sink, unless its level is too low. -/
def log (l : Logger) (e : Event) : Logger :=
  if e.level.rank < l.leastLevel.rank then l else { l with sink := l.sink.log e }

end Logger

/-- Why a file could not be opened or written for logging. -/
structure LogError where
  fault : FileFault
deriving DecidableEq

/-- The wording of an error. -/
def LogError.message (e : LogError) : String := "I/O error: " ++ e.fault.message
end AnchorLayout
