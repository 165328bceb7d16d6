import AnchorLayout.Tally
import AnchorLayout.Resolved

/-!
# Resolving with a log and counters

A resolver resolves layouts and keeps books about it: each pass is announced, its outcome is logged,
and the counters are brought up to date. The books have no influence on the outcome.
-/

namespace AnchorLayout

/-- Where a resolver reports to. -/
structure Resolver where
  logger : Option Logger := none
  tally : Option Tally := none
  target : String := "relative_layout::resolver"

namespace Resolver

/-- Starts counting, unless the resolver already counts. -/
def startCounting (r : Resolver) : Resolver := { r with tally := some (r.tally.getD {}) }

/-- Stops counting and forgets the counters. -/
def stopCounting (r : Resolver) : Resolver := { r with tally := none }

/-- Logs an event if there is a logger. -/
def log (r : Resolver) (e : Event) : Resolver := { r with logger := r.logger.map (·.log e) }

/-- The event before a pass. -/
def startEvent (r : Resolver) (time : Nat) (l : Layout Coord) : Event :=
  .ofFields time .debug r.target "resolve.start"
    [("elements", .ofInt l.length), ("width", .ofInt l.size.width.val),
     ("height", .ofInt l.size.height.val)]

/-- The event after a pass. -/
def outcomeEvent (r : Resolver) (time : Nat) (l : Layout Coord) :
    Except LayoutError (Resolved Coord) → Event
  | .ok resolved =>
    .ofFields time .info r.target "resolve.ok"
      [("elements", .ofInt l.length), ("rules", .ofInt l.ruleCount),
       ("digest", .string (hexText resolved.digest))]
  | .error e =>
    .ofFields time .warn r.target "resolve.failed"
      [("error", .string e.message), ("offenders", .array (e.offenders.map .string))]

/-- Counts a pass. -/
def count (r : Resolver) (l : Layout Coord) (outcome : Except LayoutError (Resolved Coord)) :
    Resolver :=
  { r with
    tally := r.tally.map fun m =>
      match outcome with
      | .ok _ => m.countPass l.length l.ruleCount
      | .error _ => m.countFailure }

/-- Resolves a layout at a given time, and reports about it. -/
def resolve (r : Resolver) (time : Nat) (l : Layout Coord) :
    Except LayoutError (Resolved Coord) × Resolver :=
  let outcome := l.resolve
  let r := r.log (r.startEvent time l)
  (outcome, (r.count l outcome).log (r.outcomeEvent time l outcome))

/-- Logs the counters, if the resolver counts. -/
def logTally (r : Resolver) (time : Nat) : Resolver :=
  match r.tally with
  | some m => r.log (m.event time r.target)
  | none => r

end Resolver
end AnchorLayout
