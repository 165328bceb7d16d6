import AnchorLayout.Log

/-!
# What a sink receives

A logger hands on the events from its least level on, in the order in which they are logged, and
drops the others. A sink of events then holds these behind what it held, and a sink of text holds
their lines, each ended by a line feed.
-/

namespace AnchorLayout

/-- An event has at least a given level. -/
def Event.isAtLeast (least : Level) (e : Event) : Bool := least.rank ≤ e.level.rank

/-- Only the sink of a logger changes, and only events of a sufficient level get there. -/
theorem Logger.foldl_log (l : Logger) (events : List Event) :
    events.foldl Logger.log l =
      { l with sink := (events.filter (Event.isAtLeast l.leastLevel)).foldl Sink.log l.sink } := by
  induction events generalizing l with
  | nil => rfl
  | cons e events ih =>
    rw [List.foldl_cons, ih, Logger.log]
    by_cases hdropped : e.level.rank < l.leastLevel.rank
    · have hlevel : e.isAtLeast l.leastLevel = false := by simpa [Event.isAtLeast] using hdropped
      rw [if_pos hdropped, List.filter_cons_of_neg (by simp [hlevel])]
    · have hlevel : e.isAtLeast l.leastLevel = true := by simpa [Event.isAtLeast] using hdropped
      rw [if_neg hdropped, List.filter_cons_of_pos hlevel]
      rfl

namespace Sink

theorem foldl_log_memory (held events : List Event) :
    events.foldl Sink.log (.memory held) = .memory (held ++ events) := by
  induction events generalizing held with
  | nil => rw [List.append_nil]; rfl
  | cons e events ih => rw [List.foldl_cons, Sink.log, ih, List.append_assoc]; rfl

theorem foldl_log_writer (text : String) (events : List Event) :
    events.foldl Sink.log (.writer text) =
      .writer (text ++ String.join (events.map fun e => e.line ++ "\n")) := by
  induction events generalizing text with
  | nil => simp
  | cons e events ih => rw [List.foldl_cons, Sink.log, ih]; simp [String.append_assoc]

end Sink
end AnchorLayout
