import AnchorLayout.CommandLine
import AnchorLayout.Proofs.Json.Lines

/-!
# What a pass leaves in a log

Whenever there is a log, resolving writes three lines to it: that a pass starts, how it ends, and
counters that show this one pass. A sink of text holds these lines and nothing else, whatever
labels and messages they quote.
-/

namespace AnchorLayout

/-- A sink of text that never drops what it holds: a writer, or a file without a bound. -/
inductive Sink.Keeps : Sink → String → Prop
  | writer (text : String) : Keeps (.writer text) text
  | file (text : String) : Keeps (.file text 0) text

theorem Sink.Keeps.log {s : Sink} {text : String} (h : s.Keeps text) (e : Event) :
    (s.log e).Keeps (text ++ (e.line ++ "\n")) := by
  cases h with
  | writer => exact .writer _
  | file => exact .file _

/-- A logger that keeps the text of all events from the level `debug` on. -/
structure Logger.Keeps (l : Logger) (text : String) : Prop where
  sink : l.sink.Keeps text
  level : l.leastLevel.rank ≤ Level.debug.rank

theorem Logger.Keeps.log {l : Logger} {text : String} {e : Event} (h : l.Keeps text)
    (hlevel : Level.debug.rank ≤ e.level.rank) : (l.log e).Keeps (text ++ (e.line ++ "\n")) := by
  rw [Logger.log, if_neg (Nat.not_lt.2 (Nat.le_trans h.level hlevel))]
  exact ⟨h.sink.log e, h.level⟩

namespace Resolver
variable {r : Resolver} {time : Nat} {l : Layout Coord}
  {outcome : Except LayoutError (Resolved Coord)}

theorem message_outcomeEvent : (r.outcomeEvent time l outcome).message =
    if outcome.isOk then "resolve.ok" else "resolve.failed" := by
  cases outcome <;> rfl

theorem le_rank_outcomeEvent :
    Level.debug.rank ≤ (r.outcomeEvent time l outcome).level.rank := by
  cases outcome <;> simp [outcomeEvent, Event.ofFields, Level.rank]

end Resolver

namespace CommandLine
variable {time : Nat} {l : Layout Coord} {logger : Logger}

theorem sinkText_of_keeps {text : String} (h : logger.Keeps text) :
    sinkText (some logger) = text := by
  obtain ⟨sink, leastLevel⟩ := logger
  cases h.sink <;> rfl

/-- A text is the log of one pass: the start, the outcome and the counters, each on one line. -/
def LogsPass (succeeded : Bool) (text : String) : Prop :=
  ∃ start outcome counters : Event,
    text = start.line ++ "\n" ++ (outcome.line ++ "\n") ++ (counters.line ++ "\n") ∧
    (∀ e ∈ [start, outcome, counters], '\n' ∉ e.line.toList) ∧
    start.message = "resolve.start" ∧
    outcome.message = (if succeeded then "resolve.ok" else "resolve.failed") ∧
    counters.message = "resolver_metrics" ∧
    counters.fields.lookup "passes" = some (.ofInt 1) ∧
    counters.fields.lookup "failures" = some (.ofInt (if succeeded then 0 else 1))

theorem LogsPass.append_ne_empty {succeeded : Bool} {text : String} (h : LogsPass succeeded text)
    (rest : String) : text ++ rest ≠ "" := by
  obtain ⟨start, outcome, counters, rfl, -⟩ := h
  intro hempty
  have hlist := congrArg String.toList hempty
  simp at hlist

/-- The counters after the first pass. -/
def firstTally (l : Layout Coord) : Tally :=
  match l.resolve with
  | .ok _ => ({} : Tally).countPass l.length l.ruleCount
  | .error _ => ({} : Tally).countFailure

theorem passes_firstTally : (firstTally l).passes = 1 := by
  rw [firstTally]
  split <;> rfl

theorem failures_firstTally : (firstTally l).failures = if l.resolve.isOk then 0 else 1 := by
  rw [firstTally]
  cases l.resolve <;> rfl

/-- A log gets three events. -/
theorem logger_solve (logger : Logger) :
    (solve time l (some logger)).2.logger =
      some (((logger.log (({} : Resolver).startEvent time l)).log
        (({} : Resolver).outcomeEvent time l l.resolve)).log
        ((firstTally l).event time ({} : Resolver).target)) :=
  rfl

/-- Resolving with an empty log fills it with the events of one pass. -/
theorem logsPass_solve (hempty : logger.Keeps "") :
    LogsPass l.resolve.isOk (sinkText (solve time l (some logger)).2.logger) := by
  let start := ({} : Resolver).startEvent time l
  let outcome := ({} : Resolver).outcomeEvent time l l.resolve
  let counters := (firstTally l).event time ({} : Resolver).target
  have hstart : (logger.log start).Keeps (start.line ++ "\n") := by
    simpa using hempty.log (Nat.le_refl _)
  have houtcome : ((logger.log start).log outcome).Keeps _ :=
    hstart.log Resolver.le_rank_outcomeEvent
  have hinfo : Level.debug.rank ≤ Level.info.rank := by decide
  have hcounters : (((logger.log start).log outcome).log counters).Keeps _ := houtcome.log hinfo
  refine ⟨start, outcome, counters, ?_, ?_, rfl, Resolver.message_outcomeEvent, rfl, ?_, ?_⟩
  · rw [logger_solve]
    exact sinkText_of_keeps hcounters
  · intro e _
    exact e.lineFeed_notMem_line
  · have hfield : counters.fields.lookup "passes" = some (.ofInt (firstTally l).passes) := rfl
    rw [hfield, passes_firstTally]
    rfl
  · have hfield : counters.fields.lookup "failures" = some (.ofInt (firstTally l).failures) := rfl
    rw [hfield, failures_firstTally]
    cases l.resolve <;> rfl

theorem sinkText_solve_none : sinkText (solve time l none).2.logger = "" := rfl

end CommandLine
end AnchorLayout
