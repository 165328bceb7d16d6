import AnchorLayout.Proofs.Log.Received
import AnchorLayout.Resolver
import Mathlib.Algebra.Ring.Nat
import Mathlib.Data.List.Forall2
import Mathlib.Data.List.Induction

/-!
# The books of a resolver

A resolver that is called again and again gives the outcomes that it would give without books. Its
counters are sums over the calls, cut off at their limit, and its sink receives two events for each
call, in the order of the calls.
-/

namespace AnchorLayout.Resolver

/-- A call of a resolver: a layout, and the time at which it is resolved. -/
structure Call where
  time : Nat
  layout : Layout Coord

namespace Call

/-- The outcome of a call, whatever the books. -/
def outcome (c : Call) : Except LayoutError (Resolved Coord) := c.layout.resolve

/-- Whether the layout of a call resolves. -/
def succeeds (c : Call) : Bool := c.outcome.isOk

end Call

/-- Makes one call after the other. Gives their outcomes, and the resolver afterwards. -/
def run (r : Resolver) : List Call → List (Except LayoutError (Resolved Coord)) × Resolver
  | [] => ([], r)
  | c :: rest =>
    let (outcome, r) := r.resolve c.time c.layout
    let (outcomes, r) := r.run rest
    (outcome :: outcomes, r)

theorem run_concat (r : Resolver) (calls : List Call) (c : Call) :
    r.run (calls ++ [c]) =
      ((r.run calls).1 ++ [c.outcome], ((r.run calls).2.resolve c.time c.layout).2) := by
  induction calls generalizing r with
  | nil => rfl
  | cons d calls ih => simp only [List.cons_append, run, ih]

theorem fst_run (r : Resolver) (calls : List Call) : (r.run calls).1 = calls.map Call.outcome := by
  induction calls using List.reverseRecOn with
  | nil => rfl
  | append_singleton calls c ih => rw [run_concat, ih, List.map_append]; rfl

/-! ## Counters -/

/-- What is counted for some calls. -/
def tallyOf (calls : List Call) : Tally where
  passes := min calls.length Tally.limit
  successes := min (calls.countP Call.succeeds) Tally.limit
  failures := min (calls.countP fun c => !c.succeeds) Tally.limit
  elements := min ((calls.filter Call.succeeds).map (·.layout.length)).sum Tally.limit
  rules := min ((calls.filter Call.succeeds).map (·.layout.ruleCount)).sum Tally.limit

theorem count_min (n more : Nat) :
    Tally.count (min n Tally.limit) more = min (n + more) Tally.limit := by
  simp only [Tally.count]
  omega

/-- Counting on after some calls is counting one call more. -/
theorem tallyOf_concat (calls : List Call) (c : Call) :
    tallyOf (calls ++ [c]) = match c.outcome with
      | .ok _ => (tallyOf calls).countPass c.layout.length c.layout.ruleCount
      | .error _ => (tallyOf calls).countFailure := by
  cases houtcome : c.outcome with
  | ok r =>
    have hsucceeds : c.succeeds = true := by rw [Call.succeeds, houtcome]; rfl
    simp [tallyOf, Tally.countPass, count_min, List.countP_append, List.filter_append, hsucceeds]
  | error e =>
    have hfails : c.succeeds = false := by rw [Call.succeeds, houtcome]; rfl
    simp [tallyOf, Tally.countFailure, count_min, List.countP_append, List.filter_append, hfails]

/-! ## Events -/

/-- A call is announced by one event and its outcome is told by another. -/
structure Tells (target : String) (c : Call) (announcement result : Event) : Prop where
  announced : announcement.level = .debug ∧ announcement.target = target ∧
    announcement.message = "resolve.start" ∧
    announcement.fields = [("elements", .ofInt c.layout.length),
      ("height", .ofInt c.layout.size.height.val), ("width", .ofInt c.layout.size.width.val)]
  succeeded : ∀ r, c.outcome = .ok r → result.level = .info ∧ result.target = target ∧
    result.message = "resolve.ok" ∧
    result.fields = [("digest", .string (hexText r.digest)), ("elements", .ofInt c.layout.length),
      ("rules", .ofInt c.layout.ruleCount)]
  failed : ∀ e, c.outcome = .error e → result.level = .warn ∧ result.target = target ∧
    result.message = "resolve.failed" ∧
    result.fields = [("error", .string e.message),
      ("offenders", .array (e.offenders.map .string))]

/-- The two events of a call. -/
def events (target : String) (c : Call) : Event × Event :=
  let r : Resolver := { target }
  (r.startEvent c.time c.layout, r.outcomeEvent c.time c.layout c.outcome)

theorem tells_events (target : String) (c : Call) :
    Tells target c (events target c).1 (events target c).2 where
  announced := ⟨rfl, rfl, rfl, rfl⟩
  succeeded := by
    intro r hr
    rw [events, hr]
    exact ⟨rfl, rfl, rfl, rfl⟩
  failed := by
    intro e he
    rw [events, he]
    exact ⟨rfl, rfl, rfl, rfl⟩

/-- Announcements and results in the order in which they are logged. -/
def inTurn (reports : List (Event × Event)) : List Event :=
  reports.flatMap fun (announcement, result) => [announcement, result]

/-! ## Runs -/

/-- A resolver whose books were opened with a logger and fresh counters, after some calls. -/
def after (logger : Logger) (target : String) (calls : List Call) : Resolver where
  logger := some ((inTurn (calls.map (events target))).foldl Logger.log logger)
  tally := some (tallyOf calls)
  target := target

/-- One call more is entered in the books. -/
theorem resolve_after (logger : Logger) (target : String) (calls : List Call) (c : Call) :
    ((after logger target calls).resolve c.time c.layout).2 =
      after logger target (calls ++ [c]) := by
  simp only [after, tallyOf_concat, inTurn, List.map_append, List.flatMap_append,
    List.foldl_append]
  rfl

theorem snd_run (logger : Logger) (target : String) (calls : List Call) :
    (({ logger := some logger, tally := some {}, target } : Resolver).run calls).2 =
      after logger target calls := by
  induction calls using List.reverseRecOn with
  | nil => rfl
  | append_singleton calls c ih => rw [run_concat, ih, resolve_after]

/-- **The books tell what happened.** Each of the calls of a resolver returns what a resolver without
books returns. The counters that were fresh before show the numbers of calls, of successes and of
failures, and the elements and rules of the layouts that were resolved, each up to the limit. The sink
has received the announcement and the result of each call, in order, but those below the least
level. -/
theorem run_books (logger : Logger) (target : String) (calls : List Call) :
    let r : Resolver := { logger := some logger, tally := some {}, target }
    (r.run calls).1 = calls.map (fun c => (({} : Resolver).resolve c.time c.layout).1) ∧
      (r.run calls).2.tally = some
        { passes := min calls.length Tally.limit
          successes := min (calls.countP Call.succeeds) Tally.limit
          failures := min (calls.countP fun c => !c.succeeds) Tally.limit
          elements := min ((calls.filter Call.succeeds).map (·.layout.length)).sum Tally.limit
          rules := min ((calls.filter Call.succeeds).map (·.layout.ruleCount)).sum Tally.limit } ∧
      ∃ reports : List (Event × Event),
        List.Forall₂ (fun c (announcement, result) => Tells target c announcement result)
          calls reports ∧
        let received := (inTurn reports).filter (Event.isAtLeast logger.leastLevel)
        (r.run calls).2.logger = some { logger with sink := received.foldl Sink.log logger.sink } ∧
          ∀ held, logger.sink = .memory held →
            (r.run calls).2.logger.map (·.sink.events) = some (held ++ received) := by
  intro r
  have hafter : (r.run calls).2 = after logger target calls := snd_run logger target calls
  have hlogger : (r.run calls).2.logger = some { logger with
      sink := ((inTurn (calls.map (events target))).filter
        (Event.isAtLeast logger.leastLevel)).foldl Sink.log logger.sink } := by
    rw [hafter, after, Logger.foldl_log]
  refine ⟨r.fst_run calls, by rw [hafter]; rfl, calls.map (events target), ?_, hlogger, ?_⟩
  · rw [List.forall₂_map_right_iff, List.forall₂_same]
    exact fun c _ => tells_events target c
  · intro held hheld
    rw [hlogger, hheld, Sink.foldl_log_memory]
    rfl

end AnchorLayout.Resolver
