import AnchorLayout.Proofs.Json.Lines
import AnchorLayout.Proofs.Json.Telling
import AnchorLayout.Proofs.Log.Received

/-!
# One line for each event

The text of a sink splits at its line feeds into the lines of the events that it received: none is
broken, and no two run into each other. A line begins with the time, the level, the target and the
message, and these can be told from it whatever they hold and whatever the fields behind them hold.
-/

namespace AnchorLayout

/-! ## Lines of a text -/

/-- Lines without line feeds, each ended by one, are found again. Nothing stands behind the last. -/
theorem splitOn_ended {lines : List (List Char)} (h : ∀ line ∈ lines, '\n' ∉ line) :
    (lines.flatMap (· ++ ['\n'])).splitOn '\n' = lines ++ [[]] := by
  induction lines with
  | nil => rfl
  | cons line lines ih =>
    rw [List.forall_mem_cons] at h
    rw [List.flatMap_cons, List.append_assoc, List.singleton_append,
      List.splitOn_append_cons_self_of_not_mem h.1, ih h.2, List.cons_append]

theorem splitOn_lines (events : List Event) :
    ((String.join (events.map fun e => e.line ++ "\n")).toList.splitOn '\n').map String.ofList =
      events.map Event.line ++ [""] := by
  have htext : (String.join (events.map fun e => e.line ++ "\n")).toList =
      (events.map fun e => e.line.toList).flatMap (· ++ ['\n']) := by
    simp [List.flatMap_map]
  have hlines : ∀ line ∈ events.map fun e => e.line.toList, '\n' ∉ line := by
    intro line hline
    obtain ⟨e, -, rfl⟩ := List.mem_map.1 hline
    exact e.lineFeed_notMem_line
  rw [htext, splitOn_ended hlines]
  simp [Function.comp_def]

/-! ## Events with one line -/

theorem Level.name_inj {a b : Level} (h : a.name = b.name) : a = b := by
  cases a <;> cases b <;> simp [name] at h ⊢

namespace Event

/-- The members that every event has. -/
def leading (e : Event) : List (String × Json) :=
  [("ts_ms", .ofInt e.time), ("level", .string e.level.name), ("target", .string e.target),
   ("message", .string e.message)]

/-- The member for the fields, if there are any. -/
def trailing (e : Event) : List (String × Json) :=
  if e.fields.isEmpty then [] else [("fields", .object e.fields)]

theorem line_eq (e : Event) : e.line = (Json.object (e.leading ++ e.trailing)).compact := rfl

theorem plain_leading (e : Event) : ∀ m ∈ e.leading, m.2.Plain := by
  simp only [leading, List.forall_mem_cons]
  exact ⟨.integer _, .string _, .string _, .string _, by simp⟩

/-- What every event has can be told from its line. -/
theorem eq_of_line_eq {e e' : Event} (h : e.line = e'.line) :
    e.time = e'.time ∧ e.level = e'.level ∧ e.target = e'.target ∧ e.message = e'.message := by
  rw [line_eq, line_eq] at h
  have hleading : e.leading = e'.leading :=
    Json.leading_members_eq rfl e.plain_leading e'.plain_leading h
  simp only [leading, Json.ofInt, List.cons.injEq, Prod.mk.injEq, Json.number.injEq,
    Decimal.Number.integer.injEq, Json.string.injEq, true_and, and_true] at hleading
  obtain ⟨htime, hlevel, htarget, hmessage⟩ := hleading
  exact ⟨Int.ofNat.inj htime, Level.name_inj hlevel, htarget, hmessage⟩

end Event

/-- **A log has one line for each event.** Whatever the events hold, the text of a sink behind a
logger splits at its line feeds into the lines of the events from the least level on, in their order,
with nothing behind the last line feed. Events with the same line have the same time, level, target
and message. -/
theorem log_lines (least : Level) (events : List Event) :
    (∃ text, events.foldl Logger.log { sink := .writer "", leastLevel := least } =
        { sink := .writer text, leastLevel := least } ∧
      (text.toList.splitOn '\n').map String.ofList =
        (events.filter (Event.isAtLeast least)).map Event.line ++ [""]) ∧
    ∀ e e' : Event, e.line = e'.line →
      e.time = e'.time ∧ e.level = e'.level ∧ e.target = e'.target ∧ e.message = e'.message := by
  let received := events.filter (Event.isAtLeast least)
  refine ⟨⟨String.join (received.map fun e => e.line ++ "\n"), ?_, ?_⟩,
    fun e e' h => Event.eq_of_line_eq h⟩
  · rw [Logger.foldl_log, Sink.foldl_log_writer, String.empty_append]
  · exact splitOn_lines received

end AnchorLayout
