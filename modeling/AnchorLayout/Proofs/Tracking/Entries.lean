import Mathlib.Data.List.Induction
import Mathlib.Data.List.Nodup
import Mathlib.Data.List.Perm.Basic
import AnchorLayout.Tracker

/-!
# The entries of a tracker

Entries are read as a map from labels to states: two lists of entries without repeated labels differ
only in order if the same is found in them. Recording a pass changes what is found for the labels of
the pass only, and marks exactly the labels that it reports.
-/

namespace AnchorLayout

/-- Labels and frames of a pass. -/
def Resolved.labelled {α : Type} (r : Resolved α) : List (String × Frame α) := r.labels.zip r.frames

@[simp] theorem Resolved.map_fst_labelled {α : Type} (r : Resolved α) :
    r.labelled.map Prod.fst = r.labels :=
  List.map_fst_zip (by simp [labels, frames])

theorem Resolved.mem_labels_iff {α : Type} {r : Resolved α} {label : String} :
    label ∈ r.labels ↔ ∃ frame, (label, frame) ∈ r.labelled := by
  rw [← r.map_fst_labelled]
  simp only [List.mem_map, Prod.exists, exists_and_right, exists_eq_right]

/-- Where labels do not repeat, each has one frame. -/
theorem Resolved.labelled_unique {α : Type} {r : Resolved α} (h : r.labels.Nodup) {label : String}
    {f g : Frame α} (hf : (label, f) ∈ r.labelled) (hg : (label, g) ∈ r.labelled) : f = g := by
  rw [← r.map_fst_labelled] at h
  exact (Prod.mk.inj (List.inj_on_of_nodup_map h hf hg rfl)).2

/-- Dropping later occurrences leaves one of each element. -/
theorem nodup_eraseDups {α : Type} [BEq α] [LawfulBEq α] (xs : List α) : xs.eraseDups.Nodup := by
  match xs with
  | [] => simp
  | x :: xs =>
    rw [List.eraseDups_cons, List.nodup_cons]
    exact ⟨by simp, nodup_eraseDups _⟩
termination_by xs.length
decreasing_by
  have hle := List.length_filter_le (fun y => !y == x) xs
  simp only [List.length_cons]
  omega

namespace Tracker

/-! ## Sorting -/

@[simp] theorem mem_sort {labels : List String} {label : String} :
    label ∈ sort labels ↔ label ∈ labels :=
  (List.mergeSort_perm labels _).mem_iff

/-- Without repetition labels are sorted strictly. -/
theorem pairwise_sort {labels : List String} (h : labels.Nodup) :
    (sort labels).Pairwise (· < ·) := by
  have hle : (sort labels).Pairwise fun a b => decide (a ≤ b) = true := by
    apply List.pairwise_mergeSort
    · simpa using fun a b c => String.le_trans
    · simpa using String.le_total
  have hne : (sort labels).Pairwise (· ≠ ·) := (List.mergeSort_perm labels _).nodup_iff.2 h
  refine (hle.and hne).imp fun {a b} hab => ?_
  rw [← String.not_le]
  exact fun hba => hab.2 (String.le_antisymm (of_decide_eq_true hab.1) hba)

/-! ## Finding -/

section
variable {entries : List (String × FrameState)} {label : String}

theorem find?_cons (e : String × FrameState) :
    find? (e :: entries) label = if e.1 = label then some e.2 else find? entries label := by
  by_cases h : e.1 = label <;> simp [find?, h]

theorem find?_eq_some_iff (h : (entries.map Prod.fst).Nodup) {s : FrameState} :
    find? entries label = some s ↔ (label, s) ∈ entries := by
  induction entries with
  | nil => simp [find?]
  | cons e entries ih =>
    obtain ⟨other, t⟩ := e
    rw [List.map_cons, List.nodup_cons] at h
    rw [find?_cons]
    split
    case isTrue heq =>
      obtain rfl : other = label := heq
      have hnot : (other, s) ∉ entries := fun hmem => h.1 (List.mem_map.2 ⟨_, hmem, rfl⟩)
      simp [hnot, eq_comm]
    case isFalse hne => simp [ih h.2, Ne.symm hne]

theorem find?_map (f : String → FrameState → FrameState) :
    find? (entries.map fun (label, s) => (label, f label s)) label =
      (find? entries label).map (f label) := by
  induction entries with
  | nil => rfl
  | cons e entries ih =>
    rw [List.map_cons, find?_cons, find?_cons, ih]
    obtain ⟨other, s⟩ := e
    by_cases heq : other = label
    · rw [if_pos heq, if_pos heq, Option.map_some, heq]
    · rw [if_neg heq, if_neg heq]

theorem find?_filter (p : String → Bool) :
    find? (entries.filter (p ·.1)) label = if p label then find? entries label else none := by
  induction entries with
  | nil => simp [find?]
  | cons e entries ih =>
    rw [List.filter_cons, find?_cons]
    by_cases heq : e.1 = label
    · subst heq
      by_cases hp : p e.1 <;> simp [hp, find?_cons, ih]
    · by_cases hp : p e.1 <;> simp [hp, heq, find?_cons, ih]

theorem map_fst_set (s : FrameState) :
    (set entries label s).map Prod.fst =
      if label ∈ entries.map Prod.fst then entries.map Prod.fst
      else entries.map Prod.fst ++ [label] := by
  induction entries with
  | nil => simp [set]
  | cons e entries ih =>
    by_cases heq : e.1 = label
    · simp [set, heq]
    · simp only [set, heq, if_false, List.map_cons, ih, List.mem_cons, Ne.symm heq, false_or]
      split <;> rfl

/-- Setting a state keeps one entry for each label. -/
theorem nodup_set (h : (entries.map Prod.fst).Nodup) (s : FrameState) :
    ((set entries label s).map Prod.fst).Nodup := by
  rw [map_fst_set]
  split
  · exact h
  · rw [List.nodup_append_comm]
    exact List.nodup_cons.2 ⟨‹_›, h⟩

end

/-! ## Recording -/

/-- A label is new, or has another frame than recorded. -/
def Moves (entries : List (String × FrameState)) (label : String) (frame : Frame Coord) : Prop :=
  (find? entries label).map (·.frame) ≠ some frame

instance (entries : List (String × FrameState)) (label : String) (frame : Frame Coord) :
    Decidable (Moves entries label frame) :=
  inferInstanceAs (Decidable (_ ≠ _))

/-- Records the frames of a whole pass. -/
def recordAll (entries : List (String × FrameState)) (pass : List (String × Frame Coord)) :
    List (String × FrameState) × List String :=
  pass.foldl (fun state (label, frame) => record state label frame) (entries, [])

variable {entries : List (String × FrameState)} {pass : List (String × Frame Coord)}
  {label : String} {frame : Frame Coord}

theorem record_eq (state : List (String × FrameState) × List String) :
    record state label frame =
      if Moves state.1 label frame then
        (set state.1 label { frame, isMarked := true }, state.2 ++ [label])
      else state := by
  by_cases h : (find? state.1 label).map (·.frame) = some frame <;> simp [record, Moves, h]

theorem recordAll_append_singleton :
    recordAll entries (pass ++ [(label, frame)]) = record (recordAll entries pass) label frame := by
  rw [recordAll, List.foldl_append]
  rfl

/-- Recording keeps one entry for each label. -/
theorem nodup_recordAll (h : (entries.map Prod.fst).Nodup) :
    ((recordAll entries pass).1.map Prod.fst).Nodup := by
  induction pass using List.reverseRecOn with
  | nil => exact h
  | append_singleton pass new ih =>
    rw [recordAll_append_singleton, record_eq]
    split
    · exact nodup_set ih _
    · exact ih

/-- Recording touches no label outside the pass. -/
theorem find?_recordAll_of_notMem (h : label ∉ pass.map Prod.fst) :
    find? (recordAll entries pass).1 label = find? entries label := by
  induction pass using List.reverseRecOn with
  | nil => rfl
  | append_singleton pass new ih =>
    rw [List.map_append, List.mem_append, not_or, List.map_singleton, List.mem_singleton] at h
    rw [recordAll_append_singleton, record_eq]
    split
    · rw [find?_set, if_neg (Ne.symm h.2), ih h.1]
    · exact ih h.1

/-- The state of a label in the pass stays, or becomes that of a label that has just moved. -/
theorem find?_recordAll (hnodup : (pass.map Prod.fst).Nodup) (h : (label, frame) ∈ pass) :
    find? (recordAll entries pass).1 label =
      if Moves entries label frame then some { frame, isMarked := true }
      else find? entries label := by
  induction pass using List.reverseRecOn with
  | nil => simp at h
  | append_singleton pass new ih =>
    obtain ⟨other, last⟩ := new
    rw [List.map_append, List.nodup_append_comm] at hnodup
    obtain ⟨hnew, hnodup⟩ := List.nodup_cons.1 hnodup
    have hother : find? (recordAll entries pass).1 other = find? entries other :=
      find?_recordAll_of_notMem hnew
    have hmoves : Moves (recordAll entries pass).1 other last ↔ Moves entries other last := by
      simp only [Moves, hother]
    rw [recordAll_append_singleton, record_eq]
    rcases List.mem_append.1 h with hmem | hmem
    · have hne : other ≠ label := by
        rintro rfl
        exact hnew (List.mem_map.2 ⟨_, hmem, rfl⟩)
      rw [← ih hnodup hmem]
      split
      · rw [find?_set, if_neg hne]
      · rfl
    · obtain ⟨rfl, rfl⟩ := Prod.mk.inj (List.mem_singleton.1 hmem)
      simp only [hmoves]
      split
      · rw [find?_set, if_pos rfl]
      · exact hother

theorem frame_recordAll (hnodup : (pass.map Prod.fst).Nodup) (h : (label, frame) ∈ pass) :
    (find? (recordAll entries pass).1 label).map (·.frame) = some frame := by
  rw [find?_recordAll hnodup h]
  split
  · rfl
  · exact not_not.1 ‹_›

/-- A label in the pass is marked if it was marked, or has moved. -/
theorem isMarked_recordAll (hnodup : (pass.map Prod.fst).Nodup) (h : (label, frame) ∈ pass) :
    (∃ s, find? (recordAll entries pass).1 label = some s ∧ s.isMarked = true) ↔
      (∃ s, find? entries label = some s ∧ s.isMarked = true) ∨ Moves entries label frame := by
  rw [find?_recordAll hnodup h]
  split
  case isTrue hmoves => simp [hmoves]
  case isFalse hmoves => simp [hmoves]

/-- The labels that are reported are those that moved, each once and in the order of the pass. -/
theorem recordAll_snd (hnodup : (pass.map Prod.fst).Nodup) :
    (recordAll entries pass).2 =
      (pass.filter fun (label, frame) => decide (Moves entries label frame)).map Prod.fst := by
  induction pass using List.reverseRecOn with
  | nil => rfl
  | append_singleton pass new ih =>
    obtain ⟨other, last⟩ := new
    rw [List.map_append, List.nodup_append_comm] at hnodup
    obtain ⟨hnew, hnodup⟩ := List.nodup_cons.1 hnodup
    have hmoves : Moves (recordAll entries pass).1 other last ↔ Moves entries other last := by
      simp only [Moves, find?_recordAll_of_notMem hnew]
    rw [recordAll_append_singleton, record_eq, List.filter_append, List.map_append, ← ih hnodup]
    simp only [hmoves]
    by_cases h : Moves entries other last <;> simp [h]

theorem nodup_recordAll_snd (hnodup : (pass.map Prod.fst).Nodup) :
    (recordAll entries pass).2.Nodup := by
  rw [recordAll_snd hnodup]
  exact hnodup.sublist (List.filter_sublist.map _)

theorem mem_recordAll_snd (hnodup : (pass.map Prod.fst).Nodup) :
    label ∈ (recordAll entries pass).2 ↔
      ∃ frame, (label, frame) ∈ pass ∧ Moves entries label frame := by
  simp [recordAll_snd hnodup]

end Tracker
end AnchorLayout
