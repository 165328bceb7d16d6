import AnchorLayout.Proofs.Tracking.Entries

/-!
# Runs of a tracker

A tracker is asked to observe passes and to hand out its marked entries, in any order and any number
of times. Through all of this it knows the frames of the last pass, marks are kept twice and always
agree, and each change is handed out once.
-/

namespace AnchorLayout.Tracker

/-- What a tracker is asked for. -/
inductive Call where
  | observe (r : Resolved Coord)
  | takeMarked
deriving DecidableEq

/-- The pass that a call hands to the tracker. -/
def Call.pass? : Call → Option (Resolved Coord)
  | observe r => some r
  | takeMarked => none

/-- The tracker after one more call. -/
def step (t : Tracker) : Call → Tracker
  | .observe r => (t.observe r).1
  | .takeMarked => t.takeMarked.1

/-- A new tracker after some calls. -/
def run (calls : List Call) : Tracker := calls.foldl step {}

/-- The last pass among some calls. -/
def lastPass? (calls : List Call) : Option (Resolved Coord) := (calls.filterMap Call.pass?).getLast?

/-- The labels and frames of the last pass; before the first pass there are none. -/
def lastFrames (calls : List Call) : List (String × Frame Coord) :=
  ((lastPass? calls).map Resolved.labelled).getD []

/-- A label was reported as changed since marked entries were last taken. -/
def ReportedSince (calls : List Call) (label : String) : Prop :=
  ∃ before r after, calls = before ++ .observe r :: after ∧ .takeMarked ∉ after ∧
    label ∈ ((run before).observe r).2

/-- In each pass all labels differ, and passes with the same digest have the same labels and
frames. -/
structure Discernible (calls : List Call) : Prop where
  nodup : ∀ r, .observe r ∈ calls → r.labels.Nodup
  labelled_eq : ∀ r s, .observe r ∈ calls → .observe s ∈ calls → fingerprint r = fingerprint s →
    r.labelled = s.labelled

section
variable {calls : List Call} {r : Resolved Coord} {label : String}

theorem run_append_singleton (call : Call) : run (calls ++ [call]) = (run calls).step call := by
  rw [run, List.foldl_append]
  rfl

@[simp] theorem lastPass?_observe : lastPass? (calls ++ [.observe r]) = some r := by
  simp [lastPass?, Call.pass?]

@[simp] theorem lastPass?_takeMarked : lastPass? (calls ++ [.takeMarked]) = lastPass? calls := by
  simp [lastPass?, Call.pass?]

@[simp] theorem lastFrames_observe : lastFrames (calls ++ [.observe r]) = r.labelled := by
  simp [lastFrames]

@[simp] theorem lastFrames_takeMarked :
    lastFrames (calls ++ [.takeMarked]) = lastFrames calls := by
  simp [lastFrames]

theorem reportedSince_observe :
    ReportedSince (calls ++ [.observe r]) label ↔
      ReportedSince calls label ∨ label ∈ ((run calls).observe r).2 := by
  constructor
  · rintro ⟨before, s, after, heq, hafter, hlabel⟩
    cases after using List.reverseRecOn with
    | nil =>
      obtain ⟨rfl, hcall⟩ := List.append_inj' heq rfl
      cases hcall
      exact .inr hlabel
    | append_singleton after last =>
      rw [← List.cons_append, ← List.append_assoc] at heq
      obtain ⟨rfl, -⟩ := List.append_inj' heq rfl
      exact .inl ⟨before, s, after, rfl, fun h => hafter (List.mem_append_left _ h), hlabel⟩
  · rintro (⟨before, s, after, rfl, hafter, hlabel⟩ | hlabel)
    · exact ⟨before, s, after ++ [.observe r], by simp, by simpa using hafter, hlabel⟩
    · exact ⟨calls, r, [], rfl, by simp, hlabel⟩

theorem not_reportedSince_takeMarked : ¬ ReportedSince (calls ++ [.takeMarked]) label := by
  rintro ⟨before, s, after, heq, hafter, -⟩
  cases after using List.reverseRecOn with
  | nil =>
    obtain ⟨-, hcall⟩ := List.append_inj' heq rfl
    cases hcall
  | append_singleton after last =>
    rw [← List.cons_append, ← List.append_assoc] at heq
    obtain ⟨-, hlast⟩ := List.append_inj' heq rfl
    cases hlast
    simp at hafter

theorem Discernible.left {after : List Call} (h : Discernible (calls ++ after)) :
    Discernible calls where
  nodup r hr := h.nodup r (List.mem_append_left _ hr)
  labelled_eq r s hr hs := h.labelled_eq r s (List.mem_append_left _ hr) (List.mem_append_left _ hs)

theorem observe_mem_of_lastPass? (h : lastPass? calls = some r) : .observe r ∈ calls := by
  obtain ⟨call, hcall, hr⟩ := List.mem_filterMap.1 (List.mem_of_getLast? h)
  cases call with
  | observe s =>
    obtain rfl := Option.some.inj hr
    exact hcall
  | takeMarked => cases hr

end

/-! ## One call -/

/-- A tracker that knows some labels and frames, and whose marks agree. -/
structure Keeps (t : Tracker) (pass : List (String × Frame Coord)) : Prop where
  nodup : (t.entries.map Prod.fst).Nodup
  frame?_eq_some_iff : ∀ label f, t.frame? label = some f ↔ (label, f) ∈ pass
  nodup_marked : t.marked.Nodup
  mem_marked_iff : ∀ label, label ∈ t.marked ↔
    ∃ s, find? t.entries label = some s ∧ s.isMarked = true

variable {t : Tracker} {pass : List (String × Frame Coord)} {r : Resolved Coord}

theorem keeps_empty : Keeps {} [] where
  nodup := List.nodup_nil
  frame?_eq_some_iff := by simp [frame?, find?]
  nodup_marked := List.nodup_nil
  mem_marked_iff := by simp [find?]

/-- A pass that is not taken for equal to the one before is recorded. -/
theorem observe_eq (h : t.lastFingerprint ≠ some (fingerprint r)) :
    t.observe r =
      ({ entries := (recordAll t.entries r.labelled).1.filter (r.labels.contains ·.1)
         marked := (t.marked.filter r.labels.contains ++
           (recordAll t.entries r.labelled).2).eraseDups
         lastFingerprint := some (fingerprint r) },
       sort (recordAll t.entries r.labelled).2) := by
  rw [observe, if_neg h]
  rfl

theorem observe_of_eq (h : t.lastFingerprint = some (fingerprint r)) : t.observe r = (t, []) := by
  rw [observe, if_pos h]

theorem pairwise_observe_snd (hnodup : r.labels.Nodup) :
    (t.observe r).2.Pairwise (· < ·) := by
  by_cases hprint : t.lastFingerprint = some (fingerprint r)
  · simp [observe_of_eq hprint]
  · rw [observe_eq hprint]
    exact pairwise_sort (nodup_recordAll_snd (by rwa [Resolved.map_fst_labelled]))

namespace Keeps

theorem moves_iff (h : t.Keeps pass) {label : String} {f : Frame Coord} :
    Moves t.entries label f ↔ (label, f) ∉ pass :=
  not_congr (h.frame?_eq_some_iff label f)

/-- The labels that are reported are new, or have another frame than the tracker knows. -/
theorem mem_observe_snd_iff (h : t.Keeps pass) (hnodup : r.labels.Nodup)
    (hsame : t.lastFingerprint = some (fingerprint r) → r.labelled = pass) {label : String} :
    label ∈ (t.observe r).2 ↔ ∃ f, (label, f) ∈ r.labelled ∧ (label, f) ∉ pass := by
  by_cases hprint : t.lastFingerprint = some (fingerprint r)
  · simp [observe_of_eq hprint, hsame hprint]
  · rw [observe_eq hprint, mem_sort, mem_recordAll_snd (by rwa [Resolved.map_fst_labelled])]
    simp only [h.moves_iff]

/-- Marks of labels that no longer occur are dropped, and what is reported is marked. -/
theorem mem_marked_observe_iff (h : t.Keeps pass)
    (hsame : t.lastFingerprint = some (fingerprint r) → r.labelled = pass) {label : String} :
    label ∈ (t.observe r).1.marked ↔
      label ∈ t.marked ∧ label ∈ r.labels ∨ label ∈ (t.observe r).2 := by
  by_cases hprint : t.lastFingerprint = some (fingerprint r)
  · rw [observe_of_eq hprint]
    simp only [List.not_mem_nil, or_false, iff_self_and]
    intro hmarked
    obtain ⟨s, hs, -⟩ := (h.mem_marked_iff label).1 hmarked
    rw [Resolved.mem_labels_iff, hsame hprint]
    exact ⟨s.frame, (h.frame?_eq_some_iff _ _).1 (by rw [frame?, hs, Option.map_some])⟩
  · simp [observe_eq hprint]

/-- After a pass the tracker knows the frames of that pass, and its marks agree. -/
theorem observe (h : t.Keeps pass) (hnodup : r.labels.Nodup)
    (hsame : t.lastFingerprint = some (fingerprint r) → r.labelled = pass) :
    (t.observe r).1.Keeps r.labelled := by
  by_cases hprint : t.lastFingerprint = some (fingerprint r)
  · rwa [observe_of_eq hprint, hsame hprint]
  have hlabels : (r.labelled.map Prod.fst).Nodup := by rwa [Resolved.map_fst_labelled]
  have hfind (label : String) : find? (t.observe r).1.entries label =
      if label ∈ r.labels then find? (recordAll t.entries r.labelled).1 label else none := by
    rw [observe_eq hprint, find?_filter r.labels.contains]
    simp only [List.contains_iff_mem]
  constructor
  case nodup =>
    rw [observe_eq hprint]
    exact (nodup_recordAll h.nodup).sublist (List.filter_sublist.map _)
  case frame?_eq_some_iff =>
    intro label f
    rw [frame?, hfind]
    split
    case isTrue hlabel =>
      obtain ⟨g, hg⟩ := Resolved.mem_labels_iff.1 hlabel
      rw [frame_recordAll hlabels hg, Option.some.injEq]
      exact ⟨fun heq => heq ▸ hg, Resolved.labelled_unique hnodup hg⟩
    case isFalse hlabel =>
      simp only [Option.map_none, reduceCtorEq, false_iff]
      exact fun hf => hlabel (Resolved.mem_labels_iff.2 ⟨f, hf⟩)
  case nodup_marked =>
    rw [observe_eq hprint]
    exact nodup_eraseDups _
  case mem_marked_iff =>
    intro label
    rw [h.mem_marked_observe_iff hsame, hfind, h.mem_observe_snd_iff hnodup hsame]
    split
    case isTrue hlabel =>
      obtain ⟨g, hg⟩ := Resolved.mem_labels_iff.1 hlabel
      rw [isMarked_recordAll hlabels hg, ← h.mem_marked_iff, and_iff_left hlabel]
      refine or_congr_right ⟨?_, fun hmoves => ⟨g, hg, h.moves_iff.1 hmoves⟩⟩
      rintro ⟨f, hf, hnot⟩
      rw [h.moves_iff, Resolved.labelled_unique hnodup hg hf]
      exact hnot
    case isFalse hlabel =>
      have hnone (f : Frame Coord) : (label, f) ∉ r.labelled :=
        fun hf => hlabel (Resolved.mem_labels_iff.2 ⟨f, hf⟩)
      simp [hlabel, hnone]

end Keeps

/-- Taking the marked entries removes the marks from them. -/
theorem find?_takeMarked (label : String) :
    find? t.takeMarked.1.entries label = (find? t.entries label).map fun s =>
      if t.marked.contains label then { s with isMarked := false } else s :=
  find?_map fun label s => if t.marked.contains label then { s with isMarked := false } else s

namespace Keeps

/-- Afterwards nothing is marked. -/
theorem isMarked_takeMarked (h : t.Keeps pass) {label : String} {s : FrameState}
    (hs : find? t.takeMarked.1.entries label = some s) : s.isMarked = false := by
  rw [find?_takeMarked, Option.map_eq_some_iff] at hs
  obtain ⟨s, hs, rfl⟩ := hs
  split
  case isTrue => rfl
  case isFalse hnot =>
    rw [List.contains_iff_mem, h.mem_marked_iff] at hnot
    exact Bool.eq_false_iff.2 fun hmarked => hnot ⟨s, hs, hmarked⟩

theorem frame?_takeMarked (label : String) : t.takeMarked.1.frame? label = t.frame? label := by
  rw [frame?, find?_takeMarked, Option.map_map, frame?]
  congr 1
  funext s
  simp only [Function.comp_apply]
  split <;> rfl

theorem takeMarked (h : t.Keeps pass) : t.takeMarked.1.Keeps pass where
  nodup := by
    have hlabels : t.takeMarked.1.entries.map Prod.fst = t.entries.map Prod.fst := by
      simp [Tracker.takeMarked]
    rw [hlabels]
    exact h.nodup
  frame?_eq_some_iff label f := by rw [frame?_takeMarked, h.frame?_eq_some_iff]
  nodup_marked := List.nodup_nil
  mem_marked_iff label := by
    refine iff_of_false (List.not_mem_nil) ?_
    rintro ⟨s, hs, hmarked⟩
    rw [h.isMarked_takeMarked hs] at hmarked
    cases hmarked

/-- Every marked label has an entry, so all of them are handed out. -/
theorem map_fst_taken (h : t.Keeps pass) : t.takeMarked.2.map Prod.fst = sort t.marked := by
  change ((sort t.marked).filterMap fun label =>
    (find? t.takeMarked.1.entries label).map (label, ·)).map Prod.fst = _
  rw [List.map_filterMap]
  refine (List.filterMap_congr fun label hlabel => ?_).trans List.filterMap_some
  obtain ⟨s, hs, -⟩ := (h.mem_marked_iff label).1 (mem_sort.1 hlabel)
  rw [find?_takeMarked, hs]
  rfl

/-- What is handed out are the marked labels, with the frames that the tracker knows. -/
theorem mem_taken_iff (h : t.Keeps pass) {label : String} {s : FrameState} :
    (label, s) ∈ t.takeMarked.2 ↔
      label ∈ t.marked ∧ (label, s.frame) ∈ pass ∧ s.isMarked = false := by
  have htaken : (label, s) ∈ t.takeMarked.2 ↔
      label ∈ t.marked ∧ find? t.takeMarked.1.entries label = some s := by
    change (label, s) ∈ (sort t.marked).filterMap (fun label =>
      (find? t.takeMarked.1.entries label).map (label, ·)) ↔ _
    simp only [List.mem_filterMap, mem_sort, Option.map_eq_some_iff, Prod.mk.injEq]
    constructor
    · rintro ⟨_, hmarked, _, hs, rfl, rfl⟩
      exact ⟨hmarked, hs⟩
    · rintro ⟨hmarked, hs⟩
      exact ⟨label, hmarked, s, hs, rfl, rfl⟩
  rw [htaken, ← h.takeMarked.frame?_eq_some_iff, frame?, Option.map_eq_some_iff]
  refine and_congr_right fun _ => ⟨fun hs => ⟨⟨s, hs, rfl⟩, h.isMarked_takeMarked hs⟩, ?_⟩
  rintro ⟨⟨s', hs', hframe⟩, hmarked⟩
  have hmarked' := h.isMarked_takeMarked hs'
  cases s
  cases s'
  cases hframe
  cases hmarked
  cases hmarked'
  exact hs'

end Keeps

/-! ## Runs of calls -/

/-- What a tracker holds after some calls. -/
structure Tracks (calls : List Call) : Prop where
  keeps : (run calls).Keeps (lastFrames calls)
  lastFingerprint_eq : (run calls).lastFingerprint = (lastPass? calls).map fingerprint
  mem_marked_iff : ∀ label, label ∈ (run calls).marked ↔
    ReportedSince calls label ∧ label ∈ (lastFrames calls).map Prod.fst

section
variable {calls : List Call}

/-- Only a pass with the same labels and frames is taken for the one before. -/
theorem Tracks.labelled_eq (h : Tracks calls) (hcalls : Discernible (calls ++ [.observe r]))
    (hprint : (run calls).lastFingerprint = some (fingerprint r)) :
    r.labelled = lastFrames calls := by
  rw [h.lastFingerprint_eq, Option.map_eq_some_iff] at hprint
  obtain ⟨s, hs, hprint⟩ := hprint
  have hmem := List.mem_append_left [.observe r] (observe_mem_of_lastPass? hs)
  rw [lastFrames, hs, Option.map_some, Option.getD_some]
  exact (hcalls.labelled_eq s r hmem (by simp) hprint).symm

theorem Tracks.observe (h : Tracks calls) (hcalls : Discernible (calls ++ [.observe r])) :
    Tracks (calls ++ [.observe r]) := by
  have hnodup : r.labels.Nodup := hcalls.nodup r (by simp)
  have hsame := h.labelled_eq hcalls
  constructor
  case keeps =>
    rw [run_append_singleton, lastFrames_observe]
    exact h.keeps.observe hnodup hsame
  case lastFingerprint_eq =>
    rw [run_append_singleton, lastPass?_observe, step, Option.map_some]
    by_cases hprint : (run calls).lastFingerprint = some (fingerprint r)
    · rw [observe_of_eq hprint, hprint]
    · rw [observe_eq hprint]
  case mem_marked_iff =>
    intro label
    rw [run_append_singleton, step, h.keeps.mem_marked_observe_iff hsame, reportedSince_observe,
      lastFrames_observe, Resolved.map_fst_labelled, h.mem_marked_iff]
    have hreported : label ∈ ((run calls).observe r).2 ↔
        ∃ f, (label, f) ∈ r.labelled ∧ (label, f) ∉ lastFrames calls :=
      h.keeps.mem_observe_snd_iff hnodup hsame
    constructor
    · rintro (⟨⟨hsince, -⟩, hlabel⟩ | hlabel)
      · exact ⟨.inl hsince, hlabel⟩
      · obtain ⟨f, hf, -⟩ := hreported.1 hlabel
        exact ⟨.inr hlabel, Resolved.mem_labels_iff.2 ⟨f, hf⟩⟩
    · rintro ⟨hsince | hlabel, hpresent⟩
      -- A label that was dropped in between and is back is new, and so is reported again.
      · by_cases hknown : label ∈ (lastFrames calls).map Prod.fst
        · exact .inl ⟨⟨hsince, hknown⟩, hpresent⟩
        · obtain ⟨f, hf⟩ := Resolved.mem_labels_iff.1 hpresent
          exact .inr (hreported.2 ⟨f, hf, fun hmem => hknown (List.mem_map.2 ⟨_, hmem, rfl⟩)⟩)
      · exact .inr hlabel

theorem Tracks.takeMarked (h : Tracks calls) : Tracks (calls ++ [.takeMarked]) := by
  constructor
  case keeps =>
    rw [run_append_singleton, lastFrames_takeMarked]
    exact h.keeps.takeMarked
  case lastFingerprint_eq =>
    rw [run_append_singleton, lastPass?_takeMarked, ← h.lastFingerprint_eq]
    rfl
  case mem_marked_iff =>
    intro label
    rw [run_append_singleton]
    exact iff_of_false List.not_mem_nil fun hlabel => not_reportedSince_takeMarked hlabel.1

theorem tracks (h : Discernible calls) : Tracks calls := by
  induction calls using List.reverseRecOn with
  | nil =>
    refine ⟨keeps_empty, rfl, fun label => iff_of_false List.not_mem_nil ?_⟩
    rintro ⟨⟨_, _, _, heq, -⟩, -⟩
    simp at heq
  | append_singleton calls call ih =>
    cases call with
    | observe r => exact (ih h.left).observe h
    | takeMarked => exact (ih h.left).takeMarked

end

/-- How a tracker accounts for the passes of a run of calls. -/
structure Accounts (calls : List Call) : Prop where
  /-- After a pass the entries are the labels and frames of that pass. -/
  entries : ∀ before r after, calls = before ++ .observe r :: after →
    (((run before).observe r).1.entries.map fun (label, s) => (label, s.frame)).Perm r.labelled
  pairwise_changed : ∀ before r after, calls = before ++ .observe r :: after →
    ((run before).observe r).2.Pairwise (· < ·)
  /-- A pass reports the labels that are new, or have another frame than in the pass before. -/
  mem_changed_iff : ∀ before r after, calls = before ++ .observe r :: after →
    ∀ label, label ∈ ((run before).observe r).2 ↔ ∃ f, (label, f) ∈ r.labelled ∧
      (label ∉ (lastFrames before).map Prod.fst ∨ ∃ g, (label, g) ∈ lastFrames before ∧ g ≠ f)
  nodup_marked : ∀ before after, calls = before ++ after → (run before).marked.Nodup
  /-- At all times the marked labels are those whose entries are marked. -/
  mem_marked_iff : ∀ before after, calls = before ++ after → ∀ label,
    label ∈ (run before).marked ↔ ∃ s, (label, s) ∈ (run before).entries ∧ s.isMarked = true
  pairwise_taken : ∀ before after, calls = before ++ .takeMarked :: after →
    ((run before).takeMarked.2.map Prod.fst).Pairwise (· < ·)
  /-- Handed out are the labels of the last pass that were reported since the last time, with their
  frames in that pass. -/
  mem_taken_iff : ∀ before after, calls = before ++ .takeMarked :: after → ∀ label s,
    (label, s) ∈ (run before).takeMarked.2 ↔
      ReportedSince before label ∧ (label, s.frame) ∈ lastFrames before ∧ s.isMarked = false
  not_marked : ∀ before after, calls = before ++ .takeMarked :: after →
    (run before).takeMarked.1.marked = [] ∧
      ∀ label s, (label, s) ∈ (run before).takeMarked.1.entries → s.isMarked = false

/-- Entries known by their frames are the labels and frames that a tracker keeps. -/
theorem Keeps.perm (h : t.Keeps pass) (hpass : (pass.map Prod.fst).Nodup) :
    (t.entries.map fun (label, s) => (label, s.frame)).Perm pass := by
  refine (List.perm_ext_iff_of_nodup ?_ (List.Nodup.of_map _ hpass)).2 ?_
  · apply List.Nodup.of_map Prod.fst
    rw [List.map_map]
    exact h.nodup
  · rintro ⟨label, f⟩
    rw [← h.frame?_eq_some_iff, frame?]
    simp only [List.mem_map, Option.map_eq_some_iff, find?_eq_some_iff h.nodup]
    constructor
    · rintro ⟨⟨other, s⟩, hs, heq⟩
      cases heq
      exact ⟨s, hs, rfl⟩
    · rintro ⟨s, hs, rfl⟩
      exact ⟨_, hs, rfl⟩

/-- A label that a tracker keeps has one frame, so it has no given frame if it is not there or has
another one. -/
theorem Keeps.notMem_iff (h : t.Keeps pass) {label : String} {f : Frame Coord} :
    (label, f) ∉ pass ↔ label ∉ pass.map Prod.fst ∨ ∃ g, (label, g) ∈ pass ∧ g ≠ f := by
  constructor
  · intro hnot
    by_cases hlabel : label ∈ pass.map Prod.fst
    · obtain ⟨⟨_, g⟩, hg, rfl⟩ := List.mem_map.1 hlabel
      exact .inr ⟨g, hg, fun heq => hnot (heq ▸ hg)⟩
    · exact .inl hlabel
  · rintro (hlabel | ⟨g, hg, hne⟩) hf
    · exact hlabel (List.mem_map.2 ⟨_, hf, rfl⟩)
    · rw [← h.frame?_eq_some_iff] at hf hg
      exact hne (Option.some.inj (hg.symm.trans hf))

/-- Two passes over a form: the second moves the title, drops the hint and adds a button. -/
def samplePasses : Resolved Coord × Resolved Coord :=
  ({ elements :=
      [⟨⟨.clamp 0, .clamp 0, .clamp 40, .clamp 10⟩, "title", .visible⟩,
       ⟨⟨.clamp 0, .clamp 10, .clamp 30, .clamp 20⟩, "hint", .invisible⟩]
     order := [0, 1] },
   { elements :=
      [⟨⟨.clamp 0, .clamp 2, .clamp 40, .clamp 12⟩, "title", .visible⟩,
       ⟨⟨.clamp 20, .clamp 30, .clamp 40, .clamp 40⟩, "button", .visible⟩]
     order := [1, 0] })

/-- **Each change is handed out once.** Over every run of calls in which labels do not repeat within
a pass, and only equal passes have equal digests, a tracker accounts for all passes. -/
theorem run_accounts {calls : List Call} (h : Discernible calls) : Accounts calls := by
  have htracks (before after : List Call) (heq : calls = before ++ after) : Tracks before :=
    tracks (heq ▸ h).left
  have hobserve (before : List Call) (r : Resolved Coord) (after : List Call)
      (heq : calls = before ++ .observe r :: after) : Discernible (before ++ [.observe r]) := by
    rw [heq, List.append_cons] at h
    exact h.left
  constructor
  case entries =>
    intro before r after heq
    have hcalls := hobserve before r after heq
    have hnodup : r.labels.Nodup := hcalls.nodup r (by simp)
    have hkeeps := (tracks hcalls).keeps
    rw [run_append_singleton, lastFrames_observe] at hkeeps
    exact hkeeps.perm (by rwa [Resolved.map_fst_labelled])
  case pairwise_changed =>
    intro before r after heq
    exact pairwise_observe_snd ((hobserve before r after heq).nodup r (by simp))
  case mem_changed_iff =>
    intro before r after heq label
    have hcalls := hobserve before r after heq
    have hbefore := htracks before _ heq
    rw [hbefore.keeps.mem_observe_snd_iff (hcalls.nodup r (by simp)) (hbefore.labelled_eq hcalls)]
    simp only [hbefore.keeps.notMem_iff]
  case nodup_marked =>
    intro before after heq
    exact (htracks before after heq).keeps.nodup_marked
  case mem_marked_iff =>
    intro before after heq label
    have hkeeps := (htracks before after heq).keeps
    simp only [hkeeps.mem_marked_iff, find?_eq_some_iff hkeeps.nodup]
  case pairwise_taken =>
    intro before after heq
    have hkeeps := (htracks before _ heq).keeps
    rw [hkeeps.map_fst_taken]
    exact pairwise_sort hkeeps.nodup_marked
  case mem_taken_iff =>
    intro before after heq label s
    have hbefore := htracks before _ heq
    rw [hbefore.keeps.mem_taken_iff, hbefore.mem_marked_iff, and_assoc]
    refine and_congr_right fun _ => and_iff_right_of_imp fun hs => ?_
    exact List.mem_map.2 ⟨_, hs.1, rfl⟩
  case not_marked =>
    intro before after heq
    have hkeeps := (htracks before _ heq).keeps
    refine ⟨rfl, fun label s hs => ?_⟩
    rw [← find?_eq_some_iff hkeeps.takeMarked.nodup] at hs
    exact hkeeps.isMarked_takeMarked hs

/-- The passes over the form have different digests, so the run that observes the second one twice
is accounted for. -/
theorem run_accounts_samplePasses :
    let calls := [.observe samplePasses.1, .takeMarked, .observe samplePasses.2,
      .observe samplePasses.2, .takeMarked]
    Discernible calls ∧ Accounts calls := by
  have hne : fingerprint samplePasses.1 ≠ fingerprint samplePasses.2 := by
    have hfirst : samplePasses.1.digest = _ := Blake3.hash_of_length_le (by decide)
    have hsecond : samplePasses.2.digest = _ := Blake3.hash_of_length_le (by decide)
    rw [fingerprint, fingerprint, fingerprintInput, fingerprintInput, hfirst, hsecond,
      Blake3.hash_of_length_le (by decide +kernel), Blake3.hash_of_length_le (by decide +kernel)]
    decide +kernel
  have h : Discernible [.observe samplePasses.1, .takeMarked, .observe samplePasses.2,
      .observe samplePasses.2, .takeMarked] := by
    constructor
    case nodup =>
      intro r hr
      simp only [List.mem_cons, Call.observe.injEq, reduceCtorEq, List.not_mem_nil, or_false,
        false_or, or_self] at hr
      obtain rfl | rfl := hr <;> decide +kernel
    case labelled_eq =>
      intro r s hr hs hprint
      simp only [List.mem_cons, Call.observe.injEq, reduceCtorEq, List.not_mem_nil, or_false,
        false_or, or_self] at hr hs
      obtain rfl | rfl := hr <;> obtain rfl | rfl := hs
      · rfl
      · exact absurd hprint hne
      · exact absurd hprint.symm hne
      · rfl
  exact ⟨h, run_accounts h⟩

end AnchorLayout.Tracker
