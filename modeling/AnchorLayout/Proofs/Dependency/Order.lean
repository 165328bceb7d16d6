import AnchorLayout.Proofs.Dependency.Schedule
import Mathlib.Data.List.Count

/-!
# Taking elements in order

While elements are taken, the counters say how many rules of each element have an anchor that is not
taken, and exactly the elements whose counter is zero are ready. One release keeps this up to the
releases that are still owed, hence so does taking an element, and when no element is ready every
element that is left has an anchor that is left.
-/

namespace AnchorLayout

/-- Both sides of a graph tell the same, and all anchors are elements. -/
structure Graph.Coherent (g : Graph) : Prop where
  anchorsOf_lt : ∀ id, ∀ anchor ∈ g.anchorsOf id, anchor < g.length
  count_dependentsOf : ∀ id anchor,
    (g.dependentsOf anchor).count id = (g.anchorsOf id).count anchor

/-- Taking an element settles those that wait for it, and no others. -/
theorem countP_notMem_append_singleton {order : List ElementId} {id : ElementId}
    (h : id ∉ order) (anchors : List ElementId) :
    anchors.countP (· ∉ order) = anchors.countP (· ∉ order ++ [id]) + anchors.count id := by
  induction anchors with
  | nil => rfl
  | cons anchor anchors ih =>
    rw [List.countP_cons, List.countP_cons, List.count_cons, ih]
    by_cases heq : anchor = id
    · subst heq
      simp [h]
      omega
    · by_cases hmem : anchor ∈ order
      · simp [heq, hmem]
      · simp [heq, hmem]
        omega

namespace Progress
variable {g : Graph} {s : Progress} {id : ElementId} {owed : List ElementId}

/-- The state of an ordering, when some elements are still to be released. -/
structure Consistent (g : Graph) (owed : List ElementId) (s : Progress) : Prop where
  anchorsFirst : AnchorsFirst g.anchorsOf s.order
  nodup : s.order.Nodup
  order_lt : ∀ id ∈ s.order, id < g.length
  pending : ∀ id < g.length,
    s.pending[id]? = some ((g.anchorsOf id).countP (· ∉ s.order) + owed.count id)
  mem_ready : ∀ id, id ∈ s.ready ↔ id < g.length ∧ id ∉ s.order ∧ s.pending[id]? = some 0
  ready_nodup : s.ready.Nodup
  owed_left : ∀ id ∈ owed, id < g.length ∧ id ∉ s.order

/-- A release counts down, and makes an element ready that waits for nothing else. -/
theorem release_of_pending {n : Nat} (h : s.pending[id]? = some (n + 1)) :
    s.release id =
      { s with
        pending := s.pending.set id n
        ready := if n = 0 then id :: s.ready else s.ready } := by
  cases n <;> simp [release, h]

/-- A release that is owed leaves the others owed. -/
theorem Consistent.release (h : Consistent g (id :: owed) s) :
    Consistent g owed (s.release id) := by
  obtain ⟨hid, hleft⟩ := h.owed_left id List.mem_cons_self
  have hpending := h.pending id hid
  rw [List.count_cons_self, ← Nat.add_assoc] at hpending
  set n := (g.anchorsOf id).countP (· ∉ s.order) + owed.count id with hn
  have hlt : id < s.pending.length := (List.getElem?_eq_some_iff.1 hpending).1
  have hnot : id ∉ s.ready := by simp [h.mem_ready, hpending]
  rw [release_of_pending hpending]
  constructor
  case anchorsFirst => exact h.anchorsFirst
  case nodup => exact h.nodup
  case order_lt => exact h.order_lt
  case pending =>
    intro other hother
    by_cases heq : id = other
    · subst heq
      simp [List.getElem?_set_self hlt, hn]
    · rw [List.getElem?_set_ne heq, h.pending other hother]
      simp [heq]
  case mem_ready =>
    intro other
    by_cases heq : id = other
    · subst heq
      by_cases hzero : n = 0 <;> simp [hzero, hid, hleft, hnot, hlt]
    · have hmem : other ∈ (if n = 0 then id :: s.ready else s.ready) ↔ other ∈ s.ready := by
        by_cases hzero : n = 0 <;> simp [hzero, Ne.symm heq]
      rw [hmem, h.mem_ready, List.getElem?_set_ne heq]
  case ready_nodup => by_cases hzero : n = 0 <;> simp [hzero, hnot, h.ready_nodup]
  case owed_left =>
    intro other hother
    exact h.owed_left other (List.mem_cons_of_mem _ hother)

/-- Once all dependents are released, nothing is owed. -/
theorem Consistent.foldl_release (h : Consistent g owed s) :
    Consistent g [] (owed.foldl Progress.release s) := by
  induction owed generalizing s with
  | nil => exact h
  | cons id owed ih => exact ih h.release

/-- Those elements are ready that are left and have all their anchors in the order. -/
theorem Consistent.mem_ready_iff (h : Consistent g [] s) :
    id ∈ s.ready ↔ id < g.length ∧ id ∉ s.order ∧ g.anchorsOf id ⊆ s.order := by
  rw [h.mem_ready]
  refine and_congr_right fun hid => and_congr_right fun _ => ?_
  rw [h.pending id hid]
  simp [List.countP_eq_zero, List.subset_def]

/-- When an element is taken, its dependents are to be released. -/
theorem Consistent.append (hg : g.Coherent) (h : Consistent g [] s) (hid : id ∈ s.ready) :
    Consistent g (g.dependentsOf id)
      { s with order := s.order ++ [id], ready := s.ready.erase id } := by
  obtain ⟨hlt, hleft, hanchors⟩ := h.mem_ready_iff.1 hid
  -- No dependent is taken: its anchors, this element among them, would stand in the order.
  have howed : ∀ other ∈ g.dependentsOf id, id ∈ g.anchorsOf other := by
    intro other hother
    rw [← List.count_pos_iff, ← hg.count_dependentsOf]
    exact List.count_pos_iff.2 hother
  have hnot : ∀ other ∈ g.dependentsOf id, other ∉ s.order ++ [id] := by
    intro other hother hmem
    have hid' := howed other hother
    rcases List.mem_append.1 hmem with hmem | hmem
    · exact hleft (h.anchorsFirst.subset_of_mem hmem hid')
    · obtain rfl := List.mem_singleton.1 hmem
      exact hleft (hanchors hid')
  have hlength (other : ElementId) (hother : id ∈ g.anchorsOf other) : other < g.length := by
    by_contra hge
    simp [Graph.anchorsOf, List.getElem?_eq_none (Nat.le_of_not_lt hge)] at hother
  constructor
  case anchorsFirst => exact h.anchorsFirst.concat hanchors
  case nodup =>
    rw [List.nodup_append_comm]
    exact List.nodup_cons.2 ⟨hleft, h.nodup⟩
  case order_lt => simpa [or_imp, forall_and] using ⟨h.order_lt, hlt⟩
  case pending =>
    intro other hother
    rw [h.pending other hother, hg.count_dependentsOf, List.count_nil, Nat.add_zero,
      countP_notMem_append_singleton hleft]
  case mem_ready =>
    intro other
    rw [h.ready_nodup.mem_erase_iff, h.mem_ready]
    simp only [List.mem_append, List.mem_singleton, not_or]
    tauto
  case ready_nodup => exact h.ready_nodup.erase id
  case owed_left =>
    intro other hother
    exact ⟨hlength other (howed other hother), hnot other hother⟩

/-- Taking an element that is ready leaves the counters right. -/
theorem Consistent.take (hg : g.Coherent) (h : Consistent g [] s) (hid : id ∈ s.ready) :
    Consistent g [] (s.take (g.dependentsOf id) id) :=
  (h.append hg hid).foldl_release

end Progress

namespace Graph
variable {g : Graph}

/-- At the start every rule waits for its anchor. -/
theorem consistent_start (g : Graph) : g.start.Consistent g [] := by
  have hpending : ∀ id < g.length, g.start.pending[id]? = some (g.anchorsOf id).length := by
    intro id hid
    simp [start, anchorsOf, List.getElem?_eq_getElem (show id < g.anchors.length from hid)]
  refine ⟨.nil, by simp [start], by simp [start], fun id hid => ?_, fun id => ?_, ?_, by simp⟩
  · rw [hpending id hid]
    simp [start]
  · by_cases hid : id < g.length
    · rw [hpending id hid]
      simp [start, hid]
    · simp [start, hid]
  · exact List.nodup_range.filter _

/-- A run keeps the state consistent and ends when no element is ready. -/
theorem consistent_run (hg : g.Coherent) {s : Progress} (h : s.Consistent g []) :
    (g.run s).Consistent g [] ∧ (g.run s).ready = [] := by
  fun_induction g.run s with
  | case1 s hnone => exact ⟨h, List.min?_eq_none_iff.1 hnone⟩
  | case2 s id hsome ih => exact ih (h.take hg (List.min?_mem hsome))

/-- An element that a run does not take has an anchor that it does not take. -/
theorem exists_anchor_notMem_run (hg : g.Coherent) {id : ElementId} (hid : id < g.length)
    (hleft : id ∉ (g.run g.start).order) :
    ∃ anchor ∈ g.anchorsOf id, anchor ∉ (g.run g.start).order := by
  obtain ⟨h, hready⟩ := consistent_run hg g.consistent_start
  by_contra! hall
  have hmem : id ∈ (g.run g.start).ready := h.mem_ready_iff.2 ⟨hid, hleft, hall⟩
  simp [hready] at hmem

theorem topologicalOrder_eq_ok_iff {order : List ElementId} :
    g.topologicalOrder = .ok order ↔
      (g.run g.start).order = order ∧ order.length = g.length := by
  rw [topologicalOrder]
  split
  · rename_i hlength
    simp only [Except.ok.injEq, iff_self_and]
    rintro rfl
    exact hlength
  · rename_i hlength
    simp only [reduceCtorEq, false_iff, not_and]
    rintro rfl
    exact hlength

theorem topologicalOrder_eq_error_iff {members : List ElementId} :
    g.topologicalOrder = .error members ↔
      (g.run g.start).order.length ≠ g.length ∧ g.cycle (g.run g.start).pending = members := by
  rw [topologicalOrder]
  split <;> simp [*]

/-- An order that comes out holds every element once, after its anchors. -/
theorem perm_of_topologicalOrder (hg : g.Coherent) {order : List ElementId}
    (h : g.topologicalOrder = .ok order) :
    order.Perm (List.range g.length) ∧ AnchorsFirst g.anchorsOf order := by
  obtain ⟨hrun, -⟩ := consistent_run hg g.consistent_start
  obtain ⟨rfl, hlength⟩ := topologicalOrder_eq_ok_iff.1 h
  have hsub : (g.run g.start).order ⊆ List.range g.length := by
    intro id hid
    exact List.mem_range.2 (hrun.order_lt id hid)
  refine ⟨(hrun.nodup.subperm hsub).perm_of_length_le ?_, hrun.anchorsFirst⟩
  rw [List.length_range, hlength]

end Graph
end AnchorLayout
