import AnchorLayout.Proofs.Resolution

/-!
# The order in which elements are resolved

A layout may have many schedules. At every step of an ordering those elements are ready that a
schedule with the same beginning could go on with, and the first declared of them is taken. So the
elements are resolved along the schedule that comes first when schedules are compared number by
number.
-/

namespace AnchorLayout

namespace Progress

@[simp] theorem order_release (s : Progress) (id : ElementId) : (s.release id).order = s.order := by
  unfold release
  split <;> rfl

@[simp] theorem order_foldl_release (ids : List ElementId) (s : Progress) :
    (ids.foldl release s).order = s.order := by
  induction ids generalizing s with
  | nil => rfl
  | cons id ids ih => simp [ih]

@[simp] theorem order_take (s : Progress) (dependents : List ElementId) (id : ElementId) :
    (s.take dependents id).order = s.order ++ [id] := by
  simp [take]

end Progress

namespace Graph
variable {g : Graph}

/-- What has been taken stays at the beginning. -/
theorem order_prefix_run (g : Graph) (s : Progress) : s.order <+: (g.run s).order := by
  fun_induction g.run s with
  | case1 => exact List.prefix_rfl
  | case2 s id _ ih =>
    rw [Progress.order_take] at ih
    exact (List.prefix_append s.order [id]).trans ih

/-- An element with which a complete order goes on is ready. -/
theorem mem_ready_of_append {s : Progress} (h : s.Consistent g []) {id : ElementId}
    {rest : List ElementId} (hperm : (s.order ++ id :: rest).Perm (List.range g.length))
    (hfirst : AnchorsFirst g.anchorsOf (s.order ++ id :: rest)) : id ∈ s.ready := by
  have hnodup : (s.order ++ id :: rest).Nodup := hperm.nodup_iff.2 List.nodup_range
  refine h.mem_ready_iff.2 ⟨?_, ?_, hfirst s.order id rest rfl⟩
  · exact List.mem_range.1 (hperm.mem_iff.1 (by simp))
  · intro hmem
    exact (List.nodup_append.1 hnodup).2.2 id hmem id (by simp) rfl

/-- Of all complete orders with the same beginning a run leads to the first. -/
theorem run_eq_or_lex (hg : g.Coherent) {s : Progress} (h : s.Consistent g [])
    {rest : List ElementId} (hperm : (s.order ++ rest).Perm (List.range g.length))
    (hfirst : AnchorsFirst g.anchorsOf (s.order ++ rest)) :
    (g.run s).order = s.order ++ rest ∨
      List.Lex (· < ·) (g.run s).order (s.order ++ rest) := by
  fun_induction g.run s generalizing rest with
  | case1 s hnone =>
    cases rest with
    | nil => simp
    | cons other rest =>
      have hother := mem_ready_of_append h hperm hfirst
      simp [List.min?_eq_none_iff.1 hnone] at hother
  | case2 s id hsome ih =>
    obtain ⟨hid, hmin⟩ := List.min?_eq_some_iff.1 hsome
    cases rest with
    | nil =>
      -- A complete order leaves no element that could be ready.
      obtain ⟨hlt, hleft, -⟩ := h.mem_ready_iff.1 hid
      rw [List.append_nil] at hperm
      exact absurd (hperm.mem_iff.2 (List.mem_range.2 hlt)) hleft
    | cons other rest =>
      have hother := mem_ready_of_append h hperm hfirst
      rcases Nat.eq_or_lt_of_le (hmin other hother) with rfl | hlt
      · have hnext : (s.take (g.dependentsOf id) id).order ++ rest = s.order ++ id :: rest := by
          simp
        rw [← hnext] at hperm hfirst ⊢
        exact ih (h.take hg hid) hperm hfirst
      · right
        obtain ⟨tail, htail⟩ := g.order_prefix_run (s.take (g.dependentsOf id) id)
        rw [← htail, Progress.order_take, List.append_assoc]
        exact List.Lex.append_left (· < ·) (.rel hlt) s.order

end Graph

namespace Layout
variable {α : Type} {l : Layout α}

/-- The elements are ordered along the first of all schedules. -/
theorem Schedule.eq_or_lex {order other : List ElementId} (h : l.resolutionOrder = .ok order)
    (hother : l.Schedule other) : order = other ∨ List.Lex (· < ·) order other := by
  obtain ⟨g, hcoherent, hlength, hanchors, heq⟩ := hother.anchored.exists_resolutionOrder_eq
  rw [heq] at h
  cases htop : g.topologicalOrder with
  | error members => simp [htop, Except.mapError] at h
  | ok order' =>
    obtain rfl : order' = order := by simpa [htop, Except.mapError] using h
    obtain ⟨rfl, -⟩ := Graph.topologicalOrder_eq_ok_iff.1 htop
    have hperm := hother.perm
    have hfirst := hother.anchorsFirst
    rw [ids, ← hlength] at hperm
    rw [← hanchors] at hfirst
    exact Graph.run_eq_or_lex hcoherent g.consistent_start hperm hfirst

/-- Two layouts are ordered alike if the order of each is a schedule of the other. -/
theorem Schedule.order_unique {β : Type} {l' : Layout β} {order order' : List ElementId}
    (h : l.resolutionOrder = .ok order) (h' : l'.resolutionOrder = .ok order')
    (hs : l.Schedule order') (hs' : l'.Schedule order) : order' = order := by
  rcases hs.eq_or_lex h with heq | hlex
  · exact heq.symm
  · rcases hs'.eq_or_lex h' with heq' | hlex'
    · exact heq'
    · exact absurd hlex' (List.lt_asymm hlex)

/-- A panel whose first element is anchored twice on the last, and whose third is anchored on the
second. -/
def samplePanel : Layout Coord where
  size := ⟨.clamp 40, .clamp 30⟩
  padding := .none
  elements :=
    [{ name := "caption"
       params :=
        { width := .exact (.clamp 8), height := .exact (.clamp 2), margin := .none
          rules := [.sibling .above 3, .sibling .alignLeft 3] } },
     { name := "icon"
       params := { width := .exact (.clamp 4), height := .exact (.clamp 4), margin := .none } },
     { name := "badge"
       params :=
        { width := .exact (.clamp 2), height := .exact (.clamp 2), margin := .none
          rules := [.sibling .rightOf 1] } },
     { name := none
       params :=
        { width := .matchParent, height := .exact (.clamp 6), margin := .none
          rules := [.parent .alignParentBottom] } }]

variable [Scalar α]

/-- **Layouts are resolved along their least schedule.** The order in which the elements are
resolved is a schedule, and any other schedule has the greater number at the first place where the
two differ. -/
theorem resolve_order_least {r : Resolved α} (h : l.resolve = .ok r) :
    l.Schedule r.order ∧
    ∀ order, l.Schedule order → r.order = order ∨ List.Lex (· < ·) r.order order := by
  refine ⟨(resolve_eq_ok h).1, ?_⟩
  intro order horder
  exact horder.eq_or_lex (resolutionOrder_eq_ok_iff.2 ⟨r, h, rfl⟩)

/-- The panel is resolved along `1, 2, 3, 0`. -/
theorem resolve_order_least_samplePanel : ∃ r, samplePanel.resolve = .ok r ∧
    r.order = [1, 2, 3, 0] ∧ samplePanel.Schedule [1, 2, 3, 0] ∧
    ∀ order, samplePanel.Schedule order →
      [1, 2, 3, 0] = order ∨ List.Lex (· < ·) [1, 2, 3, 0] order := by
  have horder : samplePanel.resolutionOrder = .ok [1, 2, 3, 0] := by decide +kernel
  obtain ⟨r, hr, heq⟩ := resolutionOrder_eq_ok_iff.1 horder
  have hleast := resolve_order_least hr
  rw [heq] at hleast
  exact ⟨r, hr, heq, hleast⟩

end Layout
end AnchorLayout
