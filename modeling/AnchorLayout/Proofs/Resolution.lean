import AnchorLayout.Proofs.Dependency.Graph
import AnchorLayout.Resolved

/-!
# When a layout resolves

Resolution fails at the first anchor that is no element; if all anchors are elements, it fails
exactly if there is a cycle; and otherwise it gives a frame for every element and a schedule.
-/

namespace AnchorLayout

theorem exists_eq_ok_of_isOk {ε β : Type} {x : Except ε β} (h : x.isOk = true) :
    ∃ b, x = .ok b := by
  cases x with
  | ok b => exact ⟨b, rfl⟩
  | error e => cases h

namespace Layout
variable {α : Type} {l : Layout α}

theorem FirstDangling.not_anchored {id anchor : ElementId} (h : l.FirstDangling id anchor) :
    ¬ l.Anchored := by
  obtain ⟨before, verb, after, heq, hge, -⟩ := h
  intro hanchored
  have hmem : (id, .sibling verb anchor) ∈ l.rules := by simp [heq]
  exact absurd (anchored_iff_rules.1 hanchored _ hmem anchor rfl) (Nat.not_lt.2 hge)

/-- Without dangling anchors the order or the cycle is that of the graph. -/
theorem Anchored.exists_resolutionOrder_eq (h : l.Anchored) :
    ∃ g : Graph, g.Coherent ∧ g.length = l.length ∧ g.anchorsOf = l.anchors ∧
      l.resolutionOrder = g.topologicalOrder.mapError
        fun members => .cyclicConstraint (members.map l.label) := by
  obtain ⟨g, hg, hcoherent, hlength, hanchors⟩ := h.exists_graph
  refine ⟨g, hcoherent, hlength, hanchors, ?_⟩
  rw [resolutionOrder, hg]
  cases htop : g.topologicalOrder <;>
    simp [htop, bind, Except.bind, pure, Except.pure, throw, throwThe, MonadExceptOf.throw,
      Except.mapError]

/-- The elements are ordered by a schedule, unless there is a cycle. -/
theorem Anchored.resolutionOrder_cases (h : l.Anchored) :
    (¬ l.Cyclic ∧ ∃ order, l.resolutionOrder = .ok order ∧ l.Schedule order) ∨
      (l.Cyclic ∧ ∃ members, l.resolutionOrder = .error (.cyclicConstraint members)) := by
  obtain ⟨g, hcoherent, hlength, hanchors, heq⟩ := h.exists_resolutionOrder_eq
  rw [heq]
  cases htop : g.topologicalOrder with
  | ok order =>
    obtain ⟨hperm, hfirst⟩ := Graph.perm_of_topologicalOrder hcoherent htop
    rw [hlength] at hperm
    rw [hanchors] at hfirst
    have hs : l.Schedule order := ⟨hperm, hfirst⟩
    exact .inl ⟨hs.not_cyclic, order, rfl, hs⟩
  | error members =>
    refine .inr ⟨?_, members.map l.label, rfl⟩
    by_contra hcyclic
    obtain ⟨hrun, -⟩ := Graph.consistent_run hcoherent g.consistent_start
    have hs : l.Schedule (g.run g.start).order := by
      refine schedule_of_maximal h hcyclic hrun.nodup ?_ (hanchors ▸ hrun.anchorsFirst) ?_
      · exact fun id hid => hlength ▸ hrun.order_lt id hid
      · intro id hid hleft
        have := Graph.exists_anchor_notMem_run hcoherent (hlength ▸ hid) hleft
        rwa [hanchors] at this
    apply (Graph.topologicalOrder_eq_error_iff.1 htop).1
    rw [hs.perm.length_eq, ids, List.length_range, hlength]

/-- Ordering stops at the first dangling anchor, before it looks for cycles. -/
theorem FirstDangling.resolutionOrder_eq {id anchor : ElementId} (h : l.FirstDangling id anchor) :
    l.resolutionOrder = .error (.danglingReference (l.label id) (indexLabel anchor)) := by
  rw [resolutionOrder, h.graph_eq]
  rfl

variable [Scalar α]

/-- Resolution has three outcomes: a dangling anchor, a cycle, or frames along a schedule. -/
theorem resolve_cases (l : Layout α) :
    (∃ id anchor, l.FirstDangling id anchor ∧
      l.resolve = .error (.danglingReference (l.label id) (indexLabel anchor))) ∨
    (l.Anchored ∧ l.Cyclic ∧ ∃ members, l.resolve = .error (.cyclicConstraint members)) ∨
    ∃ r, l.resolve = .ok r ∧ l.Schedule r.order ∧
      r.elements = List.zipWith Element.report l.elements (l.placeAll r.order) := by
  by_cases hanchored : l.Anchored
  · rcases hanchored.resolutionOrder_cases with ⟨-, order, horder, hs⟩ | ⟨hcyclic, members, herror⟩
    · let r : Resolved α := ⟨List.zipWith Element.report l.elements (l.placeAll order), order⟩
      refine .inr (.inr ⟨r, ?_, hs, rfl⟩)
      rw [resolve, horder]
      rfl
    · refine .inr (.inl ⟨hanchored, hcyclic, members, ?_⟩)
      rw [resolve, herror]
      rfl
  · obtain ⟨id, anchor, hfirst⟩ := exists_firstDangling hanchored
    refine .inl ⟨id, anchor, hfirst, ?_⟩
    rw [resolve, hfirst.resolutionOrder_eq]
    rfl

/-- A layout resolves along a schedule, and reports what was placed. -/
theorem resolve_eq_ok {r : Resolved α} (h : l.resolve = .ok r) :
    l.Schedule r.order ∧
      r.elements = List.zipWith Element.report l.elements (l.placeAll r.order) := by
  rcases l.resolve_cases with ⟨id, anchor, -, he⟩ | ⟨-, -, members, he⟩ | ⟨r', hr', hr⟩
  · rw [he] at h
    cases h
  · rw [he] at h
    cases h
  · rw [hr'] at h
    cases h
    exact hr

/-- The resolved elements have the names of the elements, in the same order. -/
theorem names_of_resolve {r : Resolved α} (h : l.resolve = .ok r) :
    r.elements.map (·.name) = l.elements.map (·.name) := by
  obtain ⟨-, hreport⟩ := resolve_eq_ok h
  apply List.ext_getElem?
  intro id
  rw [hreport, List.getElem?_map, List.getElem?_map, List.getElem?_zipWith]
  cases he : l.elements[id]? with
  | none => rfl
  | some e =>
    have hid : id < (l.placeAll r.order).length := by
      rw [length_placeAll]
      exact lt_length_of_element? he
    rw [List.getElem?_eq_getElem hid]
    rfl

/-- The elements can be ordered if and only if the layout resolves, and then along that order. -/
theorem resolutionOrder_eq_ok_iff {order : List ElementId} :
    l.resolutionOrder = .ok order ↔ ∃ r, l.resolve = .ok r ∧ r.order = order := by
  rw [resolve]
  cases l.resolutionOrder with
  | error e => simp [bind, Except.bind]
  | ok order => simp [bind, Except.bind, pure, Except.pure]

/-- A layout resolves if and only if its anchors are elements and form no cycle. -/
theorem exists_resolve_iff : (∃ r, l.resolve = .ok r) ↔ l.Anchored ∧ ¬ l.Cyclic := by
  constructor
  · rintro ⟨r, hr⟩
    have hs := (resolve_eq_ok hr).1
    exact ⟨hs.anchored, hs.not_cyclic⟩
  · rintro ⟨hanchored, hcyclic⟩
    rcases l.resolve_cases with ⟨id, anchor, hfirst, -⟩ | ⟨-, hcyclic', -⟩ | ⟨r, hr, -⟩
    · exact absurd hanchored hfirst.not_anchored
    · exact absurd hcyclic' hcyclic
    · exact ⟨r, hr⟩

/-- The outcomes of resolution, each with the condition under which it arises. The first dangling
anchor is reported even if there is a cycle as well. -/
theorem resolve_outcomes (l : Layout α) :
    (∀ element text, l.resolve = .error (.danglingReference element text) ↔
      ∃ id anchor, l.FirstDangling id anchor ∧ element = l.label id ∧ text = indexLabel anchor) ∧
    ((∃ id anchor, l.FirstDangling id anchor) ↔
      ∃ x ∈ l.rules, ∃ anchor, x.2.anchor? = some anchor ∧ l.length ≤ anchor) ∧
    ((∃ members, l.resolve = .error (.cyclicConstraint members)) ↔ l.Anchored ∧ l.Cyclic) ∧
    (l.Anchored → ¬ l.Cyclic →
      ∃ r, l.resolve = .ok r ∧ r.frames.length = l.length ∧ l.Schedule r.order) := by
  refine ⟨fun element text => ⟨fun h => ?_, ?_⟩, ⟨?_, ?_⟩, ⟨?_, ?_⟩, ?_⟩
  · rcases l.resolve_cases with ⟨id, anchor, hfirst, he⟩ | ⟨-, -, members, he⟩ | ⟨r, hr, -⟩
    · rw [he] at h
      cases h
      exact ⟨id, anchor, hfirst, rfl, rfl⟩
    · rw [he] at h
      cases h
    · rw [hr] at h
      cases h
  · rintro ⟨id, anchor, hfirst, rfl, rfl⟩
    rw [resolve, hfirst.resolutionOrder_eq]
    rfl
  · rintro ⟨id, anchor, before, verb, after, heq, hge, -⟩
    exact ⟨(id, .sibling verb anchor), by simp [heq], anchor, rfl, hge⟩
  · rintro ⟨x, hx, anchor, hanchor, hge⟩
    apply exists_firstDangling
    intro hanchored
    exact absurd (anchored_iff_rules.1 hanchored x hx anchor hanchor) (Nat.not_lt.2 hge)
  · rintro ⟨members, h⟩
    rcases l.resolve_cases with ⟨id, anchor, -, he⟩ | ⟨hanchored, hcyclic, -⟩ | ⟨r, hr, -⟩
    · rw [he] at h
      cases h
    · exact ⟨hanchored, hcyclic⟩
    · rw [hr] at h
      cases h
  · rintro ⟨hanchored, hcyclic⟩
    rcases l.resolve_cases with ⟨id, anchor, hfirst, -⟩ | ⟨-, -, hmembers⟩ | ⟨r, -, hs, -⟩
    · exact absurd hanchored hfirst.not_anchored
    · exact hmembers
    · exact absurd hcyclic hs.not_cyclic
  · intro hanchored hcyclic
    obtain ⟨r, hr⟩ := exists_resolve_iff.2 ⟨hanchored, hcyclic⟩
    obtain ⟨hs, helements⟩ := resolve_eq_ok hr
    refine ⟨r, hr, ?_, hs⟩
    simp [Resolved.frames, helements, length]

end Layout
end AnchorLayout
