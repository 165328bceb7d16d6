import AnchorLayout.Proofs.Dependency.Accesses
import AnchorLayout.Proofs.Placement.FallThrough

/-!
# Resolving with all accesses checked

Placing looks up elements and frames by their number and enters frames into the table. `resolveChecked`
is the whole resolution with every access by number, every count and every loop checked, in the order in
which a resolution makes them. It is never stopped but by the errors with which a layout is refused, and
gives what `resolve` gives: the numbers that come up while placing are those of a schedule, and a chain of
gone elements leads from anchor to anchor, which are elements of the layout.
-/

namespace AnchorLayout

open Checked

namespace Layout
variable {α : Type} {l : Layout α}

/-! ## Chains of gone elements -/

/-- Follows gone anchors, each of which is looked up, for up to a number of elements, until one is laid
out. -/
def laidOutWithinChecked (l : Layout α) (verb : SiblingVerb) :
    Nat → ElementId → Checked (Option ElementId)
  | 0, _ => .ok none
  | n + 1, id => do
    let e ← entry l.elements id
    if e.params.visibility ≠ .gone then return some id
    else match l.fallThrough? verb e with
      | none => return none
      | some next => l.laidOutWithinChecked verb n next

/-- A chain of gone elements does not leave the layout. -/
theorem Anchored.laidOutWithinChecked_eq (h : l.Anchored) (verb : SiblingVerb) (n : Nat)
    {id : ElementId} (hid : id < l.length) :
    l.laidOutWithinChecked verb n id = .ok (l.laidOutWithin? verb n id) := by
  induction n generalizing id with
  | zero => rfl
  | succ n ih =>
    obtain ⟨e, he⟩ := exists_element? hid
    simp only [laidOutWithinChecked, laidOutWithin?, entry_eq he, he, bind, Except.bind]
    split
    case isTrue => rfl
    case isFalse =>
      cases hnext : l.fallThrough? verb e with
      | none => rfl
      | some next => exact ih (h id next ((fallThrough?_eq_some_iff.1 hnext).dependsOn he))

/-! ## The checked resolution -/

variable [Scalar α]

/-- What one more rule says about the axes of an element; the frame of the anchor is looked up. -/
def applyRuleChecked (l : Layout α) (t : FrameTable α) (p : Params α) (s : Pins α) :
    Rule → Checked (Pins α)
  | .sibling verb anchor => do
    let verb := verb.toward l.direction
    match ← l.laidOutWithinChecked verb (l.length + 1) anchor with
    | some id => return s.write verb.edge (siblingEdge verb (← entry t id) p.margin)
    | none =>
      if p.alignWithParentIfMissing then
        return s.write verb.edge (l.parentEdge p.margin verb.edge)
      else return s
  | .parent verb =>
    let verb := verb.toward l.direction
    match verb.edge? with
    | some e => .ok (s.write e (l.parentEdge p.margin e))
    | none => .ok (s.center verb)

/-- The frame of an element, given the frames of its anchors. -/
def placeChecked (l : Layout α) (t : FrameTable α) (p : Params α) : Checked (Frame α) := do
  let s ← p.rules.foldlM (l.applyRuleChecked t p) {}
  let inner := l.innerFrame.inset p.margin
  let (left, right) := s.horizontal.edges p.width l.size.width inner.left inner.right
  let (top, bottom) := s.vertical.edges p.height l.size.height inner.top inner.bottom
  return ⟨left, top, right, bottom⟩

/-- Places one element in a table. -/
def placeIntoChecked (l : Layout α) (t : FrameTable α) (id : ElementId) :
    Checked (FrameTable α) := do
  let e ← entry l.elements id
  replace t id (← l.placeChecked t e.params)

/-- Places all elements, each after its anchors. -/
def resolveChecked (l : Layout α) : Checked (Resolved α) := do
  match ← (← l.graphChecked).topologicalOrderChecked with
  | .error members => throw (.refused (.cyclicConstraint (members.map l.label)))
  | .ok order =>
    let t ← order.foldlM l.placeIntoChecked (List.replicate l.length .empty)
    return { elements := List.zipWith Element.report l.elements t, order }

/-! ## Placing -/

variable {t : FrameTable α}

/-- A rule looks up the frame of an element, if it looks up any. -/
theorem Anchored.applyRuleChecked_eq (h : l.Anchored) (ht : t.length = l.length) {id : ElementId}
    {e : Element α} (he : l.element? id = some e) (s : Pins α) {rule : Rule}
    (hrule : rule ∈ e.params.rules) :
    l.applyRuleChecked t e.params s rule = .ok (l.applyRule t e.params s rule) := by
  cases rule with
  | sibling verb anchor =>
    have hanchor : anchor < l.length := h id anchor (dependsOn_iff.2 ⟨e, verb, he, hrule⟩)
    have hchain : l.laidOutWithinChecked (verb.toward l.direction) (l.length + 1) anchor =
        .ok (l.laidOutAnchor? (verb.toward l.direction) anchor) :=
      h.laidOutWithinChecked_eq _ _ hanchor
    simp only [applyRuleChecked, applyRule, hchain, bind, Except.bind]
    cases hlast : l.laidOutAnchor? (verb.toward l.direction) anchor with
    | some last =>
      obtain ⟨e, he, -⟩ := (fallsTo_of_laidOutWithin? hlast).exists_element
      have hlt : last < t.length := ht ▸ lt_length_of_element? he
      have hframe := List.getElem?_eq_getElem hlt
      simp only [entry_eq hframe, FrameTable.frame_of_getElem? hframe]
      rfl
    | none =>
      change (if _ then _ else _) = _
      split <;> rfl
  | parent verb =>
    simp only [applyRuleChecked, applyRule]
    cases (verb.toward l.direction).edge? <;> rfl

theorem Anchored.placeChecked_eq (h : l.Anchored) (ht : t.length = l.length) {id : ElementId}
    {e : Element α} (he : l.element? id = some e) :
    l.placeChecked t e.params = .ok (l.place t e.params) := by
  have hpins : e.params.rules.foldlM (l.applyRuleChecked t e.params) {} = .ok (l.pins t e.params) :=
    foldlM_eq_foldl (p := fun _ => True) trivial fun s _ rule hrule =>
      ⟨h.applyRuleChecked_eq ht he s hrule, trivial⟩
  rw [placeChecked, hpins]
  rfl

/-- Placing an element keeps an entry for each element in the table. -/
theorem Anchored.placeIntoChecked_eq (h : l.Anchored) (ht : t.length = l.length) {id : ElementId}
    (hid : id < l.length) : l.placeIntoChecked t id = .ok (l.placeInto t id) := by
  obtain ⟨e, he⟩ := exists_element? hid
  rw [placeIntoChecked, placeInto, entry_eq he, he]
  simp only [bind, Except.bind, h.placeChecked_eq ht he, replace_eq (ht ▸ hid)]

theorem Anchored.foldlM_placeIntoChecked_eq (h : l.Anchored) {order : List ElementId}
    (hlt : ∀ id ∈ order, id < l.length) :
    order.foldlM l.placeIntoChecked (List.replicate l.length .empty) = .ok (l.placeAll order) := by
  refine foldlM_eq_foldl (p := fun t => t.length = l.length) List.length_replicate ?_
  intro t ht id hid
  exact ⟨h.placeIntoChecked_eq ht (hlt id hid), (length_placeInto l t id).trans ht⟩

/-! ## Resolving -/

/-- **Resolving is never stopped.** Whatever the layout, all accesses by number are within their lists,
no counter is counted down from zero, and both loops end, the one that takes elements after at most as
many rounds as there are elements and the walk to a cycle after at most one more. The layout is resolved
or refused just as without the checks. -/
theorem resolveChecked_eq (l : Layout α) : l.resolveChecked = l.resolve.mapError .refused := by
  by_cases hanchored : l.Anchored
  case pos =>
    obtain ⟨g, hg, hcoherent, hlength, hsized⟩ := hanchored.exists_sized_graph
    have htop := Graph.topologicalOrderChecked_eq hcoherent hsized
    rw [resolveChecked, graphChecked_eq, resolve, resolutionOrder, hg]
    simp only [Except.mapError, bind, Except.bind, htop]
    cases horder : g.topologicalOrder with
    | error members => rfl
    | ok order =>
      have hlt : ∀ id ∈ order, id < l.length := by
        intro id hid
        have hperm := (Graph.perm_of_topologicalOrder hcoherent horder).1
        exact hlength ▸ List.mem_range.1 (hperm.mem_iff.1 hid)
      simp only [hanchored.foldlM_placeIntoChecked_eq hlt]
      rfl
  case neg =>
    obtain ⟨id, anchor, hfirst⟩ := exists_firstDangling hanchored
    rw [resolveChecked, graphChecked_eq, hfirst.graph_eq, resolve, hfirst.resolutionOrder_eq]
    rfl

end Layout
end AnchorLayout
