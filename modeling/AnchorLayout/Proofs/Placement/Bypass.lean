import AnchorLayout.Proofs.Placement.Edges
import Mathlib.Data.List.Forall2

/-!
# Passing over gone anchors

A layout can be rewritten so that no rule is anchored on a gone element: each sibling rule is
anchored where it falls to, and a rule that falls to nothing is taken against the container or
dropped. A schedule stays one, since what a rule falls to stands before the element of the rule, and
the table of frames stays a fixpoint, so the rewritten layout resolves to the same frames.
-/

namespace AnchorLayout

/-- The parent verb that aligns an edge with the container. -/
def ParentVerb.aligning : Edge → ParentVerb
  | .left => alignParentLeft
  | .top => alignParentTop
  | .right => alignParentRight
  | .bottom => alignParentBottom

theorem ParentVerb.edge?_toward_aligning (d : Direction) (e : Edge) :
    ((aligning e).toward d).edge? = some e := by
  cases e <;> rfl

namespace Layout
variable {α : Type}

/-- The rule of an element that takes the place of another when gone anchors are passed over. -/
inductive Bypasses (l : Layout α) (p : Params α) : Rule → Option Rule → Prop
  | parent {verb : ParentVerb} : Bypasses l p (.parent verb) (some (.parent verb))
  | anchored {verb : SiblingVerb} {anchor id : ElementId}
      (hchain : l.FallsTo (verb.toward l.direction) anchor id) :
      Bypasses l p (.sibling verb anchor) (some (.sibling verb id))
  | aligned {verb : SiblingVerb} {anchor : ElementId}
      (hchain : ∀ id, ¬ l.FallsTo (verb.toward l.direction) anchor id)
      (hparent : p.alignWithParentIfMissing = true) :
      Bypasses l p (.sibling verb anchor)
        (some (.parent (.aligning (verb.toward l.direction).edge)))
  | dropped {verb : SiblingVerb} {anchor : ElementId}
      (hchain : ∀ id, ¬ l.FallsTo (verb.toward l.direction) anchor id)
      (hparent : p.alignWithParentIfMissing = false) :
      Bypasses l p (.sibling verb anchor) none

/-- An element whose rules pass over gone anchors, each rule in its place. -/
def BypassesElement (l : Layout α) (e e' : Element α) : Prop :=
  ∃ rules, List.Forall₂ (l.Bypasses e.params) e.params.rules rules ∧
    e' = { e with params := { e.params with rules := rules.reduceOption } }

/-- The rule in place of another, found by the walk along gone anchors. -/
def bypassRule (l : Layout α) (p : Params α) : Rule → Option Rule
  | .sibling verb anchor =>
    match l.laidOutAnchor? (verb.toward l.direction) anchor with
    | some id => some (.sibling verb id)
    | none =>
      if p.alignWithParentIfMissing then some (.parent (.aligning (verb.toward l.direction).edge))
      else none
  | .parent verb => some (.parent verb)

/-- The layout in which all rules pass over gone anchors. -/
def bypass (l : Layout α) : Layout α :=
  { l with
    elements := l.elements.map fun e =>
      { e with
        params := { e.params with rules := e.params.rules.filterMap (l.bypassRule e.params) } } }

variable {l : Layout α} {order : List ElementId} {p : Params α}

theorem bypasses_bypassRule (hs : l.Schedule order) (p : Params α) (rule : Rule) :
    l.Bypasses p rule (l.bypassRule p rule) := by
  cases rule with
  | parent verb => exact .parent
  | sibling verb anchor =>
    simp only [bypassRule]
    cases hid : l.laidOutAnchor? (verb.toward l.direction) anchor with
    | some id => exact .anchored ((laidOutAnchor?_eq_some_iff hs).1 hid)
    | none =>
      have hchain := (laidOutAnchor?_eq_none_iff hs).1 hid
      by_cases hparent : p.alignWithParentIfMissing = true
      · simp only [hparent, if_true]
        exact .aligned hchain hparent
      · simp only [hparent, Bool.false_eq_true, if_false]
        exact .dropped hchain (by simpa using hparent)

theorem forall₂_bypass (hs : l.Schedule order) :
    List.Forall₂ l.BypassesElement l.elements l.bypass.elements := by
  rw [bypass, List.forall₂_map_right_iff, List.forall₂_same]
  intro e _
  refine ⟨e.params.rules.map (l.bypassRule e.params), ?_, ?_⟩
  · rw [List.forall₂_map_right_iff, List.forall₂_same]
    exact fun rule _ => bypasses_bypassRule hs e.params rule
  · have hrules : (e.params.rules.map (l.bypassRule e.params)).reduceOption =
        e.params.rules.filterMap (l.bypassRule e.params) := List.filterMap_map
    rw [hrules]

@[simp] theorem length_bypass (l : Layout α) : l.bypass.length = l.length := by
  simp [bypass, length]

theorem element?_bypass (l : Layout α) (id : ElementId) :
    l.bypass.element? id = (l.element? id).map fun e =>
      { e with
        params := { e.params with rules := e.params.rules.filterMap (l.bypassRule e.params) } } :=
  List.getElem?_map

/-- What an element depends on, once gone anchors are passed over, an anchor of it falls to. -/
theorem dependsOn_bypass {id target : ElementId} (h : l.bypass.DependsOn id target) :
    ∃ verb anchor, l.DependsOn id anchor ∧ l.FallsTo verb anchor target := by
  obtain ⟨e', verb, he', hrule⟩ := dependsOn_iff.1 h
  rw [element?_bypass, Option.map_eq_some_iff] at he'
  obtain ⟨e, he, rfl⟩ := he'
  obtain ⟨rule, hmem, hbypass⟩ := List.mem_filterMap.1 hrule
  cases rule with
  | parent other => simp [bypassRule] at hbypass
  | sibling other anchor =>
    refine ⟨other.toward l.direction, anchor, dependsOn_iff.2 ⟨e, other, he, hmem⟩, ?_⟩
    simp only [bypassRule] at hbypass
    cases hid : l.laidOutAnchor? (other.toward l.direction) anchor with
    | some last =>
      simp only [hid, Option.some.injEq, Rule.sibling.injEq] at hbypass
      exact hbypass.2 ▸ fallsTo_of_laidOutWithin? hid
    | none => simp [hid] at hbypass

/-- A schedule stays a schedule. -/
theorem Schedule.bypass (hs : l.Schedule order) : l.bypass.Schedule order := by
  refine ⟨?_, ?_⟩
  · rw [ids, length_bypass]
    exact hs.perm
  · intro before id after heq target htarget
    obtain ⟨verb, anchor, hdep, hchain⟩ := dependsOn_bypass htarget
    exact hchain.mem_before (heq ▸ hs.anchorsFirst) hdep

theorem laidOutAnchor?_of_laidOut {verb : SiblingVerb} {id : ElementId} {e : Element α}
    (he : l.element? id = some e) (hvisible : e.params.visibility ≠ .gone) :
    l.laidOutAnchor? verb id = some id := by
  simp [laidOutAnchor?, laidOutWithin?, he, hvisible]

variable [Scalar α]

/-- A rule and what takes its place say the same. -/
theorem applyRule_bypass (l : Layout α) (t : FrameTable α) (p : Params α) (rules : List Rule)
    (s : Pins α) (rule : Rule) :
    (match l.bypassRule p rule with
      | some rule => l.bypass.applyRule t { p with rules } s rule
      | none => s) = l.applyRule t p s rule := by
  cases rule with
  | parent verb => rfl
  | sibling verb anchor =>
    simp only [bypassRule, applyRule]
    cases hid : l.laidOutAnchor? (verb.toward l.direction) anchor with
    | some id =>
      obtain ⟨e, he, hvisible⟩ := (fallsTo_of_laidOutWithin? hid).exists_element
      have hsame : l.bypass.laidOutAnchor? (verb.toward l.direction) id = some id := by
        apply laidOutAnchor?_of_laidOut
        · rw [element?_bypass, he]
          rfl
        · exact hvisible
      change (match l.bypass.laidOutAnchor? (verb.toward l.direction) id with
        | some id => _
        | none => _) = _
      rw [hsame]
      rfl
    | none =>
      by_cases hparent : p.alignWithParentIfMissing = true
      · simp only [hparent, if_true, ParentVerb.edge?_toward_aligning]
        rfl
      · simp [hparent]

theorem place_bypass (l : Layout α) (t : FrameTable α) (p : Params α) :
    l.bypass.place t { p with rules := p.rules.filterMap (l.bypassRule p) } = l.place t p := by
  refine place_eq_of_pins rfl rfl rfl rfl rfl ?_
  rw [pins, pins, List.foldl_filterMap]
  apply List.foldl_ext
  intro s rule _
  rw [← applyRule_bypass l t p (p.rules.filterMap (l.bypassRule p)) s rule]
  cases l.bypassRule p rule <;> rfl

/-- The table of frames stays a fixpoint. -/
theorem IsFixpoint.bypass {t : FrameTable α} (ht : l.IsFixpoint t) : l.bypass.IsFixpoint t := by
  intro id e' he'
  rw [element?_bypass, Option.map_eq_some_iff] at he'
  obtain ⟨e, he, rfl⟩ := he'
  rw [place_bypass]
  exact ht id e he

/-- **Gone anchors can be passed over.** Rewriting every rule to what it falls to gives a layout
that resolves, in which no rule is anchored on a gone element, and which reports the same for every
element. -/
theorem resolve_bypass {r : Resolved α} (h : l.resolve = .ok r) :
    (l.bypass.size = l.size ∧ l.bypass.padding = l.padding ∧ l.bypass.direction = l.direction ∧
      List.Forall₂ l.BypassesElement l.elements l.bypass.elements) ∧
    (∀ id anchor e, l.bypass.DependsOn id anchor → l.bypass.element? anchor = some e →
      e.params.visibility ≠ .gone) ∧
    ∃ r', l.bypass.resolve = .ok r' ∧ r'.elements = r.elements := by
  obtain ⟨hs, hreport⟩ := resolve_eq_ok h
  refine ⟨⟨rfl, rfl, rfl, forall₂_bypass hs⟩, ?_, ?_⟩
  · intro id anchor e' hdep he'
    obtain ⟨verb, first, -, hchain⟩ := dependsOn_bypass hdep
    obtain ⟨e, he, hvisible⟩ := hchain.exists_element
    rw [element?_bypass, he, Option.map_some, Option.some.injEq] at he'
    subst he'
    exact hvisible
  · obtain ⟨r', hr'⟩ := exists_resolve_iff.2 ⟨hs.bypass.anchored, hs.bypass.not_cyclic⟩
    obtain ⟨hs', hreport'⟩ := resolve_eq_ok hr'
    have htable := hs.isFixpoint_placeAll.bypass.eq_placeAll (by simp) hs'
    refine ⟨r', hr', ?_⟩
    rw [hreport', hreport, ← htable, Layout.bypass, List.zipWith_map_left]
    rfl

theorem resolve_bypass_sampleForm : ∃ r r', sampleForm.resolve = .ok r ∧
    sampleForm.bypass.resolve = .ok r' ∧ r'.elements = r.elements := by
  obtain ⟨r, hr⟩ := sampleForm_resolves
  obtain ⟨-, -, r', hr', h⟩ := resolve_bypass hr
  exact ⟨r, r', hr, hr', h⟩

end Layout
end AnchorLayout
