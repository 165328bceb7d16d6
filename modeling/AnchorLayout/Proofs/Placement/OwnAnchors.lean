import AnchorLayout.Proofs.Placement.Axes
import AnchorLayout.Proofs.Placement.FallThrough
import AnchorLayout.Proofs.Resolution

/-!
# Through a gone element to its own anchor

Several rules of an element may come to the same verb, as `startOf` and `leftOf` do from left to
right. The element itself passes over those whose anchors are missing, and the last of the others
decides. A verb that falls through the element, once it is gone, only tries the last rule of all. So
it never ends elsewhere than the element itself would, but it ends nowhere if the anchor of the last
rule is missing, even if the element itself has another.
-/

namespace AnchorLayout

/-- A search whose first candidate gives a result ends there. -/
theorem head?_bind_eq_some_iff {α β : Type} {f : α → Option β} {xs : List α} {b : β} :
    xs.head?.bind f = some b ↔ xs.findSome? f = some b ∧ (xs.head?.bind f).isSome := by
  cases xs with
  | nil => simp
  | cons x xs =>
    rw [List.head?_cons, Option.bind_some, List.findSome?_cons]
    cases f x <;> simp

/-- Whether the verb of a rule comes to a given one. -/
def Rule.comesTo (d : Direction) (verb : SiblingVerb) (rule : Rule) : Bool :=
  (rule.leadsTo? d verb).isSome

namespace Layout
variable {α : Type} {l : Layout α} {verb : SiblingVerb} {e : Element α} {id : ElementId}

/-- The anchors of the rules that come to a verb, that of the last rule first. -/
def anchorsFor (l : Layout α) (verb : SiblingVerb) (e : Element α) : List ElementId :=
  e.params.rules.reverse.filterMap (Rule.leadsTo? l.direction verb)

/-- The element against which an element itself is placed by its rules that come to a verb: the last
of them that is not missing its anchor decides. -/
def ownAnchor? (l : Layout α) (verb : SiblingVerb) (e : Element α) : Option ElementId :=
  (l.anchorsFor verb e).findSome? (l.laidOutAnchor? verb)

theorem head?_anchorsFor (l : Layout α) (verb : SiblingVerb) (e : Element α) :
    (l.anchorsFor verb e).head? = l.fallThrough? verb e := by
  rw [anchorsFor, List.head?_filterMap, fallThrough?_eq_leadsTo?]

/-- A verb that meets a gone element goes on to the anchor of its last rule for the verb. -/
theorem laidOutAnchor?_of_gone {order : List ElementId} (hs : l.Schedule order)
    (he : l.element? id = some e) (hgone : e.params.visibility = .gone) :
    l.laidOutAnchor? verb id = (l.anchorsFor verb e).head?.bind (l.laidOutAnchor? verb) := by
  rw [head?_anchorsFor]
  ext last
  simp only [Option.bind_eq_some_iff, laidOutAnchor?_eq_some_iff hs, fallThrough?_eq_some_iff]
  constructor
  · intro h
    cases h with
    | laidOut he' hvisible =>
      obtain rfl := Option.some.inj (he.symm.trans he')
      exact absurd hgone hvisible
    | through he' _ hnext htail =>
      obtain rfl := Option.some.inj (he.symm.trans he')
      exact ⟨_, hnext, htail⟩
  · intro h
    obtain ⟨next, hnext, htail⟩ := h
    exact .through he hgone hnext htail

/-- An element that has no rules but those that come to a verb, and that is not aligned with the
container for missing anchors, is pinned to its own anchor for the verb. -/
theorem edge?_pins_eq_ownAnchor? [Scalar α] (l : Layout α) (t : FrameTable α) (verb : SiblingVerb)
    (e : Element α) :
    (l.pins t { e.params with
        rules := e.params.rules.filter (Rule.comesTo l.direction verb)
        alignWithParentIfMissing := false }).edge? verb.edge =
      (l.ownAnchor? verb e).map fun id => siblingEdge verb (t.frame id) e.params.margin := by
  rw [edge?_pins, ownAnchor?, anchorsFor, ← List.filter_reverse, findSome?_filter,
    findSome?_filterMap, List.map_findSome?]
  congr 1
  funext rule
  cases rule with
  | parent _ => rfl
  | sibling other anchor =>
    by_cases hother : other.toward l.direction = verb
    · cases hlast : l.laidOutAnchor? verb anchor <;>
        simp [Rule.comesTo, Rule.leadsTo?, written?, hother, hlast]
    · simp [Rule.comesTo, Rule.leadsTo?, hother]

/-- If no two rules of a gone element come to a verb, the verb falls through to the anchor against
which the element itself would be placed. -/
theorem laidOutAnchor?_eq_ownAnchor? {order : List ElementId} (hs : l.Schedule order)
    (he : l.element? id = some e) (hgone : e.params.visibility = .gone)
    (hone : (l.anchorsFor verb e).length ≤ 1) :
    l.laidOutAnchor? verb id = l.ownAnchor? verb e := by
  rw [laidOutAnchor?_of_gone hs he hgone, ownAnchor?]
  match l.anchorsFor verb e, hone with
  | [], _ => rfl
  | [anchor], _ => cases h : l.laidOutAnchor? verb anchor <;> simp [h]

/-- **A gone element is fallen through by its last rule alone.** Of the rules of an element that
come to a verb, the last whose anchor is not missing places the element, if the container does not
stand in for missing anchors. If the element is gone, a sibling that is anchored on it by the verb
is taken against the same anchor exactly if the last of all these rules is not missing its anchor;
else the rule of the sibling is missing its anchor. So the two agree if no two rules come to the
verb. -/
theorem laidOutAnchor?_gone_iff [Scalar α] (hanchored : l.Anchored) (hcyclic : ¬ l.Cyclic)
    (he : l.element? id = some e) (hgone : e.params.visibility = .gone) (verb : SiblingVerb) :
    (∀ t : FrameTable α,
      (l.pins t { e.params with
          rules := e.params.rules.filter (Rule.comesTo l.direction verb)
          alignWithParentIfMissing := false }).edge? verb.edge =
        (l.ownAnchor? verb e).map fun id => siblingEdge verb (t.frame id) e.params.margin) ∧
    (∀ last, l.laidOutAnchor? verb id = some last ↔ l.ownAnchor? verb e = some last ∧
      ∃ anchor other, l.LastAnchor verb e anchor ∧ l.FallsTo verb anchor other) ∧
    ((l.anchorsFor verb e).length ≤ 1 → l.laidOutAnchor? verb id = l.ownAnchor? verb e) := by
  obtain ⟨r, hr⟩ := exists_resolve_iff.2 ⟨hanchored, hcyclic⟩
  have hs := (resolve_eq_ok hr).1
  refine ⟨fun t => l.edge?_pins_eq_ownAnchor? t verb e, ?_,
    laidOutAnchor?_eq_ownAnchor? hs he hgone⟩
  intro last
  -- The last rule has an anchor that is laid out exactly if the walk through the element ends.
  have hend : ((l.anchorsFor verb e).head?.bind (l.laidOutAnchor? verb)).isSome ↔
      ∃ anchor other, l.LastAnchor verb e anchor ∧ l.FallsTo verb anchor other := by
    rw [head?_anchorsFor, Option.isSome_iff_exists, exists_comm]
    simp only [Option.bind_eq_some_iff, laidOutAnchor?_eq_some_iff hs, fallThrough?_eq_some_iff]
  rw [laidOutAnchor?_of_gone hs he hgone, head?_bind_eq_some_iff, hend, ownAnchor?]

/-- A gone element with two rules that both come to the left of their anchors, from left to
right. -/
def sampleLate : Element Coord where
  name := "late"
  params :=
    { width := .exact (.clamp 1), height := .exact (.clamp 1), margin := .none
      visibility := .gone
      rules := [.sibling .startOf 0, .sibling .leftOf 1] }

/-- The same rules in the other order. -/
def sampleEarly : Element Coord where
  name := "early"
  params := { sampleLate.params with rules := [.sibling .leftOf 1, .sibling .startOf 0] }

/-- A panel, a gone hint without rules, two gone elements that have a rule for each of them, and two
elements that start before these. -/
def sampleAliases : Layout Coord where
  size := ⟨.clamp 100, .clamp 20⟩
  padding := .none
  elements :=
    [{ name := "panel"
       params :=
        { width := .exact (.clamp 10), height := .exact (.clamp 5), margin := .none
          rules := [.parent .alignParentRight] } },
     { name := "hint"
       params :=
        { width := .exact (.clamp 1), height := .exact (.clamp 1), margin := .none
          visibility := .gone } },
     sampleLate,
     sampleEarly,
     { name := "beforeLate"
       params :=
        { width := .exact (.clamp 7), height := .exact (.clamp 5), margin := .none
          rules := [.sibling .startOf 2] } },
     { name := "beforeEarly"
       params :=
        { width := .exact (.clamp 7), height := .exact (.clamp 5), margin := .none
          rules := [.sibling .startOf 3] } }]

theorem sampleAliases_resolves : sampleAliases.Anchored ∧ ¬ sampleAliases.Cyclic :=
  exists_resolve_iff.1 (exists_eq_ok_of_isOk (by decide +kernel))

/-- The last rule of the fourth element is anchored on the panel, and what starts before the element
starts before the panel. -/
theorem laidOutAnchor?_gone_iff_sampleAliases :
    sampleAliases.element? 3 = some sampleEarly ∧
    sampleAliases.ownAnchor? .leftOf sampleEarly = some 0 ∧
    sampleAliases.laidOutAnchor? .leftOf 3 = some 0 := by
  obtain ⟨hanchored, hcyclic⟩ := sampleAliases_resolves
  have he : sampleAliases.element? 3 = some sampleEarly := rfl
  obtain ⟨-, hiff, -⟩ := laidOutAnchor?_gone_iff hanchored hcyclic he rfl .leftOf
  have hown : sampleAliases.ownAnchor? .leftOf sampleEarly = some 0 := by decide +kernel
  have hlast : sampleAliases.LastAnchor .leftOf sampleEarly 0 :=
    ⟨[.sibling .leftOf 1], .startOf, [], rfl, rfl, by simp⟩
  have hpanel : sampleAliases.FallsTo .leftOf 0 0 := .laidOut rfl (by decide)
  exact ⟨he, hown, (hiff 0).2 ⟨hown, 0, 0, hlast, hpanel⟩⟩

/-- The first rule of the third element is anchored on the panel and the last is missing its anchor.
Without the flag and its other rules the element itself would stand before the panel, but a sibling
that starts before the element does not. -/
theorem ownAnchor?_not_followed_sampleAliases :
    (sampleAliases.Anchored ∧ ¬ sampleAliases.Cyclic) ∧
    sampleAliases.element? 2 = some sampleLate ∧ sampleLate.params.visibility = .gone ∧
    sampleAliases.ownAnchor? .leftOf sampleLate = some 0 ∧
    sampleAliases.laidOutAnchor? .leftOf 2 = none ∧
    (sampleAliases.resolve.toOption.map fun r => (r.frame? 4, r.frame? 5)) =
      some (some ⟨.clamp 0, .clamp 0, .clamp 7, .clamp 5⟩,
        some ⟨.clamp 83, .clamp 0, .clamp 90, .clamp 5⟩) := by
  refine ⟨sampleAliases_resolves, rfl, rfl, ?_⟩
  decide +kernel

end Layout
end AnchorLayout
