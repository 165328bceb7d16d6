import AnchorLayout.Proofs.Placement.Pins

/-!
# Rules along one axis

A rule that places an edge speaks of the axis of that edge alone, and a rule that centres both axes
says the same of each. What the rules of an element write along an axis, and where the element falls
through for a verb of that axis, follows from what they say about that axis.
-/

namespace AnchorLayout

/-- A search in what the entries of a list lead to is a search in the list. -/
theorem findSome?_filterMap {α β γ : Type} (g : α → Option β) (f : β → Option γ) (xs : List α) :
    (xs.filterMap g).findSome? f = xs.findSome? fun x => (g x).bind f := by
  rw [← List.head?_filterMap, List.filterMap_filterMap, List.head?_filterMap]

/-- A search among some entries of a list is a search in the list that passes over the others. -/
theorem findSome?_filter {α β : Type} (p : α → Bool) (f : α → Option β) (xs : List α) :
    (xs.filter p).findSome? f = xs.findSome? fun x => if p x then f x else none := by
  rw [← List.filterMap_eq_filter, findSome?_filterMap]
  congr 1
  funext x
  by_cases hx : p x <;> simp [Option.guard, hx]

@[ext] theorem AxisPins.ext {α : Type} {s s' : AxisPins α} (hstart : s.start = s'.start)
    (hfinish : s.finish = s'.finish) (hcentered : s.centered = s'.centered) : s = s' := by
  cases s; cases s'; cases hstart; cases hfinish; cases hcentered; rfl

/-- A frame is its four edges. -/
theorem Frame.ext_edge {α : Type} {f g : Frame α} (h : ∀ e, f.edge e = g.edge e) : f = g := by
  obtain ⟨left, top, right, bottom⟩ := f
  rw [Frame.mk.injEq]
  exact ⟨h .left, h .top, h .right, h .bottom⟩

namespace Axis

@[simp] theorem axis_start (a : Axis) : a.start.axis = a := by cases a <;> rfl

@[simp] theorem axis_finish (a : Axis) : a.finish.axis = a := by cases a <;> rfl

/-- An axis has two edges. -/
theorem eq_start_or_eq_finish {a : Axis} {e : Edge} (h : e.axis = a) :
    e = a.start ∨ e = a.finish := by
  subst h
  cases e <;> simp [start, finish, Edge.axis]

/-- What holds of both edges of each axis holds of all edges. -/
theorem forall_edge {P : Edge → Prop} (h : ∀ a : Axis, P a.start ∧ P a.finish) (e : Edge) :
    P e := by
  cases e
  exacts [(h .horizontal).1, (h .vertical).1, (h .horizontal).2, (h .vertical).2]

end Axis

namespace Pins
variable {α : Type} {s s' : Pins α}

/-- Along an axis pins are their two edges, and whether the axis is centred. -/
theorem along_eq {a : Axis} (hedge : ∀ e, e.axis = a → s'.edge? e = s.edge? e)
    (hcentered : (s'.along a).centered = (s.along a).centered) : s'.along a = s.along a := by
  ext1
  · rw [start_along, start_along, hedge a.start a.axis_start]
  · rw [finish_along, finish_along, hedge a.finish a.axis_finish]
  · exact hcentered

/-- Pins are what they are along both axes. -/
theorem ext_along (h : ∀ a, s'.along a = s.along a) : s' = s := by
  obtain ⟨horizontal, vertical⟩ := s
  obtain ⟨horizontal', vertical'⟩ := s'
  rw [Pins.mk.injEq]
  exact ⟨h .horizontal, h .vertical⟩

end Pins

namespace ParentVerb

/-- The verb that centres an element along one axis. -/
def centering : Axis → ParentVerb
  | .horizontal => centerHorizontal
  | .vertical => centerVertical

/-- What a verb says about an axis, if it concerns that axis. -/
def along? (verb : ParentVerb) (a : Axis) : Option ParentVerb :=
  match verb.edge? with
  | some e => if e.axis = a then some verb else none
  | none => if verb.centers a then some (centering a) else none

end ParentVerb

/-- What a rule says about an axis, if it concerns that axis. -/
def Rule.along? (a : Axis) : Rule → Option Rule
  | .sibling verb anchor => if verb.edge.axis = a then some (.sibling verb anchor) else none
  | .parent verb => (verb.along? a).map .parent

/-- Where a rule leads a verb that falls through the element of the rule. -/
def Rule.leadsTo? (d : Direction) (verb : SiblingVerb) : Rule → Option ElementId
  | .sibling other anchor => if other.toward d = verb then some anchor else none
  | .parent _ => none

/-- What the rules of an element say about an axis, in their order. -/
def Params.rulesAlong {α : Type} (p : Params α) (a : Axis) : List Rule :=
  p.rules.filterMap (Rule.along? a)

theorem SiblingVerb.axis_edge_toward (d : Direction) (verb : SiblingVerb) :
    (verb.toward d).edge.axis = verb.edge.axis := by
  cases verb <;> cases d <;> rfl

theorem SiblingVerb.axis_facing (verb : SiblingVerb) : verb.facing.axis = verb.edge.axis := by
  cases verb <;> rfl

/-- Only along the horizontal axis does the direction matter. -/
theorem SiblingVerb.toward_eq_toward {d d' : Direction} {verb : SiblingVerb}
    (h : verb.edge.axis = .horizontal → d' = d) : verb.toward d' = verb.toward d := by
  cases verb <;> first | rfl | rw [h rfl]

namespace ParentVerb
variable {d d' : Direction} {verb : ParentVerb} {e : Edge}

/-- Only along the horizontal axis does the direction matter. -/
theorem edge?_toward_eq_some_iff (h : e.axis = .horizontal → d' = d) :
    (verb.toward d').edge? = some e ↔ (verb.toward d).edge? = some e := by
  cases e with
  | left | right => rw [h rfl]
  | top | bottom => cases verb <;> cases d <;> cases d' <;> simp [toward, edge?]

theorem axis_eq_of_edge?_toward {placed : Edge} (hplaced : verb.edge? = some placed)
    (h : (verb.toward d).edge? = some e) : placed.axis = e.axis := by
  cases verb <;> cases d <;> cases hplaced <;> cases h <;> rfl

theorem edge?_toward_of_edge?_eq_none (h : verb.edge? = none) : (verb.toward d).edge? = none := by
  cases verb <;> first | rfl | cases h

theorem edge?_centering (a : Axis) : (centering a).edge? = none := by
  cases a <;> rfl

@[simp] theorem centers_centering (a : Axis) : (centering a).centers a = true := by
  cases a <;> rfl

end ParentVerb

/-- A rule centres an axis if and only if what it says about that axis does. -/
theorem Rule.centers_along? (a : Axis) (rule : Rule) :
    (rule.along? a).any (·.centers a) = rule.centers a := by
  cases rule with
  | sibling verb anchor =>
    by_cases h : verb.edge.axis = a <;> simp [along?, h, centers]
  | parent verb =>
    simp only [along?, ParentVerb.along?, centers]
    cases hedge : verb.edge? with
    | some e =>
      by_cases h : e.axis = a <;> simp [h, ParentVerb.centers_of_edge? hedge]
    | none => by_cases h : verb.centers a = true <;> simp [h]

/-- A search that only finds what rules say about an axis finds the same in those alone. -/
theorem Params.findSome?_rulesAlong {α β : Type} {a : Axis} {f : Rule → Option β}
    (hf : ∀ rule : Rule, (rule.along? a).bind f = f rule) (p : Params α) :
    (p.rulesAlong a).reverse.findSome? f = p.rules.reverse.findSome? f := by
  rw [rulesAlong, ← List.filterMap_reverse, findSome?_filterMap, funext hf]

namespace Layout
variable {α : Type}

theorem fallThrough?_eq_leadsTo? (l : Layout α) (verb : SiblingVerb) (e : Element α) :
    l.fallThrough? verb e = e.params.rules.reverse.findSome? (Rule.leadsTo? l.direction verb) :=
  rfl

/-- An element falls through by what its rules say about the axis of the verb. -/
theorem fallThrough?_eq_findSome? (l : Layout α) {verb : SiblingVerb} {a : Axis}
    (h : verb.edge.axis = a) (e : Element α) :
    l.fallThrough? verb e =
      (e.params.rulesAlong a).reverse.findSome? (Rule.leadsTo? l.direction verb) := by
  rw [fallThrough?_eq_leadsTo?, Params.findSome?_rulesAlong]
  · intro rule
    cases rule with
    | sibling other anchor =>
      by_cases haxis : other.edge.axis = a
      · simp [Rule.along?, haxis]
      · have hne : other.toward l.direction ≠ verb := by
          rintro rfl
          rw [SiblingVerb.axis_edge_toward] at h
          exact haxis h
        simp [Rule.along?, haxis, Rule.leadsTo?, hne]
    | parent other => cases hother : other.along? a <;> simp [Rule.along?, hother, Rule.leadsTo?]

variable [Scalar α] (l : Layout α) (t : FrameTable α) (p : Params α)

/-- A rule writes an edge by what it says about the axis of the edge. -/
theorem written?_along? (e : Edge) (rule : Rule) :
    (rule.along? e.axis).bind (l.written? t p e) = l.written? t p e rule := by
  cases rule with
  | sibling verb anchor =>
    by_cases haxis : verb.edge.axis = e.axis
    · simp [Rule.along?, haxis]
    · have hne : (verb.toward l.direction).edge ≠ e := by
        rintro rfl
        exact haxis (SiblingVerb.axis_edge_toward _ _).symm
      simp [Rule.along?, haxis, written?, hne]
  | parent verb =>
    simp only [Rule.along?, ParentVerb.along?]
    cases hedge : verb.edge? with
    | some placed =>
      by_cases haxis : placed.axis = e.axis
      · simp [haxis]
      · have hne : (verb.toward l.direction).edge? ≠ some e :=
          fun h => haxis (ParentVerb.axis_eq_of_edge?_toward hedge h)
        simp [haxis, written?, hne]
    | none =>
      have hnone := ParentVerb.edge?_toward_of_edge?_eq_none (d := l.direction) hedge
      have hcentering := ParentVerb.edge?_toward_of_edge?_eq_none (d := l.direction)
        (ParentVerb.edge?_centering e.axis)
      by_cases hcenters : verb.centers e.axis = true <;>
        simp [hcenters, written?, hnone, hcentering]

/-- The last rule along an axis that writes an edge decides where it is. -/
theorem edge?_pins_along (e : Edge) :
    (l.pins t p).edge? e = (p.rulesAlong e.axis).reverse.findSome? (l.written? t p e) := by
  rw [edge?_pins, Params.findSome?_rulesAlong (l.written?_along? t p e)]

/-- An axis is centred if some rule along it centres it. -/
theorem centered_pins_along (a : Axis) :
    ((l.pins t p).along a).centered = (p.rulesAlong a).any (·.centers a) := by
  rw [centered_pins, Params.rulesAlong, List.any_filterMap]
  congr 1
  funext rule
  rw [← Rule.centers_along? a rule]
  cases rule.along? a <;> rfl

end Layout
end AnchorLayout
