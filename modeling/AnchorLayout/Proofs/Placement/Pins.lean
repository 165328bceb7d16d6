import AnchorLayout.Layout.Placement
import Mathlib.Data.List.Basic

/-!
# What the rules of an element say

Each rule writes at most one edge, or centres axes. Of the rules that write an edge the last one
decides, and an axis is centred if some rule centres it; so what the rules say together is read off
edge by edge and axis by axis, and so is the frame at which the element is placed.
-/

namespace AnchorLayout

namespace Axis

/-- The edge at which an axis starts. -/
def start : Axis → Edge
  | horizontal => .left
  | vertical => .top

/-- The edge at which an axis ends. -/
def finish : Axis → Edge
  | horizontal => .right
  | vertical => .bottom

end Axis

/-- The extent of a size along an axis. -/
def Size.along {α : Type} (s : Size α) : Axis → α
  | .horizontal => s.width
  | .vertical => s.height

/-- The size of an element along an axis. -/
def Params.along {α : Type} (p : Params α) : Axis → Dimension α
  | .horizontal => p.width
  | .vertical => p.height

/-- Whether a rule centres an element along an axis. -/
def Rule.centers : Rule → Axis → Bool
  | .parent verb, a => verb.centers a
  | .sibling _ _, _ => false

namespace Pins
variable {α : Type}

/-- What has been written along an axis. -/
def along (s : Pins α) : Axis → AxisPins α
  | .horizontal => s.horizontal
  | .vertical => s.vertical

/-- What has been written to an edge. -/
def edge? (s : Pins α) : Edge → Option α
  | .left => s.horizontal.start
  | .top => s.vertical.start
  | .right => s.horizontal.finish
  | .bottom => s.vertical.finish

@[simp] theorem edge?_empty (e : Edge) : ({} : Pins α).edge? e = none := by cases e <;> rfl

@[simp] theorem edge?_write (s : Pins α) (e other : Edge) (position : α) :
    (s.write e position).edge? other = if e = other then some position else s.edge? other := by
  cases e <;> cases other <;> rfl

@[simp] theorem edge?_center (s : Pins α) (verb : ParentVerb) (e : Edge) :
    (s.center verb).edge? e = s.edge? e := by
  cases e <;> rfl

@[simp] theorem centered_write (s : Pins α) (e : Edge) (position : α) (a : Axis) :
    ((s.write e position).along a).centered = (s.along a).centered := by
  cases e <;> cases a <;> rfl

@[simp] theorem centered_center (s : Pins α) (verb : ParentVerb) (a : Axis) :
    ((s.center verb).along a).centered = ((s.along a).centered || verb.centers a) := by
  cases a <;> rfl

theorem start_along (s : Pins α) (a : Axis) : (s.along a).start = s.edge? a.start := by
  cases a <;> rfl

theorem finish_along (s : Pins α) (a : Axis) : (s.along a).finish = s.edge? a.finish := by
  cases a <;> rfl

end Pins

theorem ParentVerb.centers_toward (d : Direction) (verb : ParentVerb) (a : Axis) :
    (verb.toward d).centers a = verb.centers a := by
  cases verb <;> cases d <;> cases a <;> rfl

/-- A verb that places an edge centres nothing. -/
theorem ParentVerb.centers_of_edge? {verb : ParentVerb} {e : Edge} (h : verb.edge? = some e)
    (a : Axis) : verb.centers a = false := by
  cases verb <;> cases a <;> first | rfl | cases h

namespace Layout
variable {α : Type} [Scalar α]

/-- Where a rule puts an edge, if it writes that edge at all. -/
def written? (l : Layout α) (t : FrameTable α) (p : Params α) (e : Edge) : Rule → Option α
  | .sibling verb anchor =>
    let verb := verb.toward l.direction
    if verb.edge = e then
      match l.laidOutAnchor? verb anchor with
      | some id => some (siblingEdge verb (t.frame id) p.margin)
      | none => if p.alignWithParentIfMissing then some (l.parentEdge p.margin e) else none
    else none
  | .parent verb =>
    if (verb.toward l.direction).edge? = some e then some (l.parentEdge p.margin e) else none

variable (l : Layout α) (t : FrameTable α) (p : Params α)

theorem edge?_applyRule (s : Pins α) (rule : Rule) (e : Edge) :
    (l.applyRule t p s rule).edge? e = (l.written? t p e rule).or (s.edge? e) := by
  cases rule with
  | sibling verb anchor =>
    simp only [applyRule, written?]
    generalize verb.toward l.direction = v
    cases l.laidOutAnchor? v anchor with
    | some id => by_cases h : v.edge = e <;> simp [h]
    | none =>
      by_cases hparent : p.alignWithParentIfMissing <;> by_cases h : v.edge = e <;>
        simp [hparent, h]
  | parent verb =>
    simp only [applyRule, written?]
    cases (verb.toward l.direction).edge? with
    | some other => by_cases h : other = e <;> simp [h]
    | none => simp

theorem centered_applyRule (s : Pins α) (rule : Rule) (a : Axis) :
    ((l.applyRule t p s rule).along a).centered =
      ((s.along a).centered || rule.centers a) := by
  cases rule with
  | sibling verb anchor =>
    simp only [applyRule, Rule.centers, Bool.or_false]
    split
    · simp
    · split <;> simp
  | parent verb =>
    simp only [applyRule, Rule.centers]
    split
    · rename_i e he
      rw [Pins.centered_write, ← ParentVerb.centers_toward l.direction,
        ParentVerb.centers_of_edge? he, Bool.or_false]
    · rw [Pins.centered_center, ParentVerb.centers_toward]

/-- The last rule that writes an edge decides where it is. -/
theorem edge?_pins (e : Edge) :
    (l.pins t p).edge? e = p.rules.reverse.findSome? (l.written? t p e) := by
  have hfold (rules : List Rule) (s : Pins α) : (rules.foldl (l.applyRule t p) s).edge? e =
      (rules.reverse.findSome? (l.written? t p e)).or (s.edge? e) := by
    induction rules generalizing s with
    | nil => simp
    | cons rule rules ih =>
      rw [List.foldl_cons, ih, edge?_applyRule, List.reverse_cons, List.findSome?_append,
        Option.or_assoc]
      simp
  rw [pins, hfold, Pins.edge?_empty, Option.or_none]

/-- An axis is centred if some rule centres it. -/
theorem centered_pins (a : Axis) :
    ((l.pins t p).along a).centered = p.rules.any (·.centers a) := by
  have hfold (rules : List Rule) (s : Pins α) :
      ((rules.foldl (l.applyRule t p) s).along a).centered =
        ((s.along a).centered || rules.any (·.centers a)) := by
    induction rules generalizing s with
    | nil => simp
    | cons rule rules ih =>
      rw [List.foldl_cons, ih, centered_applyRule, List.any_cons, Bool.or_assoc]
  rw [pins, hfold]
  cases a <;> rfl

/-- Along each axis the frame of an element is derived from what its rules say about that axis. -/
theorem edge_place (a : Axis) :
    ((l.place t p).edge a.start, (l.place t p).edge a.finish) =
      ((l.pins t p).along a).edges (p.along a) (l.size.along a) (l.parentEdge p.margin a.start)
        (l.parentEdge p.margin a.finish) := by
  cases a <;> rfl

variable {l t p}

/-- The container, the sizes and the margin of an element, and what its rules say, decide where it
is placed. -/
theorem place_eq_of_pins {l' : Layout α} {t' : FrameTable α} {p' : Params α}
    (hsize : l'.size = l.size) (hpadding : l'.padding = l.padding) (hwidth : p'.width = p.width)
    (hheight : p'.height = p.height) (hmargin : p'.margin = p.margin)
    (hpins : l'.pins t' p' = l.pins t p) : l'.place t' p' = l.place t p := by
  simp only [place, innerFrame, hsize, hpadding, hwidth, hheight, hmargin, hpins]

/-- An element is placed the same if the anchors against which its rules are taken have the same
frames. -/
theorem place_congr {t' : FrameTable α}
    (h : ∀ verb anchor, .sibling verb anchor ∈ p.rules →
      ∀ id, l.laidOutAnchor? (verb.toward l.direction) anchor = some id →
        t'.frame id = t.frame id) :
    l.place t' p = l.place t p := by
  refine place_eq_of_pins rfl rfl rfl rfl rfl (List.foldl_ext _ _ _ ?_)
  intro s rule hrule
  cases rule with
  | sibling verb anchor =>
    simp only [applyRule]
    cases hid : l.laidOutAnchor? (verb.toward l.direction) anchor with
    | some id => simp only [h verb anchor hrule id hid]
    | none => rfl
  | parent verb => rfl

end Layout
end AnchorLayout
