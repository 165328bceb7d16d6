import AnchorLayout.Layout

/-!
# Placing one element

The rules of an element are read in their order; each writes one edge or centres an axis, and a later
rule overwrites what an earlier one wrote to the same edge. What an axis lacks then is derived from
the size of the element:

* both edges written: the element spans them, and never has a negative extent;
* one edge written: the other lies one size away, and a size that matches the parent reaches to the
  inner edge of the container less the margin;
* none written, but centred: the position is half of what the container has to spare;
* none written: the element stands at the inner start edge of the container.

Anchors are looked up in a table of frames, which has to hold their final frames.
-/

namespace AnchorLayout

/-- What the rules say about one axis. -/
structure AxisPins (α : Type) where
  start : Option α := none
  finish : Option α := none
  centered : Bool := false
deriving DecidableEq

/-- What the rules say about both axes. -/
structure Pins (α : Type) where
  horizontal : AxisPins α := {}
  vertical : AxisPins α := {}
deriving DecidableEq

namespace Pins
variable {α : Type}

/-- Writes the position of an edge. -/
def write (s : Pins α) (e : Edge) (position : α) : Pins α :=
  match e with
  | .left => { s with horizontal := { s.horizontal with start := some position } }
  | .right => { s with horizontal := { s.horizontal with finish := some position } }
  | .top => { s with vertical := { s.vertical with start := some position } }
  | .bottom => { s with vertical := { s.vertical with finish := some position } }

/-- Centres the axes that a verb centres. -/
def center (s : Pins α) (verb : ParentVerb) : Pins α where
  horizontal := { s.horizontal with centered := s.horizontal.centered || verb.centers .horizontal }
  vertical := { s.vertical with centered := s.vertical.centered || verb.centers .vertical }

end Pins

/-- The edges of an element along one axis, from what its rules say, its size, the extent of the
container, and the inner edges of the container less the margin. -/
def AxisPins.edges {α : Type} [Scalar α] (s : AxisPins α) (size : Dimension α)
    (extent innerStart innerFinish : α) : α × α :=
  let centered (length : α) :=
    let start := Scalar.half (extent - length)
    (start, start + length)
  match s.start, s.finish, s.centered, size with
  | some start, some finish, _, _ => (start, max finish start)
  | some start, none, _, .exact length => (start, start + length)
  | some start, none, _, .matchParent => (start, max innerFinish start)
  | none, some finish, _, .exact length => (finish - length, finish)
  | none, some finish, _, .matchParent => (min innerStart finish, finish)
  | none, none, true, .exact length => centered length
  | none, none, true, .matchParent => centered (max (innerFinish - innerStart) 0)
  | none, none, false, .exact length => (innerStart, innerStart + length)
  | none, none, false, .matchParent => (innerStart, max innerFinish innerStart)

/-- Frames by element number. -/
abbrev FrameTable (α : Type) := List (Frame α)

namespace FrameTable
variable {α : Type} [Zero α]

/-- The frame of an element; an element without an entry has the empty frame. -/
def frame (t : FrameTable α) (id : ElementId) : Frame α := t[id]?.getD .empty

theorem frame_of_getElem? {t : FrameTable α} {id : ElementId} {f : Frame α} (h : t[id]? = some f) :
    t.frame id = f := by
  rw [frame, h, Option.getD_some]

/-- Changing all frames changes the frame of an element, also of one without an entry if the empty
frame stays. -/
theorem frame_map {β : Type} [Zero β] (g : Frame α → Frame β) (t : FrameTable α) (id : ElementId)
    (h : id < t.length ∨ g .empty = .empty) : FrameTable.frame (t.map g) id = g (t.frame id) := by
  rw [frame, frame, List.getElem?_map]
  cases hid : t[id]? with
  | some f => rfl
  | none => exact (h.resolve_left (by simpa using hid)).symm

end FrameTable

namespace Layout
variable {α : Type}

/-- The container within its padding. -/
def innerFrame [Scalar α] (l : Layout α) : Frame α :=
  Frame.inset ⟨0, 0, l.size.width, l.size.height⟩ l.padding

/-- Where an edge goes that is aligned to the container, for an element with a margin. -/
def parentEdge [Scalar α] (l : Layout α) (margin : Insets α) (e : Edge) : α :=
  (l.innerFrame.inset margin).edge e

/-- The anchor on which a gone element falls through: that of its last rule whose verb comes to the
same. -/
def fallThrough? (l : Layout α) (verb : SiblingVerb) (e : Element α) : Option ElementId :=
  e.params.rules.reverse.findSome? fun
    | .sibling other anchor => if other.toward l.direction = verb then some anchor else none
    | .parent _ => none

/-- Follows gone anchors, for up to `n` elements, until one is laid out. -/
def laidOutWithin? (l : Layout α) (verb : SiblingVerb) : Nat → ElementId → Option ElementId
  | 0, _ => none
  | n + 1, id =>
    match l.element? id with
    | none => none
    | some e =>
      if e.params.visibility ≠ .gone then some id
      else match l.fallThrough? verb e with
        | none => none
        | some next => l.laidOutWithin? verb n next

/-- The element against which a sibling verb is taken: the anchor itself, or, if it is gone, the
first laid-out element on which it falls through. Without cycles no element is met twice, so the
number of elements bounds the walk. -/
def laidOutAnchor? (l : Layout α) (verb : SiblingVerb) (anchor : ElementId) : Option ElementId :=
  l.laidOutWithin? verb (l.length + 1) anchor

/-- Where a sibling verb puts its edge: at the facing edge of the anchor, kept off by the margin. -/
def siblingEdge [Add α] [Sub α] (verb : SiblingVerb) (anchor : Frame α) (margin : Insets α) : α :=
  verb.edge.inward (anchor.edge verb.facing) (margin.on verb.edge)

/-- What one more rule says about the axes of an element. A rule whose anchor is gone, with all that
it falls through to, says nothing, or else is taken against the container. -/
def applyRule [Scalar α] (l : Layout α) (t : FrameTable α) (p : Params α) (s : Pins α) :
    Rule → Pins α
  | .sibling verb anchor =>
    let verb := verb.toward l.direction
    match l.laidOutAnchor? verb anchor with
    | some id => s.write verb.edge (siblingEdge verb (t.frame id) p.margin)
    | none =>
      if p.alignWithParentIfMissing then s.write verb.edge (l.parentEdge p.margin verb.edge) else s
  | .parent verb =>
    let verb := verb.toward l.direction
    match verb.edge? with
    | some e => s.write e (l.parentEdge p.margin e)
    | none => s.center verb

/-- What all rules say about the axes of an element. -/
def pins [Scalar α] (l : Layout α) (t : FrameTable α) (p : Params α) : Pins α :=
  p.rules.foldl (l.applyRule t p) {}

/-- The frame of an element, given the frames of its anchors. -/
def place [Scalar α] (l : Layout α) (t : FrameTable α) (p : Params α) : Frame α :=
  let s := l.pins t p
  let inner := l.innerFrame.inset p.margin
  let (left, right) := s.horizontal.edges p.width l.size.width inner.left inner.right
  let (top, bottom) := s.vertical.edges p.height l.size.height inner.top inner.bottom
  ⟨left, top, right, bottom⟩

/-- Places one element in a table. -/
def placeInto [Scalar α] (l : Layout α) (t : FrameTable α) (id : ElementId) : FrameTable α :=
  match l.element? id with
  | some e => t.set id (l.place t e.params)
  | none => t

/-- Places elements one after the other, in a table that starts with empty frames. -/
def placeAll [Scalar α] (l : Layout α) (order : List ElementId) : FrameTable α :=
  order.foldl l.placeInto (List.replicate l.length .empty)

@[simp] theorem length_placeInto [Scalar α] (l : Layout α) (t : FrameTable α) (id : ElementId) :
    (l.placeInto t id).length = t.length := by
  unfold placeInto
  split <;> simp

@[simp] theorem length_placeAll [Scalar α] (l : Layout α) (order : List ElementId) :
    (l.placeAll order).length = l.length := by
  have hfold (t : FrameTable α) : (order.foldl l.placeInto t).length = t.length := by
    induction order generalizing t with
    | nil => rfl
    | cons id order ih => rw [List.foldl_cons, ih, length_placeInto]
  rw [placeAll, hfold, List.length_replicate]

/-- Placing an element enters its frame. -/
theorem getElem?_placeInto [Scalar α] {l : Layout α} {t : FrameTable α} {id : ElementId}
    {e : Element α} (he : l.element? id = some e) (hid : id < t.length) :
    (l.placeInto t id)[id]? = some (l.place t e.params) := by
  simp [placeInto, he, hid]

/-- Placing an element leaves the other frames as they are. -/
theorem getElem?_placeInto_of_ne [Scalar α] (l : Layout α) (t : FrameTable α)
    {id other : ElementId} (h : id ≠ other) : (l.placeInto t id)[other]? = t[other]? := by
  unfold placeInto
  split
  · exact List.getElem?_set_ne h
  · rfl

end Layout
end AnchorLayout
