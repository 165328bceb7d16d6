import AnchorLayout.Coord

/-!
# Sizes, insets and frames

A frame is kept as its four edges, so that a rule can write one edge at a time; its right and bottom
edges are exclusive. An edge lies on one axis and is either the start or the end of it, and moving
an edge *inward* adds at the start and subtracts at the end.
-/

namespace AnchorLayout

/-- Width and height of a container or element. -/
structure Size (α : Type) where
  width : α
  height : α
deriving DecidableEq

/-- The same size in other units. -/
def Size.map {α β : Type} (f : α → β) (s : Size α) : Size β := ⟨f s.width, f s.height⟩

/-- Spacing on each side: the margin of an element or the padding of a container. -/
structure Insets (α : Type) where
  left : α
  top : α
  right : α
  bottom : α
deriving DecidableEq

/-- A rectangle in the coordinates of its container. -/
structure Frame (α : Type) where
  left : α
  top : α
  right : α
  bottom : α
deriving DecidableEq

/-- One of the four sides of a rectangle. -/
inductive Edge where
  | left | top | right | bottom
deriving DecidableEq

/-- The direction along which an edge can move. -/
inductive Axis where
  | horizontal | vertical
deriving DecidableEq

namespace Edge

/-- The axis along which an edge moves. -/
def axis : Edge → Axis
  | left | right => .horizontal
  | top | bottom => .vertical

/-- The edge at the other end of the same axis. -/
def opposite : Edge → Edge
  | left => right
  | top => bottom
  | right => left
  | bottom => top

@[simp] theorem opposite_opposite (e : Edge) : e.opposite.opposite = e := by cases e <;> rfl

@[simp] theorem axis_opposite (e : Edge) : e.opposite.axis = e.axis := by cases e <;> rfl

/-- Moves the position of an edge toward the middle of its rectangle. -/
def inward {α : Type} [Add α] [Sub α] : Edge → α → α → α
  | left, position, distance | top, position, distance => position + distance
  | right, position, distance | bottom, position, distance => position - distance

end Edge

namespace Insets
variable {α : Type}

/-- The same spacing on all sides. -/
def uniform (n : α) : Insets α := ⟨n, n, n, n⟩

/-- No spacing. -/
def none [Zero α] : Insets α := uniform 0

/-- The same spacing in other units. -/
def map {β : Type} (f : α → β) (m : Insets α) : Insets β :=
  ⟨f m.left, f m.top, f m.right, f m.bottom⟩

/-- The spacing on one side. -/
def on (m : Insets α) : Edge → α
  | .left => m.left
  | .top => m.top
  | .right => m.right
  | .bottom => m.bottom

end Insets

namespace Frame
variable {α : Type}

/-- The frame without area at the origin. -/
def empty [Zero α] : Frame α := ⟨0, 0, 0, 0⟩

/-- The same frame in other units. -/
def map {β : Type} (f : α → β) (r : Frame α) : Frame β :=
  ⟨f r.left, f r.top, f r.right, f r.bottom⟩

/-- The position of one edge. -/
def edge (f : Frame α) : Edge → α
  | .left => f.left
  | .top => f.top
  | .right => f.right
  | .bottom => f.bottom

/-- The frame of a size at a given corner. -/
def ofOrigin [Add α] (x y : α) (size : Size α) : Frame α :=
  ⟨x, y, x + size.width, y + size.height⟩

/-- The distance from the left to the right edge. -/
def width [Sub α] (f : Frame α) : α := f.right - f.left

/-- The distance from the top to the bottom edge. -/
def height [Sub α] (f : Frame α) : α := f.bottom - f.top

/-- A frame has area only if both its extents are positive. -/
def isEmpty (f : Frame Coord) : Bool := f.width ≤ 0 || f.height ≤ 0

/-- The extents saturate, but their signs tell the order of the edges. -/
theorem isEmpty_eq_false_iff {f : Frame Coord} :
    f.isEmpty = false ↔ f.left.val < f.right.val ∧ f.top.val < f.bottom.val := by
  simp only [isEmpty, width, height, Bool.or_eq_false_iff, decide_eq_false_iff_not, Coord.le_iff,
    Coord.val_sub, Coord.val_zero]
  omega

/-- Whether a point lies in the frame; the right and bottom edges do not belong to it. -/
def contains (f : Frame Coord) (x y : Coord) : Bool :=
  f.left ≤ x && x < f.right && f.top ≤ y && y < f.bottom

theorem contains_iff {f : Frame Coord} {x y : Coord} :
    f.contains x y = true ↔ (f.left.val ≤ x.val ∧ x.val < f.right.val) ∧
      f.top.val ≤ y.val ∧ y.val < f.bottom.val := by
  simp only [contains, Bool.and_eq_true, decide_eq_true_eq, Coord.le_iff, Coord.lt_iff, and_assoc]

/-- The frame inside another, spaced from each of its sides. -/
def inset [Add α] [Sub α] (f : Frame α) (spacing : Insets α) : Frame α where
  left := Edge.left.inward f.left spacing.left
  top := Edge.top.inward f.top spacing.top
  right := Edge.right.inward f.right spacing.right
  bottom := Edge.bottom.inward f.bottom spacing.bottom

theorem edge_inset [Add α] [Sub α] (f : Frame α) (spacing : Insets α) (e : Edge) :
    (f.inset spacing).edge e = e.inward (f.edge e) (spacing.on e) := by
  cases e <;> rfl

end Frame
end AnchorLayout
