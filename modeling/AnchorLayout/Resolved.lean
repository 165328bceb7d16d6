import AnchorLayout.Digest.Blake3
import AnchorLayout.Json.Basic
import AnchorLayout.Layout.Dependency
import AnchorLayout.Layout.Placement

/-!
# Resolved layouts

`Layout.resolve` orders the elements, places them, and reports one frame for each; an element that is
gone reports the empty frame. A resolved layout answers for frames by number and by name, finds the
topmost visible element under a point, and has a digest of its frames.
-/

namespace AnchorLayout

/-- An element with its frame. -/
structure Placed (α : Type) where
  frame : Frame α
  name : Option String
  visibility : Visibility
deriving DecidableEq

/-- The outcome of resolving a layout. -/
structure Resolved (α : Type) where
  elements : List (Placed α)
  /-- The order in which the elements were placed. -/
  order : List ElementId
deriving DecidableEq

/-- What an element reports, given the frame at which it was placed. -/
def Element.report {α : Type} [Zero α] (e : Element α) (frame : Frame α) : Placed α where
  frame := if e.params.visibility = .gone then .empty else frame
  name := e.name
  visibility := e.params.visibility

/-- Places all elements, each after its anchors. -/
def Layout.resolve {α : Type} [Scalar α] (l : Layout α) : Except LayoutError (Resolved α) := do
  let order ← l.resolutionOrder
  return { elements := List.zipWith Element.report l.elements (l.placeAll order), order }

namespace Resolved
variable {α : Type}

/-- The number of elements. -/
def length (r : Resolved α) : Nat := r.elements.length

/-- The numbers of all elements. -/
def ids (r : Resolved α) : List ElementId := List.range r.length

/-- The frame of an element. -/
def frame? (r : Resolved α) (id : ElementId) : Option (Frame α) := r.elements[id]?.map (·.frame)

/-- The name of an element that has one. -/
def name? (r : Resolved α) (id : ElementId) : Option String := r.elements[id]?.bind (·.name)

/-- The visibility of an element. -/
def visibility? (r : Resolved α) (id : ElementId) : Option Visibility :=
  r.elements[id]?.map (·.visibility)

/-- The frame of the element with a name. -/
def frameByName? (r : Resolved α) (name : String) : Option (Frame α) :=
  (r.elements.find? (·.name = some name)).map (·.frame)

/-- How messages call an element: by its name, or by its number if it has none. -/
def label (r : Resolved α) (id : ElementId) : String :=
  (r.name? id).getD (Layout.indexLabel id)

/-- The labels of all elements in order. -/
def labels (r : Resolved α) : List String :=
  r.elements.zipIdx.map fun (e, id) => e.name.getD (Layout.indexLabel id)

/-- The frames of all elements in order. -/
def frames (r : Resolved α) : List (Frame α) := r.elements.map (·.frame)

/-- The topmost visible element that contains a point. Later elements lie above earlier ones. -/
def hit? (r : Resolved Coord) (x y : Coord) : Option ElementId :=
  (r.elements.zipIdx.reverse.find? fun (e, _) =>
    decide (e.visibility = .visible) && e.frame.contains x y).map (·.2)

end Resolved

/-- The lowest `n` bytes of a natural number, the lowest first. -/
def lowBytes : Nat → Nat → List UInt8
  | 0, _ => []
  | n + 1, value => .ofNat (value % 256) :: lowBytes n (value / 256)

@[simp] theorem length_lowBytes (n value : Nat) : (lowBytes n value).length = n := by
  induction n generalizing value with
  | zero => rfl
  | succ n ih => simp [lowBytes, ih]

/-- The four bytes of a coordinate in two's complement, the lowest first. -/
def Coord.bytes (c : Coord) : List UInt8 := lowBytes 4 (c.val % 4294967296).toNat

/-- The sixteen bytes of a frame: its left, top, right and bottom edge. -/
def Frame.bytes (f : Frame Coord) : List UInt8 :=
  f.left.bytes ++ f.top.bytes ++ f.right.bytes ++ f.bottom.bytes

@[simp] theorem Frame.length_bytes (f : Frame Coord) : f.bytes.length = 16 := by
  simp [Frame.bytes, Coord.bytes]

namespace Resolved

/-- What the digest is taken of: the number of frames in eight bytes, then the frames. -/
def digestInput (r : Resolved Coord) : List UInt8 :=
  lowBytes 8 r.length ++ r.frames.flatMap Frame.bytes

/-- The digest of the frames, in the order of the elements. -/
def digest (r : Resolved Coord) : List UInt8 := Blake3.hash r.digestInput

/-- The members that describe an element: number, name if it has one, and edges. -/
def elementJson (e : Placed Coord) (id : ElementId) : Json :=
  .object <|
    ("id", .ofInt id) ::
    (match e.name with
      | some name => [("name", .string name)]
      | none => []) ++
    [("left", .ofInt e.frame.left.val), ("top", .ofInt e.frame.top.val),
     ("right", .ofInt e.frame.right.val), ("bottom", .ofInt e.frame.bottom.val)]

/-- All elements as indented JSON. -/
def toJson (r : Resolved Coord) : String :=
  (Json.array (r.elements.zipIdx.map fun (e, id) => elementJson e id)).pretty

end Resolved

/-- Bytes as lower-case hexadecimal digits, two for each. -/
def hexText (bytes : List UInt8) : String :=
  String.ofList (bytes.flatMap fun b => [Nat.digitChar (b.toNat / 16), Nat.digitChar (b.toNat % 16)])

end AnchorLayout
