import AnchorLayout.Preview

/-!
# Previews drawn within the range of coordinates

Boxes and positions in a preview are coordinates. They are not clamped: where one would leave the range
the drawing breaks off, and there is no preview. Otherwise the drawing is that of `Preview.lines`, which
goes on beyond the range.
-/

namespace AnchorLayout

/-- The coordinate at a distance from another, if it is in range. -/
def Coord.shift? (a : Coord) (distance : Int) : Option Coord := ofInt? (a.val + distance)

/-- The quotient of a coordinate, rounded so that the remainder is not negative, if there is one and it
is in range. -/
def Coord.quotient? (a : Coord) (divisor : Int) : Option Coord :=
  if divisor = 0 then none else ofInt? (a.val / divisor)

namespace Preview

/-- The cells of a frame: each edge is rounded down. -/
def cells? (f : Frame Coord) (scale : Int) : Option (Frame Coord) := do
  return {
    left := ← f.left.quotient? scale
    top := ← f.top.quotient? scale
    right := ← f.right.quotient? scale
    bottom := ← f.bottom.quotient? scale }

/-- Draws the outline of a box, from its first to its last column and row. -/
def drawBox? (g : Grid) (box : Frame Coord) : Option Grid := do
  let lastColumn ← box.right.shift? (-1)
  let lastRow ← box.bottom.shift? (-1)
  return drawBox g ⟨box.left.val, box.top.val, lastColumn.val + 1, lastRow.val + 1⟩

/-- Writes characters from a cell on. The position behind the last character is computed as well. -/
def writeChars? (g : Grid) (x y : Coord) : List Char → Option Grid
  | [] => some g
  | c :: rest => do
    let width := Text.columnCount c.toString
    let g := setCell g x.val y.val (some c)
    let g ←
      if width = 2 then (x.shift? 1).map fun next => setCell g next.val y.val none else some g
    writeChars? g (← x.shift? (max width 1 : Nat)) y rest

/-- Writes a label into the upper edge of a box, cut to the room between the corners. -/
def writeLabel? (g : Grid) (box : Frame Coord) (label : String) : Option Grid := do
  let room ← box.width.shift? (-2)
  if room.val ≤ 0 then return g
  else writeChars? g (← box.left.shift? 1) box.top (Text.cutToColumns label room.val.toNat).toList

/-- Draws an element, if it is visible and has area. -/
def drawElement? (settings : Settings) (g : Grid) (e : Placed Coord) (id : ElementId) :
    Option Grid :=
  if e.visibility ≠ .visible || e.frame.isEmpty then some g
  else do
    let box ← cells? e.frame (max settings.scale 1)
    let g ← drawBox? g box
    if settings.showLabels then writeLabel? g box (e.name.getD (Layout.indexLabel id)) else return g

/-- The grid of a resolved layout in a container. -/
def grid? (settings : Settings) (r : Resolved Coord) (container : Size Coord) : Option Grid :=
  let scale := max settings.scale 1
  r.elements.zipIdx.foldlM (fun g (e, id) => drawElement? settings g e id)
    (blank (cellsIn container.width scale) (cellsIn container.height scale))

/-- The lines of a preview, without blanks at their ends. -/
def lines? (settings : Settings) (r : Resolved Coord) (container : Size Coord) :
    Option (List String) := do
  return (← grid? settings r container).map fun row => String.ofList (Text.trimEnd (rowChars row))

/-- The text of a preview, one line for each row. -/
def text? (settings : Settings) (r : Resolved Coord) (container : Size Coord) : Option String := do
  return String.join ((← lines? settings r container).map (· ++ "\n"))

end Preview
end AnchorLayout
