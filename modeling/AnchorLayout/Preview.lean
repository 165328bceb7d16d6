import AnchorLayout.Resolved
import AnchorLayout.Text.Blank
import AnchorLayout.Text.Columns

/-!
# Previews in characters

A preview draws the outlines of the visible elements on a grid of character cells, later elements
over earlier ones, and writes the label of an element into its upper edge. A cell stands for a square
of layout units; a frame covers the cells from the one that its left and top edges fall into. Cells
outside the grid are not drawn. The second cell of a character of two columns holds nothing.
-/

namespace AnchorLayout

/-- How a preview is drawn. -/
structure Preview.Settings where
  /-- Layout units for each cell; less than one counts as one. -/
  scale : Int := 1
  showLabels : Bool := true
deriving DecidableEq

namespace Preview

/-- Rows of cells; a cell holds a character or is covered by the character before it. -/
abbrev Grid := List (List (Option Char))

/-- The number of whole cells in an extent. -/
def cellsIn (extent : Coord) (scale : Int) : Nat := (max extent.val 0 / scale).toNat

/-- A grid of blanks. -/
def blank (columns rows : Nat) : Grid := List.replicate rows (List.replicate columns (some ' '))

/-- The cells of a frame: each edge is rounded down. -/
def cells (f : Frame Coord) (scale : Int) : Frame Int := f.map (·.val / scale)

/-- What the outline of a box shows in a cell: a corner where two sides meet, a line on one side, and
nothing elsewhere. A box without cells shows nothing. -/
def outlineChar? (box : Frame Int) (x y : Int) : Option Char :=
  if x < box.left || box.right ≤ x || y < box.top || box.bottom ≤ y then none
  else
    match x = box.left || x = box.right - 1, y = box.top || y = box.bottom - 1 with
    | true, true => some '+'
    | false, true => some '-'
    | true, false => some '|'
    | false, false => none

/-- Draws the outline of a box. -/
def drawBox (g : Grid) (box : Frame Int) : Grid :=
  g.mapIdx fun y row => row.mapIdx fun x cell =>
    match outlineChar? box x y with
    | some c => some c
    | none => cell

/-- Sets a cell, if it lies on the grid. -/
def setCell (g : Grid) (x y : Int) (cell : Option Char) : Grid :=
  if 0 ≤ x && 0 ≤ y then g.modify y.toNat fun row => row.set x.toNat cell else g

/-- Writes characters from a cell on. A character takes as many cells as it has columns, and at least
one. -/
def writeChars (g : Grid) (x y : Int) : List Char → Grid
  | [] => g
  | c :: rest =>
    let width := Text.columnCount c.toString
    let g := setCell g x y (some c)
    let g := if width = 2 then setCell g (x + 1) y none else g
    writeChars g (x + max width 1) y rest

/-- The columns between the corners of a box. The width of the box is a coordinate, and saturates. -/
def labelRoom (box : Frame Int) : Nat := ((Coord.clamp (box.right - box.left)).val - 2).toNat

/-- Writes a label into the upper edge of a box, cut to the room between the corners. -/
def writeLabel (g : Grid) (box : Frame Int) (label : String) : Grid :=
  if labelRoom box = 0 then g
  else writeChars g (box.left + 1) box.top (Text.cutToColumns label (labelRoom box)).toList

/-- Draws an element, if it is visible and has area. -/
def drawElement (settings : Preview.Settings) (g : Grid) (e : Placed Coord) (id : ElementId) :
    Grid :=
  if e.visibility ≠ .visible || e.frame.isEmpty then g
  else
    let box := cells e.frame (max settings.scale 1)
    let g := drawBox g box
    if settings.showLabels then writeLabel g box (e.name.getD (Layout.indexLabel id)) else g

/-- The grid of a resolved layout in a container. -/
def grid (settings : Preview.Settings) (r : Resolved Coord) (container : Size Coord) : Grid :=
  let scale := max settings.scale 1
  r.elements.zipIdx.foldl (fun g (e, id) => drawElement settings g e id)
    (blank (cellsIn container.width scale) (cellsIn container.height scale))

/-- The characters of a row. -/
def rowChars (row : List (Option Char)) : List Char := row.filterMap id

/-- The lines of a preview, without blanks at their ends. -/
def lines (settings : Preview.Settings) (r : Resolved Coord) (container : Size Coord) :
    List String :=
  (grid settings r container).map fun row => String.ofList (Text.trimEnd (rowChars row))

/-- The text of a preview, one line for each row. -/
def text (settings : Preview.Settings) (r : Resolved Coord) (container : Size Coord) : String :=
  String.join ((lines settings r container).map (· ++ "\n"))

end Preview
end AnchorLayout
