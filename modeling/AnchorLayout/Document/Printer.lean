import AnchorLayout.Document
import AnchorLayout.Json.Basic

/-!
# Documents as JSON

All members are written, apart from the anchor of a rule that has none.
-/

namespace AnchorLayout

/-- A dimension is a number of units or a keyword. -/
def Dimension.toJson : Dimension Coord → Json
  | exact n => .ofInt n.val
  | matchParent => .string "match_parent"

/-- A size as an object. -/
def Size.toJson (s : Size Coord) : Json :=
  .object [("width", .ofInt s.width.val), ("height", .ofInt s.height.val)]

/-- Insets as an object. -/
def Insets.toJson (m : Insets Coord) : Json :=
  .object [("left", .ofInt m.left.val), ("top", .ofInt m.top.val), ("right", .ofInt m.right.val),
    ("bottom", .ofInt m.bottom.val)]

/-- A frame as an object. -/
def Frame.toJson (f : Frame Coord) : Json :=
  .object [("left", .ofInt f.left.val), ("top", .ofInt f.top.val), ("right", .ofInt f.right.val),
    ("bottom", .ofInt f.bottom.val)]

/-- A rule as an object. -/
def RuleEntry.toJson (r : RuleEntry) : Json :=
  .object (("verb", .string r.verb.name) ::
    match r.anchor with
    | some name => [("anchor", .string name)]
    | none => [])

/-- An element as an object. -/
def ElementEntry.toJson (e : ElementEntry) : Json :=
  .object
    [("name", .string e.name), ("width", e.width.toJson), ("height", e.height.toJson),
     ("margin", e.margin.toJson), ("visibility", .string e.visibility.name),
     ("align_with_parent_if_missing", .boolean e.alignWithParentIfMissing),
     ("rules", .array (e.rules.map RuleEntry.toJson))]

/-- A document as an object. -/
def Document.toJson (d : Document) : Json :=
  .object
    [("width", .ofInt d.width.val), ("height", .ofInt d.height.val), ("padding", d.padding.toJson),
     ("direction", .string d.direction.name),
     ("elements", .array (d.elements.map ElementEntry.toJson))]

/-- The text of a document. -/
def Document.text (d : Document) : String := d.toJson.pretty

end AnchorLayout
