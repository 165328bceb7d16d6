import AnchorLayout.Layout

/-!
# Layout documents

A document describes a container and its elements, with anchors given by name. Elements are declared
before any rule is added, so a rule may be anchored on an element that comes later, or on its own
element. If a document has no layout, the error is that of the first name that is declared again, and
otherwise that of the first rule that cannot be added.
-/

namespace AnchorLayout

/-- A rule of a document. The anchor of a parent verb has no meaning. -/
structure RuleEntry where
  verb : Verb
  anchor : Option String := none
deriving DecidableEq

/-- An element of a document. -/
structure ElementEntry where
  name : String
  width : Dimension Coord
  height : Dimension Coord
  margin : Insets Coord := .none
  visibility : Visibility := .visible
  alignWithParentIfMissing : Bool := false
  rules : List RuleEntry := []
deriving DecidableEq

/-- A container and its elements. -/
structure Document where
  width : Coord
  height : Coord
  padding : Insets Coord := .none
  direction : Direction := .ltr
  elements : List ElementEntry := []
deriving DecidableEq

namespace ElementEntry

/-- The parameters of an element, without its rules. -/
def params (e : ElementEntry) : Params Coord where
  width := e.width
  height := e.height
  margin := e.margin
  visibility := e.visibility
  alignWithParentIfMissing := e.alignWithParentIfMissing

end ElementEntry

namespace Document

/-- The container, without elements. -/
def container (d : Document) : Layout Coord where
  size := ⟨d.width, d.height⟩
  padding := d.padding
  direction := d.direction

/-- Declares an element, without its rules. -/
def declare (l : Layout Coord) (e : ElementEntry) : Except LayoutError (Layout Coord) := do
  return (← l.addNamed e.name e.params).1

/-- The rule of an element, with its anchor looked up by name. -/
def resolveRule (l : Layout Coord) (element : String) (r : RuleEntry) :
    Except LayoutError Rule := do
  match r.verb, r.anchor with
  | .sibling verb, some name =>
    match l.find? name with
    | some anchor => Rule.ofVerb (.sibling verb) (some anchor)
    | none => throw (.danglingReference element name)
  | verb, _ => Rule.ofVerb verb none

/-- Adds the rules of an element, which has the given number. -/
def addRules (l : Layout Coord) (e : ElementEntry) (id : ElementId) :
    Except LayoutError (Layout Coord) :=
  e.rules.foldlM (fun l r => do l.addRule id (← resolveRule l e.name r)) l

/-- The layout that a document describes. -/
def toLayout (d : Document) : Except LayoutError (Layout Coord) := do
  let l ← d.elements.foldlM declare d.container
  d.elements.zipIdx.foldlM (fun l (e, id) => addRules l e id) l

end Document
end AnchorLayout
