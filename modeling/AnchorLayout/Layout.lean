import AnchorLayout.Rule
import AnchorLayout.Error

/-!
# Layouts and how they are built

A layout is a container with an ordered list of elements; each element carries its sizes, margin,
visibility and rules. Names are unique among the named elements, and an element holds at most one
rule for each verb: adding a rule again moves it to the end. An operation that fails returns an
error and no layout, so a failed call changes nothing.
-/

namespace AnchorLayout

/-- The extent of an element along one axis. -/
inductive Dimension (α : Type) where
  | exact (units : α)
  /-- Fills what the container leaves available. -/
  | matchParent
deriving DecidableEq

/-- Whether an element is drawn, and whether it takes part in the layout. -/
inductive Visibility where
  | visible
  /-- Laid out, but not drawn. -/
  | invisible
  /-- Not laid out; siblings anchored on it fall through to its own anchors. -/
  | gone
deriving DecidableEq

/-- Sizes, margin, visibility and rules of an element. -/
structure Params (α : Type) where
  width : Dimension α
  height : Dimension α
  margin : Insets α
  visibility : Visibility := .visible
  /-- A rule whose anchor is gone is then taken against the container. -/
  alignWithParentIfMissing : Bool := false
  rules : List Rule := []
deriving DecidableEq

/-- An element of a container. -/
structure Element (α : Type) where
  name : Option String
  params : Params α
deriving DecidableEq

/-- A container and its elements, in the order of their declaration. -/
structure Layout (α : Type) where
  size : Size α
  padding : Insets α
  direction : Direction := .ltr
  elements : List (Element α) := []
deriving DecidableEq

namespace Dimension

/-- The same extent in other units. -/
def map {α β : Type} (f : α → β) : Dimension α → Dimension β
  | exact units => .exact (f units)
  | matchParent => .matchParent

/-- Reads a number as a dimension: `-1` fills the container, other negative numbers are refused. -/
def ofUnits (n : Coord) : Except LayoutError (Dimension Coord) :=
  if n.val = -1 then .ok .matchParent
  else if 0 ≤ n.val then .ok (.exact n)
  else .error (.invalidDimension n)

end Dimension

namespace Visibility

/-- The keyword of a visibility in a document. -/
def name : Visibility → String
  | visible => "visible"
  | invisible => "invisible"
  | gone => "gone"

/-- The visibilities in the order in which they are listed to the reader. -/
def all : List Visibility := [visible, invisible, gone]

end Visibility

namespace Verb

/-- The verb with a number. -/
def ofCode (code : Coord) : Except LayoutError Verb :=
  if code.val = baselineCode then .error (.unsupportedVerb "align_baseline")
  else match all.find? (·.code = code.val) with
    | some verb => .ok verb
    | none => .error (.unknownVerb code)

end Verb

namespace Rule

/-- The rule of a verb and an optional anchor. A sibling verb needs the anchor, a parent verb
ignores it. -/
def ofVerb (verb : Verb) (anchor : Option ElementId) : Except LayoutError Rule :=
  match verb, anchor with
  | .sibling verb, some anchor => .ok (.sibling verb anchor)
  | .sibling verb, none => .error (.missingAnchor (.sibling verb))
  | .parent verb, _ => .ok (.parent verb)

/-- The rule of a verb number and an anchor number, of which a negative one stands for the
container. A parent verb with anchor zero means that the verb is unset, so there is no rule. -/
def ofCode (code anchor : Coord) : Except LayoutError (Option Rule) := do
  match ← Verb.ofCode code, decide (anchor.val = 0) with
  | .parent _, true => return none
  | verb, _ => some <$> ofVerb verb (if 0 ≤ anchor.val then some anchor.val.toNat else none)

end Rule

namespace Params
variable {α : Type}

/-- Two numbers read as the dimensions of an element without rules. -/
def ofUnits (width height : Coord) : Except LayoutError (Params Coord) := do
  return { width := ← Dimension.ofUnits width, height := ← Dimension.ofUnits height
           margin := Insets.none }

/-- The rule for a verb. -/
def rule? (p : Params α) (verb : Verb) : Option Rule := p.rules.find? (·.verb = verb)

/-- Drops the rule for a verb, if there is one. -/
def removeRule (p : Params α) (verb : Verb) : Params α :=
  { p with rules := p.rules.eraseP (·.verb = verb) }

/-- Only rules for the verb are dropped. -/
theorem mem_rules_removeRule (p : Params α) (verb : Verb) {r : Rule} (h : r.verb ≠ verb) :
    r ∈ (p.removeRule verb).rules ↔ r ∈ p.rules := by
  simp only [removeRule]
  exact List.mem_eraseP_of_neg (by simpa using h)

/-- Adds a rule at the end, in place of the rule for the same verb. -/
def addRule (p : Params α) (rule : Rule) : Params α :=
  { p with rules := (p.removeRule rule.verb).rules ++ [rule] }

/-- Adds the rule of a verb number and an anchor number, or drops it if the pair unsets the verb. -/
def addRuleCode (p : Params α) (code anchor : Coord) : Except LayoutError (Params α) := do
  match ← Rule.ofCode code anchor with
  | some rule => return p.addRule rule
  | none => return p.removeRule (← Verb.ofCode code)

/-- The same parameters in other units. -/
def map {β : Type} (f : α → β) (p : Params α) : Params β where
  width := p.width.map f
  height := p.height.map f
  margin := p.margin.map f
  visibility := p.visibility
  alignWithParentIfMissing := p.alignWithParentIfMissing
  rules := p.rules

end Params

namespace Layout
variable {α : Type}

/-- A container without elements. -/
def ofSize [Zero α] (size : Size α) : Layout α := { size, padding := Insets.none }

/-- The number of elements. -/
def length (l : Layout α) : Nat := l.elements.length

/-- The element with a number. -/
def element? (l : Layout α) (id : ElementId) : Option (Element α) := l.elements[id]?

/-- The numbers of all elements. -/
def ids (l : Layout α) : List ElementId := List.range l.length

/-- The element with a name. -/
def find? (l : Layout α) (name : String) : Option ElementId :=
  l.elements.findIdx? (·.name = some name)

/-- How messages call the element without a name. -/
def indexLabel (id : ElementId) : String := "#" ++ toString id

/-- How messages call an element: by its name, or by its number if it has none. -/
def label (l : Layout α) (id : ElementId) : String :=
  ((l.element? id).bind (·.name)).getD (indexLabel id)

/-- The number of rules of all elements together. -/
def ruleCount (l : Layout α) : Nat := (l.elements.flatMap (·.params.rules)).length

/-- Appends an element without a name; its number is the length of the layout before. -/
def add (l : Layout α) (params : Params α) : Layout α × ElementId :=
  ({ l with elements := l.elements ++ [{ name := none, params }] }, l.length)

@[simp] theorem length_add (l : Layout α) (p : Params α) : (l.add p).1.length = l.length + 1 := by
  simp [add, length]

/-- Appends an element with a name that no other element has. -/
def addNamed (l : Layout α) (name : String) (params : Params α) :
    Except LayoutError (Layout α × ElementId) :=
  match l.find? name with
  | some _ => .error (.duplicateElement name)
  | none => .ok ({ l with elements := l.elements ++ [{ name := some name, params }] }, l.length)

/-- The parameters of an element. -/
def params (l : Layout α) (id : ElementId) : Except LayoutError (Params α) :=
  match l.element? id with
  | some e => .ok e.params
  | none => .error (.unknownElement id)

/-- Replaces the parameters of an element; an unknown number leaves the layout as it is. -/
def setParams (l : Layout α) (id : ElementId) (p : Params α) : Layout α :=
  { l with elements := l.elements.modify id fun e => { e with params := p } }

/-- Only the element with the given number changes, and it keeps its name. -/
theorem element?_setParams (l : Layout α) (id other : ElementId) (p : Params α) :
    (l.setParams id p).element? other =
      if id = other then (l.element? other).map (fun e => { e with params := p })
      else l.element? other := by
  simp only [setParams, element?, List.getElem?_modify]
  by_cases h : id = other <;> simp [h]

/-- Adds a rule to an element. -/
def addRule (l : Layout α) (id : ElementId) (rule : Rule) : Except LayoutError (Layout α) := do
  return l.setParams id ((← l.params id).addRule rule)

/-- Adds a rule given by numbers to an element. -/
def addRuleCode (l : Layout α) (id : ElementId) (code anchor : Coord) :
    Except LayoutError (Layout α) := do
  return l.setParams id (← (← l.params id).addRuleCode code anchor)

/-- Drops the rule of an element for a verb, and returns it if there was one. -/
def removeRule (l : Layout α) (id : ElementId) (verb : Verb) :
    Except LayoutError (Layout α × Option Rule) := do
  let p ← l.params id
  return (l.setParams id (p.removeRule verb), p.rule? verb)

/-- The same layout in other units. -/
def map {β : Type} (f : α → β) (l : Layout α) : Layout β where
  size := l.size.map f
  padding := l.padding.map f
  direction := l.direction
  elements := l.elements.map fun e => { name := e.name, params := e.params.map f }

end Layout
end AnchorLayout
