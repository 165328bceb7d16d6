import AnchorLayout.Frame

/-!
# The vocabulary of positioning rules

A rule places one edge of an element against a sibling or against the container, or centres the
element in the container. The two families of verbs are separate types: a sibling verb never stands
without an anchor, and a parent verb never carries one. Verbs written in reading order (`startOf`,
`alignEnd`, …) name a side only once a direction is given; `toward` turns them into left or right.
-/

namespace AnchorLayout

/-- Elements are numbered from zero in the order of their declaration. -/
abbrev ElementId := Nat

/-- Horizontal reading direction of a container. -/
inductive Direction where
  | ltr | rtl
deriving DecidableEq

/-- The verbs that place an edge against a sibling. -/
inductive SiblingVerb where
  | below | above | leftOf | rightOf | startOf | endOf
  | alignTop | alignBottom | alignLeft | alignRight | alignStart | alignEnd
deriving DecidableEq

/-- The verbs that place an element against its container. -/
inductive ParentVerb where
  | alignParentLeft | alignParentTop | alignParentRight | alignParentBottom
  | alignParentStart | alignParentEnd
  | centerInParent | centerHorizontal | centerVertical
deriving DecidableEq

/-- A verb of either family. -/
inductive Verb where
  | sibling (verb : SiblingVerb)
  | parent (verb : ParentVerb)
deriving DecidableEq

/-- A positioning constraint of one element. -/
inductive Rule where
  | sibling (verb : SiblingVerb) (anchor : ElementId)
  | parent (verb : ParentVerb)
deriving DecidableEq

namespace Direction

/-- The keyword of a direction in a document. -/
def name : Direction → String
  | ltr => "ltr"
  | rtl => "rtl"

/-- The directions in the order in which they are listed to the reader. -/
def all : List Direction := [ltr, rtl]

end Direction

namespace SiblingVerb

/-- The sibling verbs in the order in which they are listed to the reader. -/
def all : List SiblingVerb :=
  [below, above, leftOf, rightOf, startOf, endOf,
   alignTop, alignBottom, alignLeft, alignRight, alignStart, alignEnd]

/-- The keyword of a verb in a document. -/
def name : SiblingVerb → String
  | below => "below"
  | above => "above"
  | leftOf => "left_of"
  | rightOf => "right_of"
  | startOf => "start_of"
  | endOf => "end_of"
  | alignTop => "align_top"
  | alignBottom => "align_bottom"
  | alignLeft => "align_left"
  | alignRight => "align_right"
  | alignStart => "align_start"
  | alignEnd => "align_end"

/-- The verb as it is spelled in messages. -/
def title : SiblingVerb → String
  | below => "Below"
  | above => "Above"
  | leftOf => "LeftOf"
  | rightOf => "RightOf"
  | startOf => "StartOf"
  | endOf => "EndOf"
  | alignTop => "AlignTop"
  | alignBottom => "AlignBottom"
  | alignLeft => "AlignLeft"
  | alignRight => "AlignRight"
  | alignStart => "AlignStart"
  | alignEnd => "AlignEnd"

/-- The number of a verb. -/
def code : SiblingVerb → Int
  | leftOf => 0
  | rightOf => 1
  | above => 2
  | below => 3
  | alignLeft => 5
  | alignTop => 6
  | alignRight => 7
  | alignBottom => 8
  | startOf => 16
  | endOf => 17
  | alignStart => 18
  | alignEnd => 19

/-- Start and end become left and right, in the order that the direction gives. -/
def toward (d : Direction) : SiblingVerb → SiblingVerb
  | startOf => match d with | .ltr => leftOf | .rtl => rightOf
  | endOf => match d with | .ltr => rightOf | .rtl => leftOf
  | alignStart => match d with | .ltr => alignLeft | .rtl => alignRight
  | alignEnd => match d with | .ltr => alignRight | .rtl => alignLeft
  | verb => verb

/-- The edge that the verb places; start and end are read left to right. -/
def edge : SiblingVerb → Edge
  | below | alignTop => .top
  | above | alignBottom => .bottom
  | rightOf | endOf | alignLeft | alignStart => .left
  | leftOf | startOf | alignRight | alignEnd => .right

/-- The edge of the anchor from which the verb measures: an alignment uses the same edge, a verb of
direction the opposite one. -/
def facing : SiblingVerb → Edge
  | below => .bottom
  | above => .top
  | leftOf | startOf => .left
  | rightOf | endOf => .right
  | alignTop => .top
  | alignBottom => .bottom
  | alignLeft | alignStart => .left
  | alignRight | alignEnd => .right

end SiblingVerb

namespace ParentVerb

/-- The parent verbs in the order in which they are listed to the reader. -/
def all : List ParentVerb :=
  [alignParentLeft, alignParentTop, alignParentRight, alignParentBottom,
   alignParentStart, alignParentEnd, centerInParent, centerHorizontal, centerVertical]

/-- The keyword of a verb in a document. -/
def name : ParentVerb → String
  | alignParentLeft => "align_parent_left"
  | alignParentTop => "align_parent_top"
  | alignParentRight => "align_parent_right"
  | alignParentBottom => "align_parent_bottom"
  | alignParentStart => "align_parent_start"
  | alignParentEnd => "align_parent_end"
  | centerInParent => "center_in_parent"
  | centerHorizontal => "center_horizontal"
  | centerVertical => "center_vertical"

/-- The verb as it is spelled in messages. -/
def title : ParentVerb → String
  | alignParentLeft => "AlignParentLeft"
  | alignParentTop => "AlignParentTop"
  | alignParentRight => "AlignParentRight"
  | alignParentBottom => "AlignParentBottom"
  | alignParentStart => "AlignParentStart"
  | alignParentEnd => "AlignParentEnd"
  | centerInParent => "CenterInParent"
  | centerHorizontal => "CenterHorizontal"
  | centerVertical => "CenterVertical"

/-- The number of a verb. -/
def code : ParentVerb → Int
  | alignParentLeft => 9
  | alignParentTop => 10
  | alignParentRight => 11
  | alignParentBottom => 12
  | centerInParent => 13
  | centerHorizontal => 14
  | centerVertical => 15
  | alignParentStart => 20
  | alignParentEnd => 21

/-- Start and end become left and right, in the order that the direction gives. -/
def toward (d : Direction) : ParentVerb → ParentVerb
  | alignParentStart => match d with | .ltr => alignParentLeft | .rtl => alignParentRight
  | alignParentEnd => match d with | .ltr => alignParentRight | .rtl => alignParentLeft
  | verb => verb

/-- The edge that the verb places, if it places one; start and end are read left to right. -/
def edge? : ParentVerb → Option Edge
  | alignParentLeft | alignParentStart => some .left
  | alignParentTop => some .top
  | alignParentRight | alignParentEnd => some .right
  | alignParentBottom => some .bottom
  | centerInParent | centerHorizontal | centerVertical => none

/-- Whether the verb centres an element along an axis. -/
def centers : ParentVerb → Axis → Bool
  | centerInParent, _ => true
  | centerHorizontal, .horizontal => true
  | centerVertical, .vertical => true
  | _, _ => false

end ParentVerb

namespace Verb

/-- The verbs of both families. -/
def all : List Verb := SiblingVerb.all.map sibling ++ ParentVerb.all.map parent

/-- The keyword of a verb in a document. -/
def name : Verb → String
  | sibling verb => verb.name
  | parent verb => verb.name

/-- The verb as it is spelled in messages. -/
def title : Verb → String
  | sibling verb => verb.title
  | parent verb => verb.title

/-- The number of a verb. -/
def code : Verb → Int
  | sibling verb => verb.code
  | parent verb => verb.code

/-- Start and end become left and right, in the order that the direction gives. -/
def toward (d : Direction) : Verb → Verb
  | sibling verb => sibling (verb.toward d)
  | parent verb => parent (verb.toward d)

/-- The verb with a keyword. -/
def ofName? (name : String) : Option Verb := all.find? (·.name = name)

/-- The number that is set aside for aligning the baselines of two texts, which no verb does. -/
def baselineCode : Int := 4

end Verb

namespace Rule

/-- The verb of a rule. -/
def verb : Rule → Verb
  | sibling verb _ => .sibling verb
  | parent verb => .parent verb

/-- The sibling on which a rule depends, if any. -/
def anchor? : Rule → Option ElementId
  | sibling _ anchor => some anchor
  | parent _ => none

end Rule
end AnchorLayout
