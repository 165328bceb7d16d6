import AnchorLayout.Layout
import Mathlib.Data.List.Induction
import Mathlib.Data.List.Nodup

/-!
# Edits of an element

The rules of an element are determined by the events in its history: a rule is left if no later event
concerns its verb, and the rules that are left stand in the order in which they were added. Edits
that fail and edits of other parameters leave no trace among the events.
-/

namespace AnchorLayout

/-! ## Events -/

/-- What can happen to the rule for a verb. -/
inductive RuleEvent where
  | added (rule : Rule)
  | dropped (verb : Verb)
deriving DecidableEq

namespace RuleEvent

/-- The verb that an event concerns. -/
def verb : RuleEvent → Verb
  | added rule => rule.verb
  | dropped verb => verb

/-- The rule that an event brings. -/
def rule? : RuleEvent → Option Rule
  | added rule => some rule
  | dropped _ => none

end RuleEvent

/-! ## Rules given by numbers -/

/-- A change of the parameters of an element. -/
inductive Params.Edit (α : Type) where
  | addRule (rule : Rule)
  | addRuleCode (code anchor : Coord)
  | removeRule (verb : Verb)
  | setWidth (width : Dimension α)
  | setHeight (height : Dimension α)
  | setMargin (margin : Insets α)
  | setVisibility (visibility : Visibility)
  | setAlignWithParentIfMissing (enabled : Bool)
deriving DecidableEq

namespace Params
variable {α : Type}

/-- Edits parameters. -/
def edit (p : Params α) : Edit α → Except LayoutError (Params α)
  | .addRule rule => .ok (p.addRule rule)
  | .addRuleCode code anchor => p.addRuleCode code anchor
  | .removeRule verb => .ok (p.removeRule verb)
  | .setWidth width => .ok { p with width }
  | .setHeight height => .ok { p with height }
  | .setMargin margin => .ok { p with margin }
  | .setVisibility visibility => .ok { p with visibility }
  | .setAlignWithParentIfMissing enabled => .ok { p with alignWithParentIfMissing := enabled }

/-- An edit fails only for its numbers, whatever the parameters are. -/
def Edit.Fails : Edit α → LayoutError → Prop
  | addRuleCode code anchor, err => Rule.ofCode code anchor = .error err
  | _, _ => False

/-- The parameters after an edit, which stay as they are if it fails. -/
def edited (p : Params α) (e : Edit α) : Params α :=
  match p.edit e with
  | .ok q => q
  | .error _ => p

/-- New parameters after some edits. -/
def build [Zero α] (width height : Dimension α) (edits : List (Edit α)) : Params α :=
  edits.foldl edited { width, height, margin := Insets.none }

variable {p : Params α} {events : List RuleEvent}

end Params
end AnchorLayout
