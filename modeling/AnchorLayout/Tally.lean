import AnchorLayout.Log

/-!
# Counters of resolution passes

Counters have 64 bits and stop at their greatest value.
-/

namespace AnchorLayout

/-- What has been counted so far. -/
structure Tally where
  passes : Nat := 0
  successes : Nat := 0
  failures : Nat := 0
  elements : Nat := 0
  rules : Nat := 0
deriving DecidableEq

namespace Tally

/-- The greatest value of a counter. -/
def limit : Nat := 18446744073709551615

/-- Counts further, up to the limit. -/
def count (counter more : Nat) : Nat := min (counter + more) limit

/-- Counts a successful pass over a number of elements with a number of rules. -/
def countPass (m : Tally) (elements rules : Nat) : Tally :=
  { m with
    passes := count m.passes 1
    successes := count m.successes 1
    elements := count m.elements elements
    rules := count m.rules rules }

/-- Counts a pass that failed. -/
def countFailure (m : Tally) : Tally :=
  { m with passes := count m.passes 1, failures := count m.failures 1 }

/-- The counters by name. -/
def fields (m : Tally) : List (String × Json) :=
  [("passes", .ofInt m.passes), ("successes", .ofInt m.successes), ("failures", .ofInt m.failures),
   ("elements", .ofInt m.elements), ("rules", .ofInt m.rules)]

/-- An event that tells the counters. -/
def event (m : Tally) (time : Nat) (target : String) : Event :=
  .ofFields time .info target "resolver_metrics" m.fields

end Tally
end AnchorLayout
