/-!
# Coordinates that saturate

Positions and extents are integers of 32 bits. Arithmetic on them never wraps and never fails: a
result outside the range is replaced by the nearest end of it. The rules of a layout need only the
operations collected in `Scalar`, so the same rules can also be read over the unbounded integers.
-/

namespace AnchorLayout

/-- The operations with which edges are computed along one axis. -/
class Scalar (α : Type) extends Add α, Sub α, Max α, Min α, Zero α where
  /-- Half of a value, rounded toward zero. -/
  half : α → α

/-- Plain integer arithmetic, in which nothing is ever out of range. -/
instance : Scalar Int where
  zero := 0
  half n := n.tdiv 2

/-- A position or extent in layout units: an integer of 32 bits, sign included. -/
structure Coord where
  val : Int
  lower : -2147483648 ≤ val
  upper : val ≤ 2147483647
deriving DecidableEq

namespace Coord

@[ext] theorem ext {a b : Coord} (h : a.val = b.val) : a = b := by
  cases a; cases b; cases h; rfl

/-- The coordinate nearest to an integer. -/
def clamp (n : Int) : Coord where
  val := max (-2147483648) (min n 2147483647)
  lower := by omega
  upper := by omega

/-- The coordinate equal to an integer, if there is one. -/
def ofInt? (n : Int) : Option Coord :=
  if h : -2147483648 ≤ n ∧ n ≤ 2147483647 then some ⟨n, h.1, h.2⟩ else none

instance : Zero Coord := ⟨clamp 0⟩
instance : Inhabited Coord := ⟨0⟩

/-- Addition saturates. -/
instance : Add Coord := ⟨fun a b => clamp (a.val + b.val)⟩

/-- Subtraction saturates. -/
instance : Sub Coord := ⟨fun a b => clamp (a.val - b.val)⟩

instance : LE Coord := ⟨fun a b => a.val ≤ b.val⟩
instance : LT Coord := ⟨fun a b => a.val < b.val⟩
instance (a b : Coord) : Decidable (a ≤ b) := inferInstanceAs (Decidable (a.val ≤ b.val))
instance (a b : Coord) : Decidable (a < b) := inferInstanceAs (Decidable (a.val < b.val))
instance : Max Coord := maxOfLe
instance : Min Coord := minOfLe

instance : Scalar Coord where
  half a := clamp (a.val.tdiv 2)

theorem val_clamp (n : Int) : (clamp n).val = max (-2147483648) (min n 2147483647) := rfl

theorem val_clamp_of_mem {n : Int} (h : -2147483648 ≤ n) (h' : n ≤ 2147483647) :
    (clamp n).val = n := by
  rw [val_clamp]; omega

@[simp] theorem clamp_val (a : Coord) : clamp a.val = a :=
  Coord.ext (val_clamp_of_mem a.lower a.upper)

theorem val_add (a b : Coord) : (a + b).val = max (-2147483648) (min (a.val + b.val) 2147483647) :=
  rfl

theorem val_sub (a b : Coord) : (a - b).val = max (-2147483648) (min (a.val - b.val) 2147483647) :=
  rfl

/-- Half of a coordinate is in range. -/
theorem val_half (a : Coord) : (Scalar.half a).val = a.val.tdiv 2 := by
  have hlower := a.lower
  have hupper := a.upper
  have hsign : Int.sign 2 = 1 := rfl
  apply val_clamp_of_mem <;> rw [Int.tdiv_eq_ediv] <;> split <;> omega

@[simp] theorem val_zero : (0 : Coord).val = 0 := rfl

theorem le_iff (a b : Coord) : a ≤ b ↔ a.val ≤ b.val := Iff.rfl

theorem lt_iff (a b : Coord) : a < b ↔ a.val < b.val := Iff.rfl

@[simp] theorem val_max (a b : Coord) : (max a b).val = max a.val b.val := by
  change (if a ≤ b then b else a).val = _
  simp only [le_iff]
  split <;> omega

@[simp] theorem val_min (a b : Coord) : (min a b).val = min a.val b.val := by
  change (if a ≤ b then a else b).val = _
  simp only [le_iff]
  split <;> omega

theorem ofInt?_eq_some_iff {n : Int} {a : Coord} : ofInt? n = some a ↔ a.val = n := by
  unfold ofInt?
  split
  · simp only [Option.some.injEq]
    exact ⟨fun h => h ▸ rfl, fun h => Coord.ext h.symm⟩
  · have := a.lower; have := a.upper
    simp only [reduceCtorEq, false_iff]
    omega

end Coord
end AnchorLayout
