import AnchorLayout.Proofs.Preview.Outlines

/-!
# Previews and points

The topmost element under a point is found by searching the frames from the last; a preview is drawn
from the first, each element over those before it. At one layout unit for each cell the two agree: an
outline that is seen belongs to the element under the point or to one below it, and where no element
lies nothing is seen.
-/

namespace AnchorLayout

namespace Resolved

/-- An element with its number, if it is visible and contains a point. -/
def occupant? (x y : Coord) (e : Placed Coord) (id : ElementId) : Option ElementId :=
  if e.visibility = .visible ∧ e.frame.contains x y = true then some id else none

/-- A visible element contains a point. -/
def Occupies (r : Resolved Coord) (id : ElementId) (x y : Coord) : Prop :=
  ∃ e, r.elements[id]? = some e ∧ e.visibility = .visible ∧ e.frame.contains x y = true

variable {r : Resolved Coord} {x y : Coord} {id : ElementId}

/-- The search for an element under a point, in the form in which drawing is described. -/
theorem hit?_eq_findSome? :
    r.hit? x y = r.elements.zipIdx.reverse.findSome? fun (e, id) => occupant? x y e id := by
  rw [hit?, ← List.findSome?_guard, List.map_findSome?]
  congr 1
  funext p
  by_cases hat : p.1.visibility = .visible ∧ p.1.frame.contains x y = true
  · simp [Option.guard, occupant?, hat]
  · have hguard : ¬ (decide (p.1.visibility = .visible) && p.1.frame.contains x y) = true := by
      simpa using hat
    simp only [Function.comp_apply, Option.guard, occupant?, if_neg hat, if_neg hguard,
      Option.map_none]

theorem bind_occupant?_eq_some_iff {id' : ElementId} :
    r.elements[id]?.bind (occupant? x y · id) = some id' ↔ r.Occupies id x y ∧ id = id' := by
  simp only [occupant?, Option.bind_eq_some_iff, Option.ite_none_right_eq_some, Option.some.injEq,
    Occupies]
  constructor
  · rintro ⟨e, he, hat, hid⟩
    exact ⟨⟨e, he, hat⟩, hid⟩
  · rintro ⟨⟨e, he, hat⟩, hid⟩
    exact ⟨e, he, hat, hid⟩

theorem bind_occupant?_eq_none_iff :
    r.elements[id]?.bind (occupant? x y · id) = none ↔ ¬ r.Occupies id x y := by
  simp only [Option.eq_none_iff_forall_ne_some, ne_eq, bind_occupant?_eq_some_iff, not_and]
  exact ⟨fun h hat => h id hat rfl, fun h _ hat => absurd hat h⟩

/-- The element found under a point is the last that contains it. -/
theorem hit?_eq_some_iff :
    r.hit? x y = some id ↔ r.Occupies id x y ∧ ∀ later, id < later → ¬ r.Occupies later x y := by
  rw [hit?_eq_findSome?, Preview.findSome?_reverse_zipIdx_eq_some_iff (f := occupant? x y)]
  simp only [bind_occupant?_eq_some_iff, bind_occupant?_eq_none_iff]
  constructor
  · rintro ⟨_, ⟨hat, rfl⟩, hlast⟩
    exact ⟨hat, hlast⟩
  · rintro ⟨hat, hlast⟩
    exact ⟨id, ⟨hat, rfl⟩, hlast⟩

/-- None is found where no visible element lies. -/
theorem hit?_eq_none_iff : r.hit? x y = none ↔ ∀ id, ¬ r.Occupies id x y := by
  rw [hit?_eq_findSome?, Preview.findSome?_reverse_zipIdx_eq_none_iff (f := occupant? x y)]
  simp only [bind_occupant?_eq_none_iff]

/-- Where a visible element lies, one is found that is not below it. -/
theorem Occupies.exists_hit? (h : r.Occupies id x y) : ∃ top, r.hit? x y = some top ∧ id ≤ top := by
  cases htop : r.hit? x y with
  | none => exact absurd h (hit?_eq_none_iff.1 htop id)
  | some top => exact ⟨top, rfl, Nat.not_lt.1 fun hlt => (hit?_eq_some_iff.1 htop).2 id hlt h⟩

end Resolved

namespace Preview
variable {r : Resolved Coord} {x y : Coord} {id : ElementId}

theorem boxOf_one (f : Frame Coord) : boxOf 1 f = f.map (·.val) := by
  simp only [boxOf, Int.fdiv_one]

/-- At one unit for each cell the cells of a box are the points of the frame. -/
theorem covers_map_val_iff {f : Frame Coord} :
    Covers (f.map (·.val)) x.val y.val ↔ f.contains x y = true := by
  rw [Frame.contains_iff]
  exact ⟨fun h => ⟨h.column, h.row⟩, fun h => ⟨h.1, h.2⟩⟩

/-- An outline passes only where its element lies. -/
theorem Outlines.occupies {c : Char} (h : Outlines 1 r id x.val y.val c) : r.Occupies id x y := by
  obtain ⟨e, he, hdrawn, houtlined⟩ := h
  refine ⟨e, he, hdrawn.visible, covers_map_val_iff.1 ?_⟩
  rw [← boxOf_one]
  exact houtlined.covers

/-- A frame that contains a point has area, so a visible element is outlined where the point lies on its
border. -/
theorem Outlines.of_occupies {c : Char} {e : Placed Coord} (h : r.Occupies id x y)
    (he : r.elements[id]? = some e) (houtlined : Outlined (e.frame.map (·.val)) x.val y.val c) :
    Outlines 1 r id x.val y.val c := by
  obtain ⟨e', he', hvisible, hcontains⟩ := h
  obtain rfl := Option.some.inj (he.symm.trans he')
  rw [Frame.contains_iff] at hcontains
  have harea : e.frame.isEmpty = false :=
    Frame.isEmpty_eq_false_iff.2 ⟨by omega, by omega⟩
  exact ⟨e, he, ⟨hvisible, harea⟩, (boxOf_one e.frame).symm ▸ houtlined⟩

section
variable {c : Char} (h : CellShows 1 r x.val y.val c)
include h

/-- Where no element lies nothing is seen. -/
theorem CellShows.eq_blank_of_hit?_eq_none (hnone : r.hit? x y = none) : c = ' ' := by
  cases h with
  | outline houtlines _ => exact absurd houtlines.occupies (Resolved.hit?_eq_none_iff.1 hnone _)
  | blank => rfl

/-- On the border of the topmost element its outline is seen: no element above it reaches the point. -/
theorem CellShows.eq_of_hit? {e : Placed Coord} {d : Char} (hhit : r.hit? x y = some id)
    (he : r.elements[id]? = some e) (houtlined : Outlined (e.frame.map (·.val)) x.val y.val d) :
    c = d := by
  obtain ⟨hat, htop⟩ := Resolved.hit?_eq_some_iff.1 hhit
  have hdrawn := Outlines.of_occupies hat he houtlined
  cases h with
  | @outline drawer _ houtlines hlast =>
    rcases Nat.lt_trichotomy drawer id with hlt | rfl | hgt
    · exact absurd hdrawn (hlast id hlt d)
    · exact houtlines.unique hdrawn
    · exact absurd houtlines.occupies (htop drawer hgt)
  | blank hnone => exact absurd hdrawn (hnone id d)

/-- What is seen was drawn by the topmost element or by one below it. -/
theorem CellShows.exists_hit? (hne : c ≠ ' ') :
    ∃ id drawer, r.hit? x y = some id ∧ drawer ≤ id ∧ Outlines 1 r drawer x.val y.val c ∧
      ∀ later, drawer < later → ∀ d, ¬ Outlines 1 r later x.val y.val d := by
  cases h with
  | @outline drawer _ houtlines hlast =>
    obtain ⟨id, hhit, hle⟩ := houtlines.occupies.exists_hit?
    exact ⟨id, drawer, hhit, hle, houtlines, hlast⟩
  | blank => exact absurd rfl hne

end

/-- **The element under a point and the preview.** At a point of the grid of a preview without labels at
one unit for each cell: nothing is seen if no element is found there; if the point lies on the border of
the element found, its outline is seen; and whatever is seen was drawn by an element that is not above
the one found. -/
theorem hit?_agrees (r : Resolved Coord) (container : Size Coord) (x y : Coord)
    (hx : 0 ≤ x.val ∧ x.val < container.width.val)
    (hy : 0 ≤ y.val ∧ y.val < container.height.val) :
    ∃ ls c, lines? { scale := 1, showLabels := false } r container = some ls ∧
      (charAt? ls x.val y.val).getD ' ' = c ∧
      (r.hit? x y = none → c = ' ') ∧
      (∀ id e d, r.hit? x y = some id → r.elements[id]? = some e →
        Outlined (e.frame.map (·.val)) x.val y.val d → c = d) ∧
      (c ≠ ' ' → ∃ id drawer, r.hit? x y = some id ∧ drawer ≤ id ∧
        Outlines 1 r drawer x.val y.val c ∧
        ∀ later, drawer < later → ∀ d, ¬ Outlines 1 r later x.val y.val d) := by
  have hgrid : OnGrid 1 container x.val y.val := by
    constructor
    · rw [Int.max_self, Int.ediv_one]
      omega
    · rw [Int.max_self, Int.ediv_one]
      omega
  have hshows := cellShows_charAt? 1 r container hgrid
  exact ⟨_, _, lines?_unlabelled 1 r container, rfl, hshows.eq_blank_of_hit?_eq_none,
    fun id e d => hshows.eq_of_hit?, hshows.exists_hit?⟩

/-- Two boxes, the second over the lower right corner of the first. -/
def stacked : Layout Coord :=
  { Layout.ofSize ⟨.clamp 6, .clamp 4⟩ with
    elements :=
      [⟨none, { width := .exact (.clamp 4), height := .exact (.clamp 3), margin := .none }⟩,
       ⟨none, { width := .exact (.clamp 4), height := .exact (.clamp 3), margin := .none
                rules := [.parent .alignParentRight, .parent .alignParentBottom] }⟩] }

/-- The elements as they are placed. -/
def placedStacked : Resolved Coord where
  elements :=
    [⟨⟨.clamp 0, .clamp 0, .clamp 4, .clamp 3⟩, none, .visible⟩,
     ⟨⟨.clamp 2, .clamp 1, .clamp 6, .clamp 4⟩, none, .visible⟩]
  order := [0, 1]

/-- The second box is found at the lower right corner of the first, which is seen inside of it. -/
theorem hit?_agrees_stacked :
    stacked.resolve = .ok placedStacked ∧
      lines { showLabels := false } placedStacked stacked.size = ["+--+", "| +--+", "+-|+ |", "  +--+"] ∧
      placedStacked.hit? (.clamp 3) (.clamp 2) = some 1 ∧
      (0 ≤ (Coord.clamp 3).val ∧ (Coord.clamp 3).val < stacked.size.width.val) ∧
      (0 ≤ (Coord.clamp 2).val ∧ (Coord.clamp 2).val < stacked.size.height.val) ∧
      ∃ id drawer, placedStacked.hit? (.clamp 3) (.clamp 2) = some id ∧ drawer ≤ id ∧
        Outlines 1 placedStacked drawer (Coord.clamp 3).val (Coord.clamp 2).val '+' ∧
        ∀ later, drawer < later → ∀ d,
          ¬ Outlines 1 placedStacked later (Coord.clamp 3).val (Coord.clamp 2).val d := by
  have hlines : lines { showLabels := false } placedStacked stacked.size =
      ["+--+", "| +--+", "+-|+ |", "  +--+"] := by
    decide +kernel
  obtain ⟨ls, c, hls, hc, -, -, hseen⟩ := hit?_agrees placedStacked stacked.size (.clamp 3) (.clamp 2)
    (by decide +kernel) (by decide +kernel)
  rw [lines?_unlabelled, hlines] at hls
  obtain rfl := Option.some.inj hls
  obtain rfl : '+' = c := hc
  exact ⟨by decide +kernel, hlines, by decide +kernel, by decide +kernel, by decide +kernel,
    hseen (by decide)⟩

end Preview
end AnchorLayout
