import AnchorLayout.Proofs.Preview.Outlines

/-!
# Boxes that stay apart

Rounding the edges of frames down to cells keeps their order, so frames without a common point have
boxes without a common cell, and a frame inside the container has its box on the grid. Where all drawn
frames are so, every box that does not collapse is printed whole.
-/

namespace AnchorLayout

namespace Frame
variable {f g : Frame Coord}

/-- Two frames have no point in common. -/
def Apart (f g : Frame Coord) : Prop :=
  ∀ x y, ¬ (f.contains x y = true ∧ g.contains x y = true)

/-- A frame lies inside a container. -/
structure FitsIn (f : Frame Coord) (container : Size Coord) : Prop where
  left : 0 ≤ f.left.val
  top : 0 ≤ f.top.val
  right : f.right.val ≤ container.width.val
  bottom : f.bottom.val ≤ container.height.val

instance (container : Size Coord) : Decidable (f.FitsIn container) :=
  decidable_of_iff (0 ≤ f.left.val ∧ 0 ≤ f.top.val ∧ f.right.val ≤ container.width.val ∧
      f.bottom.val ≤ container.height.val)
    ⟨fun h => ⟨h.1, h.2.1, h.2.2.1, h.2.2.2⟩, fun h => ⟨h.left, h.top, h.right, h.bottom⟩⟩

theorem Apart.symm (h : f.Apart g) : g.Apart f := fun x y hboth => h x y hboth.symm

/-- One frame ends before the other starts, along one of the axes. -/
def Separated (f g : Frame Coord) : Prop :=
  (f.right.val ≤ g.left.val ∨ g.right.val ≤ f.left.val) ∨
    f.bottom.val ≤ g.top.val ∨ g.bottom.val ≤ f.top.val

instance : Decidable (Separated f g) := inferInstanceAs (Decidable (_ ∨ _))

theorem Separated.apart (h : f.Separated g) : f.Apart g := by
  intro x y hboth
  simp only [contains_iff] at hboth
  unfold Separated at h
  omega

/-- Frames with area are apart only in this way: else they share the corner where the later of their
left edges meets the later of their top edges. -/
theorem Apart.separated (h : f.Apart g) (hf : f.isEmpty = false) (hg : g.isEmpty = false) :
    f.Separated g := by
  rw [isEmpty_eq_false_iff] at hf hg
  have hcorner := h (max f.left g.left) (max f.top g.top)
  simp only [contains_iff, Coord.val_max] at hcorner
  unfold Separated
  omega

end Frame

namespace Preview

/-! ## Rounding keeps order -/

section
variable {scale : Int} {f g : Frame Coord} {x y : Int}

theorem fdiv_le_fdiv {a b : Int} (hscale : 0 < scale) (h : a ≤ b) : a.fdiv scale ≤ b.fdiv scale := by
  rw [Int.fdiv_eq_ediv_of_nonneg _ hscale.le, Int.fdiv_eq_ediv_of_nonneg _ hscale.le]
  exact Int.ediv_le_ediv hscale h

/-- A frame whose box has cells has area. -/
theorem isEmpty_eq_false_of_covers (hscale : 0 < scale) (h : Covers (boxOf scale f) x y) :
    f.isEmpty = false := by
  obtain ⟨hcolumn, hrow⟩ := h
  refine Frame.isEmpty_eq_false_iff.2 ⟨Int.not_le.1 fun hle => ?_, Int.not_le.1 fun hle => ?_⟩
  · have hcollapsed : (boxOf scale f).right ≤ (boxOf scale f).left := fdiv_le_fdiv hscale hle
    omega
  · have hcollapsed : (boxOf scale f).bottom ≤ (boxOf scale f).top := fdiv_le_fdiv hscale hle
    omega

/-- The boxes of separated frames have no cell in common. -/
theorem not_covers_of_separated (hscale : 0 < scale) (h : f.Separated g)
    (hf : Covers (boxOf scale f) x y) : ¬ Covers (boxOf scale g) x y := by
  rintro ⟨hcolumn', hrow'⟩
  obtain ⟨hcolumn, hrow⟩ := hf
  obtain (hright | hright) | (hbottom | hbottom) := h
  · have hends : (boxOf scale f).right ≤ (boxOf scale g).left := fdiv_le_fdiv hscale hright
    omega
  · have hends : (boxOf scale g).right ≤ (boxOf scale f).left := fdiv_le_fdiv hscale hright
    omega
  · have hends : (boxOf scale f).bottom ≤ (boxOf scale g).top := fdiv_le_fdiv hscale hbottom
    omega
  · have hends : (boxOf scale g).bottom ≤ (boxOf scale f).top := fdiv_le_fdiv hscale hbottom
    omega

/-- The box of a frame inside the container lies on the grid. -/
theorem onGrid_of_fitsIn {container : Size Coord} (h : f.FitsIn container)
    (hcovers : Covers (boxOf (max scale 1) f) x y) : OnGrid scale container x y := by
  have hscale : 0 < max scale 1 := by omega
  have hleft : 0 ≤ (boxOf (max scale 1) f).left := Int.fdiv_nonneg h.left hscale.le
  have htop : 0 ≤ (boxOf (max scale 1) f).top := Int.fdiv_nonneg h.top hscale.le
  have hright : (boxOf (max scale 1) f).right ≤ max container.width.val 0 / max scale 1 := by
    rw [← Int.fdiv_eq_ediv_of_nonneg _ hscale.le]
    exact fdiv_le_fdiv hscale (h.right.trans (Int.le_max_left ..))
  have hbottom : (boxOf (max scale 1) f).bottom ≤ max container.height.val 0 / max scale 1 := by
    rw [← Int.fdiv_eq_ediv_of_nonneg _ hscale.le]
    exact fdiv_le_fdiv hscale (h.bottom.trans (Int.le_max_left ..))
  obtain ⟨hcolumn, hrow⟩ := hcovers
  exact ⟨⟨by omega, by omega⟩, ⟨by omega, by omega⟩⟩

end

/-! ## Boxes printed whole -/

section
variable {scale : Int} {r : Resolved Coord} {container : Size Coord} {id : ElementId}
  {e : Placed Coord} {x y : Int}

/-- No two drawn frames have a point in common. -/
def FramesApart (r : Resolved Coord) : Prop :=
  r.elements.Pairwise fun e e' => Drawn e → Drawn e' → e.frame.Apart e'.frame

/-- Every drawn frame lies inside the container. -/
def FramesFit (r : Resolved Coord) (container : Size Coord) : Prop :=
  ∀ e ∈ r.elements, Drawn e → e.frame.FitsIn container

theorem FramesApart.apart {id' : ElementId} {e' : Placed Coord} (h : FramesApart r)
    (he : r.elements[id]? = some e) (he' : r.elements[id']? = some e') (hdrawn : Drawn e)
    (hdrawn' : Drawn e') (hne : id ≠ id') : e.frame.Apart e'.frame := by
  obtain ⟨hlt, rfl⟩ := List.getElem?_eq_some_iff.1 he
  obtain ⟨hlt', rfl⟩ := List.getElem?_eq_some_iff.1 he'
  have hpair := List.pairwise_iff_getElem.1 h
  rcases Nat.lt_or_gt_of_ne hne with hbefore | hafter
  · exact hpair id id' hlt hlt' hbefore hdrawn hdrawn'
  · exact (hpair id' id hlt' hlt hafter hdrawn' hdrawn).symm

/-- No other element draws in a cell of a box. -/
theorem FramesApart.eq_of_outlines {id' : ElementId} {c : Char} (h : FramesApart r)
    (he : r.elements[id]? = some e) (hdrawn : Drawn e)
    (hcovers : Covers (boxOf (max scale 1) e.frame) x y) (houtlines : Outlines scale r id' x y c) :
    id' = id := by
  obtain ⟨e', he', hdrawn', houtlined⟩ := houtlines
  by_contra hne
  have hseparated : e'.frame.Separated e.frame :=
    (h.apart he' he hdrawn' hdrawn hne).separated hdrawn'.area hdrawn.area
  exact not_covers_of_separated (by omega) hseparated houtlined.covers hcovers

/-- A cell of a box shows what its element draws there. -/
theorem FramesApart.shows {c : Char} (h : FramesApart r) (he : r.elements[id]? = some e)
    (hdrawn : Drawn e) (hcovers : Covers (boxOf (max scale 1) e.frame) x y)
    (hshows : CellShows scale r x y c) :
    Outlined (boxOf (max scale 1) e.frame) x y c ∨
      c = ' ' ∧ ∀ d, ¬ Outlined (boxOf (max scale 1) e.frame) x y d := by
  cases hshows with
  | outline houtlines _ =>
    obtain rfl := h.eq_of_outlines he hdrawn hcovers houtlines
    obtain ⟨e', he', -, houtlined⟩ := houtlines
    obtain rfl := Option.some.inj (he.symm.trans he')
    exact .inl houtlined
  | blank hnone => exact .inr ⟨rfl, fun d houtlined => hnone id d ⟨e, he, hdrawn, houtlined⟩⟩

/-- A row of a box ends in its right border. -/
theorem Covers.exists_outlined_last {box : Frame Int} (h : Covers box x y) :
    ∃ d, Outlined box (box.right - 1) y d := by
  have hlast : Covers box (box.right - 1) y := ⟨⟨by have := h.column; omega, by omega⟩, h.row⟩
  by_cases hhorizontal : OnHorizontalLine box (box.right - 1) y
  · exact ⟨'+', .corner ⟨hlast, .inr rfl⟩ hhorizontal⟩
  · exact ⟨'|', .vertical ⟨hlast, .inr rfl⟩ hhorizontal⟩

/-- Every cell of a box inside the container is printed. -/
theorem exists_charAt?_of_covers (h : FramesApart r) (he : r.elements[id]? = some e)
    (hdrawn : Drawn e) (hfits : e.frame.FitsIn container)
    (hcovers : Covers (boxOf (max scale 1) e.frame) x y) :
    ∃ c, charAt? (lines { scale, showLabels := false } r container) x y = some c := by
  obtain ⟨d, hlast⟩ := hcovers.exists_outlined_last
  have hseen := h.shows he hdrawn hlast.covers
    (cellShows_charAt? scale r container (onGrid_of_fitsIn hfits hlast.covers))
  cases hchar : charAt? (lines { scale, showLabels := false } r container)
      ((boxOf (max scale 1) e.frame).right - 1) y with
  | none =>
    rw [hchar, Option.getD_none] at hseen
    obtain hblank | ⟨-, hnot⟩ := hseen
    · exact absurd rfl hblank.ne_blank
    · exact absurd hlast (hnot d)
  | some d' =>
    have hx := (onGrid_of_fitsIn hfits hcovers).column.1
    have hle := hcovers.column.2
    exact exists_charAt?_of_le hchar hx (by omega)

end

/-- **Separate boxes stay separate.** If no two drawn frames have a point in common and all lie inside
the container, then at any scale no cell of a box is drawn by another element, all of them are printed,
and they show the outline of the box and blanks inside of it. -/
theorem boxes_whole (scale : Int) (r : Resolved Coord) (container : Size Coord)
    (hapart : FramesApart r) (hfit : FramesFit r container) :
    ∃ ls, lines? { scale, showLabels := false } r container = some ls ∧
      ∀ (id : ElementId) e, r.elements[id]? = some e → e.visibility = .visible →
        ∀ x y, Covers (boxOf (max scale 1) e.frame) x y →
          (∀ other c, Outlines scale r other x y c → other = id) ∧
          ∃ c, charAt? ls x y = some c ∧
            (Outlined (boxOf (max scale 1) e.frame) x y c ∨
              c = ' ' ∧ ∀ d, ¬ Outlined (boxOf (max scale 1) e.frame) x y d) := by
  refine ⟨_, lines?_unlabelled scale r container, fun id e he hvisible x y hcovers => ?_⟩
  have hdrawn : Drawn e := ⟨hvisible, isEmpty_eq_false_of_covers (by omega) hcovers⟩
  have hfits : e.frame.FitsIn container := hfit e (List.mem_of_getElem? he) hdrawn
  refine ⟨fun other c => hapart.eq_of_outlines he hdrawn hcovers, ?_⟩
  obtain ⟨c, hc⟩ := exists_charAt?_of_covers hapart he hdrawn hfits hcovers
  have hseen := cellShows_charAt? scale r container (onGrid_of_fitsIn hfits hcovers)
  rw [hc, Option.getD_some] at hseen
  exact ⟨c, hc, hapart.shows he hdrawn hcovers hseen⟩

/-- Two boxes side by side, one below them and one of less height than a cell. -/
def shelves : Layout Coord :=
  { Layout.ofSize ⟨.clamp 14, .clamp 9⟩ with
    elements :=
      [⟨none, { width := .exact (.clamp 7), height := .exact (.clamp 5), margin := .none }⟩,
       ⟨none, { width := .exact (.clamp 7), height := .exact (.clamp 5), margin := .none
                rules := [.sibling .rightOf 0] }⟩,
       ⟨none, { width := .matchParent, height := .exact (.clamp 1), margin := .none
                rules := [.sibling .below 0] }⟩,
       ⟨none, { width := .matchParent, height := .exact (.clamp 2), margin := .none
                rules := [.sibling .below 2] }⟩] }

/-- The elements as they are placed. -/
def placedShelves : Resolved Coord where
  elements :=
    [⟨⟨.clamp 0, .clamp 0, .clamp 7, .clamp 5⟩, none, .visible⟩,
     ⟨⟨.clamp 7, .clamp 0, .clamp 14, .clamp 5⟩, none, .visible⟩,
     ⟨⟨.clamp 0, .clamp 5, .clamp 14, .clamp 6⟩, none, .visible⟩,
     ⟨⟨.clamp 0, .clamp 6, .clamp 14, .clamp 8⟩, none, .visible⟩]
  order := [0, 1, 2, 3]

/-- With three units for each cell the first three are whole although their edges fall within cells, and
the last has no cells. -/
theorem boxes_whole_shelves :
    shelves.resolve = .ok placedShelves ∧ FramesApart placedShelves ∧
      FramesFit placedShelves shelves.size ∧
      lines { scale := 3, showLabels := false } placedShelves shelves.size = ["++++", "+--+", ""] ∧
      ∃ ls, lines? { scale := 3, showLabels := false } placedShelves shelves.size = some ls ∧
        ∀ (id : ElementId) e, placedShelves.elements[id]? = some e → e.visibility = .visible →
          ∀ x y, Covers (boxOf (max 3 1) e.frame) x y →
            (∀ other c, Outlines 3 placedShelves other x y c → other = id) ∧
            ∃ c, charAt? ls x y = some c ∧
              (Outlined (boxOf (max 3 1) e.frame) x y c ∨
                c = ' ' ∧ ∀ d, ¬ Outlined (boxOf (max 3 1) e.frame) x y d) := by
  have hseparated : placedShelves.elements.Pairwise fun e e' => e.frame.Separated e'.frame := by
    decide +kernel
  have hapart : FramesApart placedShelves := hseparated.imp fun h _ _ => h.apart
  have hinside : ∀ e ∈ placedShelves.elements, e.frame.FitsIn shelves.size := by decide +kernel
  have hfit : FramesFit placedShelves shelves.size := fun e he _ => hinside e he
  exact ⟨by decide +kernel, hapart, hfit, by decide +kernel,
    boxes_whole 3 placedShelves shelves.size hapart hfit⟩

end Preview
end AnchorLayout
