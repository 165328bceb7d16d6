import AnchorLayout.Proofs.Document.Loading
import AnchorLayout.Proofs.Document.RoundTrip
import AnchorLayout.Proofs.Placement.Edges

/-!
# Frames have no negative extent

An element whose exact sizes are not negative starts no later than it ends, whatever the container,
the margins and the rules are: a size is counted forward from a start or backward from an end, which
saturation does not reverse, and of two written edges the end gives way. Sizes that come from
numbers or from documents are never negative.
-/

namespace AnchorLayout

/-- An exact extent of at least zero, or the extent of the container. -/
def Dimension.Nonneg : Dimension Coord → Prop
  | exact n => 0 ≤ n
  | matchParent => True

instance : (d : Dimension Coord) → Decidable d.Nonneg
  | .exact n => inferInstanceAs (Decidable (0 ≤ n))
  | .matchParent => isTrue trivial

/-- No element has a negative exact size. -/
def Layout.SizesNonneg (l : Layout Coord) : Prop :=
  ∀ e ∈ l.elements, e.params.width.Nonneg ∧ e.params.height.Nonneg

instance (l : Layout Coord) : Decidable l.SizesNonneg :=
  inferInstanceAs (Decidable (∀ e ∈ l.elements, _ ∧ _))

namespace Coord

/-- Adding a length does not go back, also where the sum saturates. -/
theorem le_add {n : Coord} (h : 0 ≤ n) (a : Coord) : a ≤ a + n := by
  have hn : 0 ≤ n.val := h
  have hupper := a.upper
  rw [le_iff, val_add]
  omega

/-- Subtracting a length does not go forward, also where the difference saturates. -/
theorem sub_le {n : Coord} (h : 0 ≤ n) (a : Coord) : a - n ≤ a := by
  have hn : 0 ≤ n.val := h
  have hlower := a.lower
  rw [le_iff, val_sub]
  omega

theorem le_max_right (a b : Coord) : b ≤ max a b := by
  rw [le_iff, val_max]
  omega

theorem min_le_right (a b : Coord) : min a b ≤ b := by
  rw [le_iff, val_min]
  omega

end Coord

/-! ## One axis -/

/-- Whatever has been written along an axis, the edges derived from a size that is not negative are
in order. -/
theorem AxisPins.edges_le (s : AxisPins Coord) {size : Dimension Coord} (h : size.Nonneg)
    (extent innerStart innerFinish : Coord) :
    (s.edges size extent innerStart innerFinish).1 ≤
      (s.edges size extent innerStart innerFinish).2 := by
  obtain ⟨start, finish, centered⟩ := s
  cases start with
  | some start =>
    cases finish with
    | some finish => exact Coord.le_max_right _ _
    | none =>
      cases size with
      | exact n => exact Coord.le_add h _
      | matchParent => exact Coord.le_max_right _ _
  | none =>
    cases finish with
    | some finish =>
      cases size with
      | exact n => exact Coord.sub_le h _
      | matchParent => exact Coord.min_le_right _ _
    | none =>
      cases centered with
      | true =>
        cases size with
        | exact n => exact Coord.le_add h _
        | matchParent => exact Coord.le_add (Coord.le_max_right _ _) _
      | false =>
        cases size with
        | exact n => exact Coord.le_add h _
        | matchParent => exact Coord.le_max_right _ _

namespace Layout
variable {l : Layout Coord} {p : Params Coord}

/-- Along an axis in which the size of an element is not negative, the edges of the element are in
order, whatever the table of frames holds. -/
theorem edge_place_le (l : Layout Coord) (t : FrameTable Coord) {a : Axis}
    (h : (p.along a).Nonneg) : (l.place t p).edge a.start ≤ (l.place t p).edge a.finish := by
  have hplace := edge_place l t p a
  rw [Prod.mk.injEq] at hplace
  rw [hplace.1, hplace.2]
  exact AxisPins.edges_le _ h _ _ _

/-- What a layout without negative sizes reports is in order along both axes. -/
theorem SizesNonneg.edge_le (hl : l.SizesNonneg) {r : Resolved Coord} (h : l.resolve = .ok r)
    {id : ElementId} {f : Frame Coord} (hf : r.frame? id = some f) (a : Axis) :
    f.edge a.start ≤ f.edge a.finish := by
  cases he : l.element? id with
  | none =>
    rw [frame?_eq_none_of_resolve h he] at hf
    cases hf
  | some e =>
    rw [frame?_of_resolve h he, Option.some.injEq] at hf
    subst hf
    split
    · cases a <;> exact Int.le_refl _
    · have hplaced := (resolve_eq_ok h).1.isFixpoint_placeAll id e he
      rw [FrameTable.frame_of_getElem? hplaced]
      apply edge_place_le
      obtain ⟨hwidth, hheight⟩ := hl e (List.mem_of_getElem? he)
      cases a
      · exact hwidth
      · exact hheight

end Layout

/-! ## Where sizes come from -/

/-- Sizes that have a text are not negative. -/
theorem Dimension.nonneg_of_written {d : Dimension Coord} (h : d.Written) : d.Nonneg := by
  cases d with
  | exact n => exact h
  | matchParent => trivial

/-- The layout of a document that has a text has no negative sizes. -/
theorem Document.Written.sizesNonneg {d : Document} (hd : d.Written) {l : Layout Coord}
    (h : d.toLayout = .ok l) : l.SizesNonneg := by
  obtain ⟨-, rfl⟩ := Document.toLayout_eq_ok_iff.1 h
  intro e he
  obtain ⟨entry, hentry, rfl⟩ := List.mem_map.1 he
  obtain ⟨hwidth, hheight⟩ := hd entry hentry
  exact ⟨Dimension.nonneg_of_written hwidth, Dimension.nonneg_of_written hheight⟩

/-- A document with a container of negative width, paddings and margins that saturate, an element
between edges that cross, one that is centred and too large, and a gone one. -/
def Document.sampleCrowd : Document where
  width := .clamp (-2147483648)
  height := .clamp 2147483647
  padding := ⟨.clamp 2147483647, .clamp (-2147483648), .clamp 2147483647, .clamp (-5)⟩
  elements :=
    [{ name := "wall", width := .exact (.clamp 2147483647), height := .matchParent
       margin := ⟨.clamp (-3), .clamp 2147483647, .clamp 2147483647, .clamp 2147483647⟩
       rules := [⟨.parent .alignParentRight, none⟩] },
     { name := "crossed", width := .matchParent, height := .exact (.clamp 2147483647)
       margin := .uniform (.clamp (-2147483648))
       rules := [⟨.sibling .rightOf, "wall"⟩, ⟨.sibling .leftOf, "wall"⟩,
         ⟨.sibling .above, "hidden"⟩] },
     { name := "hidden", width := .exact (.clamp 9), height := .exact (.clamp 0)
       visibility := .gone
       rules := [⟨.sibling .above, "wall"⟩] },
     { name := "centred", width := .matchParent, height := .exact (.clamp 2147483647)
       rules := [⟨.parent .centerInParent, none⟩] }]

/-- **Frames have no negative extent.** If no element has a negative exact size, then every frame
that a layout reports has its left edge no farther right than its right edge, and its top edge no
lower than its bottom edge. Dimensions that are read from numbers are not negative, nor are those of
a layout that is loaded from the text of a document. -/
theorem resolved_frames_ordered :
    (∀ (l : Layout Coord) (r : Resolved Coord), l.resolve = .ok r → l.SizesNonneg →
      ∀ id f, r.frame? id = some f → f.left ≤ f.right ∧ f.top ≤ f.bottom) ∧
    (∀ n d, Dimension.ofUnits n = .ok d → d.Nonneg) ∧
    ∀ text d l, Document.ofText text = .ok d → d.toLayout = .ok l → l.SizesNonneg := by
  refine ⟨?_, ?_, ?_⟩
  · intro l r hr hl id f hf
    exact ⟨hl.edge_le hr hf .horizontal, hl.edge_le hr hf .vertical⟩
  · intro n d hd
    exact Dimension.nonneg_of_written (Dimension.written_of_ofUnits hd)
  · intro text d l hd hl
    exact (Document.written_of_ofText hd).sizesNonneg hl

/-- The crowded document is read from its text, and its frames are in order. -/
theorem resolved_frames_ordered_sampleCrowd : ∃ l r,
    Document.ofText Document.sampleCrowd.text = .ok Document.sampleCrowd ∧
    Document.sampleCrowd.toLayout = .ok l ∧ l.SizesNonneg ∧ l.resolve = .ok r ∧
    (∀ id f, r.frame? id = some f → f.left ≤ f.right ∧ f.top ≤ f.bottom) ∧
    Dimension.ofUnits (.clamp 2147483647) = .ok (.exact (.clamp 2147483647)) ∧
    (Dimension.exact (.clamp 2147483647)).Nonneg := by
  obtain ⟨hordered, hunits, hdocument⟩ := resolved_frames_ordered
  have hread := Document.ofText_text_of_written (d := .sampleCrowd) (by decide)
  obtain ⟨l, hl⟩ : ∃ l, Document.sampleCrowd.toLayout = .ok l :=
    exists_eq_ok_of_isOk (by decide +kernel)
  obtain ⟨r, hr⟩ : ∃ r, Document.sampleCrowd.loaded.resolve = .ok r :=
    exists_eq_ok_of_isOk (by decide +kernel)
  obtain ⟨-, rfl⟩ := Document.toLayout_eq_ok_iff.1 hl
  have hsizes := hdocument _ _ _ hread hl
  exact ⟨_, r, hread, hl, hsizes, hr, hordered _ r hr hsizes, rfl,
    hunits (.clamp 2147483647) _ rfl⟩

end AnchorLayout
