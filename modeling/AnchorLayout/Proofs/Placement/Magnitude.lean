import AnchorLayout.Proofs.Dependency.Anchoring
import AnchorLayout.Proofs.Placement.Counterparts

/-!
# Layouts in which nothing saturates

If no extent, padding, margin or size of a layout is above some magnitude, then an element reaches
at most two magnitudes beyond the elements against which it is taken. With few enough elements no
position leaves the range of coordinates, and the layout has the same frames as if it were read over
the unbounded integers.
-/

namespace AnchorLayout

/-! ## Coordinates of a magnitude -/

/-- A coordinate of at most a given magnitude. -/
def Coord.Within (m : Int) (c : Coord) : Prop := -m ≤ c.val ∧ c.val ≤ m

/-- All sides are of at most a given magnitude. -/
def Insets.Within (m : Int) (i : Insets Coord) : Prop := ∀ e, (i.on e).Within m

/-- All edges are of at most a given magnitude. -/
def Frame.Within (m : Int) (f : Frame Coord) : Prop := ∀ e, (f.edge e).Within m

/-- An exact extent of at most a given magnitude, or the extent of the container. -/
def Dimension.Within (m : Int) : Dimension Coord → Prop
  | exact n => n.Within m
  | matchParent => True

/-- The sizes and the margin of an element are of at most a given magnitude. -/
structure Params.Within (m : Int) (p : Params Coord) : Prop where
  width : p.width.Within m
  height : p.height.Within m
  margin : p.margin.Within m

/-- All inputs of a layout are of at most a given magnitude. -/
structure Layout.Within (m : Int) (l : Layout Coord) : Prop where
  width : l.size.width.Within m
  height : l.size.height.Within m
  padding : l.padding.Within m
  elements : ∀ e ∈ l.elements, e.params.Within m

section
variable (m : Int)

instance (c : Coord) : Decidable (c.Within m) := inferInstanceAs (Decidable (_ ∧ _))

instance (i : Insets Coord) : Decidable (i.Within m) :=
  decidable_of_iff (i.left.Within m ∧ i.top.Within m ∧ i.right.Within m ∧ i.bottom.Within m)
    ⟨fun ⟨hleft, htop, hright, hbottom⟩ e => match e with
      | .left => hleft
      | .top => htop
      | .right => hright
      | .bottom => hbottom,
    fun h => ⟨h .left, h .top, h .right, h .bottom⟩⟩

instance : (d : Dimension Coord) → Decidable (d.Within m)
  | .exact n => inferInstanceAs (Decidable (n.Within m))
  | .matchParent => isTrue trivial

instance (p : Params Coord) : Decidable (p.Within m) :=
  decidable_of_iff (p.width.Within m ∧ p.height.Within m ∧ p.margin.Within m)
    ⟨fun ⟨hwidth, hheight, hmargin⟩ => ⟨hwidth, hheight, hmargin⟩,
    fun h => ⟨h.width, h.height, h.margin⟩⟩

instance (l : Layout Coord) : Decidable (l.Within m) :=
  decidable_of_iff (l.size.width.Within m ∧ l.size.height.Within m ∧ l.padding.Within m ∧
      ∀ e ∈ l.elements, e.params.Within m)
    ⟨fun ⟨hwidth, hheight, hpadding, helements⟩ => ⟨hwidth, hheight, hpadding, helements⟩,
    fun h => ⟨h.width, h.height, h.padding, h.elements⟩⟩

end

namespace Coord

theorem Within.nonneg {m : Int} {c : Coord} (h : c.Within m) : 0 ≤ m := by
  obtain ⟨hlower, hupper⟩ := h
  omega

theorem Within.mono {m n : Int} {c : Coord} (h : c.Within m) (hmn : m ≤ n) : c.Within n := by
  obtain ⟨hlower, hupper⟩ := h
  exact ⟨by omega, by omega⟩

end Coord

/-- Halving rounds toward zero. -/
theorem Int.tdiv_two_cases (n : Int) :
    0 ≤ n ∧ n.tdiv 2 = n / 2 ∨ n < 0 ∧ n.tdiv 2 = -(-n / 2) := by
  rcases Int.lt_or_le n 0 with h | h
  · refine .inr ⟨h, ?_⟩
    rw [← Int.neg_neg (n.tdiv 2), ← Int.neg_tdiv, Int.tdiv_eq_ediv_of_nonneg (by omega)]
  · exact .inl ⟨h, Int.tdiv_eq_ediv_of_nonneg h⟩

/-- Moving an edge inward does not saturate between moderate magnitudes. -/
theorem Edge.val_inward {m n : Int} {position distance : Coord} (hp : position.Within m)
    (hd : distance.Within n) (hmn : m + n ≤ 2147483647) (e : Edge) :
    (e.inward position distance).val = e.inward position.val distance.val ∧
      (e.inward position distance).Within (m + n) := by
  obtain ⟨hp, hp'⟩ := hp
  obtain ⟨hd, hd'⟩ := hd
  cases e <;> simp only [inward, Coord.Within, Coord.val_add, Coord.val_sub] <;> omega

/-! ## Layouts in other units -/

section
variable {α β : Type} (f : α → β)

@[simp] theorem Insets.on_map (i : Insets α) (e : Edge) : (i.map f).on e = f (i.on e) := by
  cases e <;> rfl

@[simp] theorem Frame.edge_map (g : Frame α) (e : Edge) : (g.map f).edge e = f (g.edge e) := by
  cases e <;> rfl

@[simp] theorem Params.margin_map (p : Params α) : (p.map f).margin = p.margin.map f := rfl

/-- What is said about an axis, in other units. -/
def AxisPins.map (s : AxisPins α) : AxisPins β where
  start := s.start.map f
  finish := s.finish.map f
  centered := s.centered

/-- What is said about both axes, in other units. -/
def Pins.map (s : Pins α) : Pins β := ⟨s.horizontal.map f, s.vertical.map f⟩

theorem Pins.write_map (s : Pins α) (e : Edge) (position : α) :
    (s.map f).write e (f position) = (s.write e position).map f := by
  cases e <;> rfl

theorem Pins.center_map (s : Pins α) (verb : ParentVerb) :
    (s.map f).center verb = (s.center verb).map f := rfl

theorem Params.along_map (p : Params α) (a : Axis) : (p.map f).along a = (p.along a).map f := by
  cases a <;> rfl

theorem Size.along_map (s : Size α) (a : Axis) : (s.map f).along a = f (s.along a) := by
  cases a <;> rfl

theorem Pins.along_map (s : Pins α) (a : Axis) : (s.map f).along a = (s.along a).map f := by
  cases a <;> rfl

namespace Layout

theorem element?_map (l : Layout α) (id : ElementId) :
    (l.map f).element? id =
      (l.element? id).map fun e => { name := e.name, params := e.params.map f } :=
  List.getElem?_map

@[simp] theorem size_map (l : Layout α) : (l.map f).size = l.size.map f := rfl

@[simp] theorem direction_map (l : Layout α) : (l.map f).direction = l.direction := rfl

@[simp] theorem length_map (l : Layout α) : (l.map f).length = l.length := by
  simp [map, length]

/-- Dependencies do not depend on units. -/
theorem ties_map (l : Layout α) :
    (l.map f).elements.map Element.ties = l.elements.map Element.ties := by
  simp [map, Element.ties, Params.map, Function.comp_def]

/-- Nor does it depend on units what a verb falls through to. -/
theorem laidOutAnchor?_map (l : Layout α) (verb : SiblingVerb) (anchor : ElementId) :
    (l.map f).laidOutAnchor? verb anchor = l.laidOutAnchor? verb anchor :=
  laidOutAnchor?_eq_of_map (fun e => { name := e.name, params := e.params.map f }) rfl
    (fun _ => Iff.rfl) (fun _ => rfl) anchor

end Layout
end

/-! ## One element -/

/-- Centring a moderate length does not saturate. -/
theorem Coord.val_centered {m : Int} {extent length : Coord} (hextent : extent.Within m)
    (hlength : length.Within (6 * m)) (hm : 7 * m ≤ 2147483647) :
    (Scalar.half (extent - length)).val = (extent.val - length.val).tdiv 2 ∧
      (Scalar.half (extent - length) + length).val =
        (extent.val - length.val).tdiv 2 + length.val ∧
      (Scalar.half (extent - length)).Within (4 * m) ∧
      (Scalar.half (extent - length) + length).Within (4 * m) := by
  obtain ⟨hextent, hextent'⟩ := hextent
  obtain ⟨hlength, hlength'⟩ := hlength
  have hspare : (extent - length).val = extent.val - length.val := by
    rw [val_sub]
    omega
  have hround := Int.tdiv_two_cases (extent.val - length.val)
  simp only [Within, val_add, val_half, hspare, true_and]
  omega

/-- The edges of an element along an axis are those over the integers, if what its rules say and its
data are moderate. -/
theorem AxisPins.val_edges {s : AxisPins Coord} {size : Dimension Coord}
    {extent innerStart innerFinish : Coord} {m b : Int}
    (hstart : ∀ x, s.start = some x → x.Within b) (hfinish : ∀ x, s.finish = some x → x.Within b)
    (hsize : size.Within m) (hextent : extent.Within m) (hinner : innerStart.Within (3 * m))
    (hinner' : innerFinish.Within (3 * m)) (hm : 7 * m ≤ b) (hb : b + m ≤ 2147483647) :
    (s.map Coord.val).edges (size.map Coord.val) extent.val innerStart.val innerFinish.val =
        ((s.edges size extent innerStart innerFinish).1.val,
          (s.edges size extent innerStart innerFinish).2.val) ∧
      (s.edges size extent innerStart innerFinish).1.Within (b + m) ∧
      (s.edges size extent innerStart innerFinish).2.Within (b + m) := by
  have hm0 := hextent.nonneg
  obtain ⟨start, finish, centered⟩ := s
  rw [Prod.mk.injEq]
  cases start with
  | some start =>
    have hstart := hstart start rfl
    cases finish with
    | some finish =>
      have hfinish := hfinish finish rfl
      simp only [Coord.Within, map, edges, Option.map_some, Coord.val_max, true_and] at *
      omega
    | none =>
      cases size <;>
        simp only [Coord.Within, Dimension.Within, Dimension.map, map, edges, Option.map_some,
          Option.map_none, Coord.val_add, Coord.val_max, true_and] at * <;>
        omega
  | none =>
    cases finish with
    | some finish =>
      have hfinish := hfinish finish rfl
      cases size <;>
        simp only [Coord.Within, Dimension.Within, Dimension.map, map, edges, Option.map_some,
          Option.map_none, Coord.val_sub, Coord.val_min, and_true, true_and] at * <;>
        omega
    | none =>
      have hlength : (max (innerFinish - innerStart) 0).val =
          max (innerFinish.val - innerStart.val) 0 ∧
          (max (innerFinish - innerStart) 0).Within (6 * m) := by
        simp only [Coord.Within, Coord.val_max, Coord.val_sub, Coord.val_zero] at *
        omega
      cases centered with
      | true =>
        cases size with
        | exact length =>
          obtain ⟨hs, hf, hs', hf'⟩ := Coord.val_centered hextent (hsize.mono (by omega)) (by omega)
          exact ⟨⟨hs.symm, hf.symm⟩, hs'.mono (by omega), hf'.mono (by omega)⟩
        | matchParent =>
          obtain ⟨hs, hf, hs', hf'⟩ := Coord.val_centered hextent hlength.2 (by omega)
          rw [hlength.1] at hs hf
          exact ⟨⟨hs.symm, hf.symm⟩, hs'.mono (by omega), hf'.mono (by omega)⟩
      | false =>
        cases size <;>
          simp only [Coord.Within, Dimension.Within, Dimension.map, map, edges, Option.map_none,
            Coord.val_add, Coord.val_max, true_and] at * <;>
          omega

/-- All that rules have written is of at most a given magnitude. -/
def Pins.Within (b : Int) (s : Pins Coord) : Prop := ∀ e x, s.edge? e = some x → x.Within b

theorem Pins.Within.write {b : Int} {s : Pins Coord} (hs : s.Within b) {x : Coord}
    (hx : x.Within b) (e : Edge) : (s.write e x).Within b := by
  intro other y hy
  rw [edge?_write] at hy
  split at hy
  · cases hy
    exact hx
  · exact hs other y hy

theorem Pins.Within.center {b : Int} {s : Pins Coord} (hs : s.Within b) (verb : ParentVerb) :
    (s.center verb).Within b := by
  intro e x hx
  rw [edge?_center] at hx
  exact hs e x hx

namespace Layout
variable {l : Layout Coord} {m f : Int} {t : FrameTable Coord} {p : Params Coord}

theorem val_siblingEdge {frame : Frame Coord} {margin : Insets Coord}
    (hframe : frame.Within f) (hmargin : margin.Within m) (hf : f + m ≤ 2147483647)
    (verb : SiblingVerb) :
    siblingEdge verb (frame.map Coord.val) (margin.map Coord.val) =
        (siblingEdge verb frame margin).val ∧
      (siblingEdge verb frame margin).Within (f + m) := by
  obtain ⟨hval, hwithin⟩ := verb.edge.val_inward (hframe verb.facing) (hmargin verb.edge) hf
  refine ⟨?_, hwithin⟩
  rw [siblingEdge, siblingEdge, hval, Frame.edge_map, Insets.on_map]

/-- An edge aligned to the container lies at most three magnitudes out. -/
theorem val_parentEdge (hl : l.Within m) {margin : Insets Coord} (hmargin : margin.Within m)
    (hm : 3 * m ≤ 2147483647) (e : Edge) :
    (l.map Coord.val).parentEdge (margin.map Coord.val) e = (l.parentEdge margin e).val ∧
      (l.parentEdge margin e).Within (3 * m) := by
  let outer : Frame Coord := ⟨0, 0, l.size.width, l.size.height⟩
  have hm0 := hl.width.nonneg
  have hzero : (0 : Coord).Within m := ⟨by simpa using hm0, by simpa using hm0⟩
  have houter : (outer.edge e).Within m := by
    cases e
    exacts [hzero, hzero, hl.width, hl.height]
  have hval : (l.map Coord.val).innerFrame.edge e =
      e.inward (outer.edge e).val (l.padding.on e).val := by
    rw [innerFrame, Frame.edge_inset]
    cases e <;> rfl
  obtain ⟨hinner, hinner'⟩ := e.val_inward houter (hl.padding e) (by omega)
  obtain ⟨hplaced, hplaced'⟩ := e.val_inward hinner' (hmargin e) (by omega)
  have hedge : l.parentEdge margin e =
      e.inward (e.inward (outer.edge e) (l.padding.on e)) (margin.on e) := by
    rw [parentEdge_eq, innerFrame, Frame.edge_inset]
  rw [hedge, parentEdge_eq, hval, hplaced, hinner, Insets.on_map]
  exact ⟨rfl, hplaced'.mono (by omega)⟩

/-- What the rules of an element read lies at most some distance out. -/
def ReadsWithin (l : Layout Coord) (f : Int) (t : FrameTable Coord) (p : Params Coord) : Prop :=
  ∀ verb anchor, .sibling verb anchor ∈ p.rules →
    ∀ id, l.laidOutAnchor? (verb.toward l.direction) anchor = some id → (t.frame id).Within f

/-- One more rule writes at most one magnitude beyond what it reads. -/
theorem val_applyRule (hl : l.Within m) (hp : p.Within m) (hm : 6 * m ≤ f)
    (hf : f + m ≤ 2147483647) (hread : l.ReadsWithin f t p) {rule : Rule} (hrule : rule ∈ p.rules)
    {s : Pins Coord} (hs : s.Within (f + m)) :
    (l.map Coord.val).applyRule (t.map (Frame.map Coord.val)) (p.map Coord.val)
        (s.map Coord.val) rule = (l.applyRule t p s rule).map Coord.val ∧
      (l.applyRule t p s rule).Within (f + m) := by
  have hm0 := hl.width.nonneg
  have hparent (e : Edge) := val_parentEdge hl hp.margin (by omega) e
  cases rule with
  | sibling verb anchor =>
    simp only [applyRule, laidOutAnchor?_map, direction_map]
    cases hid : l.laidOutAnchor? (verb.toward l.direction) anchor with
    | some id =>
      obtain ⟨hval, hwithin⟩ :=
        val_siblingEdge (hread verb anchor hrule id hid) hp.margin hf (verb.toward l.direction)
      have hframe := FrameTable.frame_map (Frame.map Coord.val) t id (.inr rfl)
      simp only [hframe, Params.margin_map, hval, Pins.write_map]
      exact ⟨trivial, hs.write hwithin _⟩
    | none =>
      change (if p.alignWithParentIfMissing = true then _ else _) = _ ∧ _
      split
      · rw [Params.margin_map, (hparent _).1, Pins.write_map]
        exact ⟨rfl, hs.write ((hparent _).2.mono (by omega)) _⟩
      · exact ⟨rfl, hs⟩
  | parent verb =>
    simp only [applyRule, direction_map]
    cases (verb.toward l.direction).edge? with
    | some e =>
      simp only [Params.margin_map, (hparent e).1, Pins.write_map]
      exact ⟨trivial, hs.write ((hparent e).2.mono (by omega)) e⟩
    | none => exact ⟨Pins.center_map _ _ _, hs.center _⟩

/-- What the rules of an element say is what they say over the integers. -/
theorem val_pins (hl : l.Within m) (hp : p.Within m) (hm : 6 * m ≤ f) (hf : f + m ≤ 2147483647)
    (hread : l.ReadsWithin f t p) :
    (l.map Coord.val).pins (t.map (Frame.map Coord.val)) (p.map Coord.val) =
        (l.pins t p).map Coord.val ∧
      (l.pins t p).Within (f + m) := by
  let Stands (s : Pins Int) (s' : Pins Coord) : Prop := s = s'.map Coord.val ∧ s'.Within (f + m)
  refine List.foldl_rel (r := Stands) ⟨rfl, ?_⟩ ?_
  · intro e x hx
    simp at hx
  · rintro rule hrule _ s ⟨rfl, hs⟩
    exact val_applyRule hl hp hm hf hread hrule hs

/-- The frame of an element is the one over the integers, at most two magnitudes beyond what its
rules read. -/
theorem val_place (hl : l.Within m) (hp : p.Within m) (hm : 6 * m ≤ f)
    (hf : f + 2 * m ≤ 2147483647) (hread : l.ReadsWithin f t p) :
    (l.map Coord.val).place (t.map (Frame.map Coord.val)) (p.map Coord.val) =
        (l.place t p).map Coord.val ∧
      (l.place t p).Within (f + 2 * m) := by
  have hm0 := hl.width.nonneg
  obtain ⟨hpins, hwithin⟩ := val_pins hl hp hm (by omega) hread
  have haxis (a : Axis) (e : Edge) (he : e = a.start ∨ e = a.finish) :
      ((l.map Coord.val).place (t.map (Frame.map Coord.val)) (p.map Coord.val)).edge e =
        ((l.place t p).edge e).val ∧ ((l.place t p).edge e).Within (f + 2 * m) := by
    have hsize : (p.along a).Within m := by
      cases a
      exacts [hp.width, hp.height]
    have hextent : (l.size.along a).Within m := by
      cases a
      exacts [hl.width, hl.height]
    obtain ⟨hstart, hstart'⟩ := val_parentEdge hl hp.margin (by omega) a.start
    obtain ⟨hfinish, hfinish'⟩ := val_parentEdge hl hp.margin (by omega) a.finish
    have hplace := edge_place (l.map Coord.val) (t.map (Frame.map Coord.val)) (p.map Coord.val) a
    rw [hpins, Pins.along_map, Params.along_map, size_map, Size.along_map, Params.margin_map,
      hstart, hfinish] at hplace
    obtain ⟨hedges, hs, hf⟩ := AxisPins.val_edges (s := (l.pins t p).along a) (b := f + m)
      (fun x hx => hwithin a.start x (by rwa [← Pins.start_along]))
      (fun x hx => hwithin a.finish x (by rwa [← Pins.finish_along]))
      hsize hextent hstart' hfinish' (by omega) (by omega)
    rw [hedges, ← edge_place, Prod.mk.injEq] at hplace
    rw [← edge_place] at hs hf
    obtain rfl | rfl := he
    · exact ⟨hplace.1, hs.mono (by omega)⟩
    · exact ⟨hplace.2, hf.mono (by omega)⟩
  have hedge (e : Edge) := haxis e.axis e (Axis.eq_start_or_eq_finish rfl)
  refine ⟨Frame.ext_edge fun e => ?_, fun e => (hedge e).2⟩
  rw [Frame.edge_map, (hedge e).1]

/-! ## All elements -/

variable {order : List ElementId}

/-- In a table that solves the rules, frames reach two magnitudes farther with each place in the
schedule, and what is read leaves room for one more element. -/
theorem Within.frame (hl : l.Within m) (hs : l.Schedule order)
    (hm : (2 * l.length + 8) * m ≤ 2147483647) (ht : l.IsFixpoint t) {id : ElementId}
    {e : Element Coord} (he : l.element? id = some e) :
    (t.frame id).Within ((2 * order.idxOf id + 8) * m) ∧
      ∃ f, 6 * m ≤ f ∧ f + 2 * m ≤ 2147483647 ∧ l.ReadsWithin f t e.params := by
  have hm0 := hl.width.nonneg
  have hle {i j : Int} (h : i ≤ j) : i * m ≤ j * m := Int.mul_le_mul_of_nonneg_right h hm0
  induction hn : order.idxOf id using Nat.strong_induction_on generalizing id e with
  | _ n ih =>
    have hread : l.ReadsWithin ((2 * n + 6) * m) t e.params := by
      intro verb anchor hrule last hlast
      obtain ⟨e', he', -⟩ := (fallsTo_of_laidOutWithin? hlast).exists_element
      have hlt := idxOf_lt_of_laidOutAnchor? hs he hrule hlast
      exact fun e => ((ih _ (hn ▸ hlt) he' rfl).1 e).mono (hle (by omega))
    have hlast : n < l.length := by
      rw [← hn, ← List.length_range (n := l.length), ← ids, ← hs.perm.length_eq]
      exact List.idxOf_lt_length_of_mem (hs.mem_iff.2 (lt_length_of_element? he))
    have hsum : (2 * (n : Int) + 6) * m + 2 * m = (2 * n + 8) * m := by
      rw [← Int.add_mul, Int.add_assoc]
      rfl
    have hbound : (2 * (n : Int) + 8) * m ≤ (2 * l.length + 8) * m := hle (by omega)
    have hroom : 6 * m ≤ (2 * (n : Int) + 6) * m := hle (by omega)
    have hwithin :=
      (val_place hl (hl.elements e (List.mem_of_getElem? he)) hroom (by omega) hread).2
    rw [FrameTable.frame_of_getElem? (ht id e he)]
    exact ⟨hsum ▸ hwithin, _, hroom, by omega, hread⟩

/-- What the rules of each element say is what they say over the integers. -/
theorem Within.val_pins (hl : l.Within m) (hs : l.Schedule order)
    (hm : (2 * l.length + 8) * m ≤ 2147483647) (ht : l.IsFixpoint t) {id : ElementId}
    {e : Element Coord} (he : l.element? id = some e) :
    (l.map Coord.val).pins (t.map (Frame.map Coord.val)) (e.params.map Coord.val) =
      (l.pins t e.params).map Coord.val := by
  have hm0 := hl.width.nonneg
  obtain ⟨-, f, hroom, hbound, hread⟩ := hl.frame hs hm ht he
  have hp := hl.elements e (List.mem_of_getElem? he)
  exact (Layout.val_pins hl hp hroom (by omega) hread).1

/-- **Nothing saturates.** The frames of a layout with moderate inputs are those of the same layout
over the integers. -/
theorem placeAll_map_val (hl : l.Within m) (hs : l.Schedule order)
    (hm : (2 * l.length + 8) * m ≤ 2147483647) :
    (l.map Coord.val).placeAll order = (l.placeAll order).map (Frame.map Coord.val) := by
  have hfix : (l.map Coord.val).IsFixpoint ((l.placeAll order).map (Frame.map Coord.val)) := by
    intro id e he
    rw [element?_map, Option.map_eq_some_iff] at he
    obtain ⟨e, he, rfl⟩ := he
    obtain ⟨-, f, hroom, hbound, hread⟩ := hl.frame hs hm hs.isFixpoint_placeAll he
    have hplace := val_place hl (hl.elements e (List.mem_of_getElem? he)) hroom hbound hread
    rw [hplace.1, List.getElem?_map, hs.isFixpoint_placeAll id e he, Option.map_some]
  symm
  exact hfix.eq_placeAll (by simp) (hs.of_ties (ties_map _ l))

end Layout
end AnchorLayout
