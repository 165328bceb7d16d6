import AnchorLayout.Proofs.Placement.Magnitude

/-!
# Layouts resolved without saturation

Resolving performs additions and subtractions of coordinates, and each of them may have to clamp its
result. `resolveTraced` resolves a layout and records all of them, also those whose results are
overwritten later; forgetting the record gives the resolved layout. If no extent, padding, margin or
size is above a magnitude that leaves room for all elements, then nothing that is recorded clamps,
and the layout resolves just as it does over the unbounded integers.
-/

namespace AnchorLayout

/-! ## Operations and their results -/

/-- An addition or subtraction of two coordinates. -/
inductive Operation where
  | add (a b : Coord)
  | sub (a b : Coord)
deriving DecidableEq

namespace Operation

/-- The coordinate that an operation gives. -/
def result : Operation → Coord
  | add a b => a + b
  | sub a b => a - b

/-- What the operation gives over the integers. -/
def exact : Operation → Int
  | add a b => a.val + b.val
  | sub a b => a.val - b.val

/-- The result is not the exact one, but an end of the range. -/
def Clamps (o : Operation) : Prop := o.result.val ≠ o.exact

instance (o : Operation) : Decidable o.Clamps := inferInstanceAs (Decidable (_ ≠ _))

end Operation

/-- A coordinate with the operations that have led to it. -/
structure Traced where
  value : Coord
  operations : List Operation
deriving DecidableEq

namespace Traced

/-- A coordinate that is given, and not computed. -/
def given (c : Coord) : Traced := ⟨c, []⟩

instance : Zero Traced := ⟨given 0⟩

instance : Add Traced where
  add x y := ⟨x.value + y.value, x.operations ++ y.operations ++ [.add x.value y.value]⟩

instance : Sub Traced where
  sub x y := ⟨x.value - y.value, x.operations ++ y.operations ++ [.sub x.value y.value]⟩

instance : Max Traced where
  max x y := ⟨max x.value y.value, x.operations ++ y.operations⟩

instance : Min Traced where
  min x y := ⟨min x.value y.value, x.operations ++ y.operations⟩

/-- Only additions and subtractions can saturate; choosing between values and halving can not. -/
instance : Scalar Traced where
  half x := ⟨Scalar.half x.value, x.operations⟩

end Traced

/-! ## Resolving with a record -/

/-- The positions of all edges. -/
def Frame.positions {α : Type} (f : Frame α) : List α := [f.left, f.top, f.right, f.bottom]

theorem Frame.exists_edge_of_mem_positions {α : Type} {f : Frame α} {x : α}
    (h : x ∈ f.positions) : ∃ e, f.edge e = x := by
  simp only [positions, List.mem_cons, List.not_mem_nil, or_false] at h
  rcases h with rfl | rfl | rfl | rfl
  exacts [⟨.left, rfl⟩, ⟨.top, rfl⟩, ⟨.right, rfl⟩, ⟨.bottom, rfl⟩]

/-- The positions that have been written. -/
def Pins.positions {α : Type} (s : Pins α) : List α :=
  [s.horizontal.start, s.horizontal.finish, s.vertical.start, s.vertical.finish].filterMap id

theorem Pins.exists_edge?_of_mem_positions {α : Type} {s : Pins α} {x : α}
    (h : x ∈ s.positions) : ∃ e, s.edge? e = some x := by
  simp only [positions, List.mem_filterMap, List.mem_cons, List.not_mem_nil, or_false, id] at h
  obtain ⟨y, rfl | rfl | rfl | rfl, hy⟩ := h
  exacts [⟨.left, hy⟩, ⟨.right, hy⟩, ⟨.top, hy⟩, ⟨.bottom, hy⟩]

/-- The same element in other units. -/
def Placed.map {α β : Type} (f : α → β) (e : Placed α) : Placed β where
  frame := e.frame.map f
  name := e.name
  visibility := e.visibility

/-- The same resolved layout in other units. -/
def Resolved.map {α β : Type} (f : α → β) (r : Resolved α) : Resolved β where
  elements := r.elements.map (Placed.map f)
  order := r.order

namespace Layout

/-- The frame of an element, given the frames of its anchors, with the operations performed for it:
those of each rule, those that give the inner edges of the container less the margin, and those that
settle the edges. -/
def placeTraced (l : Layout Coord) (t : FrameTable Coord) (p : Params Coord) :
    Frame Coord × List Operation :=
  let l := l.map Traced.given
  let t := t.map (Frame.map Traced.given)
  let p := p.map Traced.given
  let f := l.place t p
  let written := p.rules.flatMap fun rule => (l.applyRule t p {} rule).positions
  let inner := (l.innerFrame.inset p.margin).positions
  (f.map Traced.value, (written ++ inner ++ f.positions).flatMap Traced.operations)

/-- Places one element in a table and appends the operations performed. -/
def placeIntoTraced (l : Layout Coord) (s : FrameTable Coord × List Operation) (id : ElementId) :
    FrameTable Coord × List Operation :=
  match l.element? id with
  | some e =>
    let (f, operations) := l.placeTraced s.1 e.params
    (s.1.set id f, s.2 ++ operations)
  | none => s

/-- Places elements one after the other and records the operations performed. -/
def placeAllTraced (l : Layout Coord) (order : List ElementId) :
    FrameTable Coord × List Operation :=
  order.foldl l.placeIntoTraced (List.replicate l.length .empty, [])

/-- Resolves a layout and records the operations performed. -/
def resolveTraced (l : Layout Coord) : Except LayoutError (Resolved Coord × List Operation) := do
  let order ← l.resolutionOrder
  let (t, operations) := l.placeAllTraced order
  return ({ elements := List.zipWith Element.report l.elements t, order }, operations)

end Layout

/-! ## The record changes nothing -/

/-- A change of units that keeps all operations. -/
structure Scalar.Hom {α β : Type} [Scalar α] [Scalar β] (f : α → β) : Prop where
  zero : f 0 = 0
  add : ∀ a b, f (a + b) = f a + f b
  sub : ∀ a b, f (a - b) = f a - f b
  max : ∀ a b, f (max a b) = max (f a) (f b)
  min : ∀ a b, f (min a b) = min (f a) (f b)
  half : ∀ a, f (half a) = half (f a)

theorem Traced.hom_value : Scalar.Hom value where
  zero := rfl
  add _ _ := rfl
  sub _ _ := rfl
  max _ _ := rfl
  min _ _ := rfl
  half _ := rfl

section
variable {α β : Type} [Scalar α] [Scalar β] {f : α → β}

namespace Scalar.Hom

theorem inward (hf : Hom f) (e : Edge) (position distance : α) :
    e.inward (f position) (f distance) = f (e.inward position distance) := by
  cases e
  exacts [(hf.add _ _).symm, (hf.add _ _).symm, (hf.sub _ _).symm, (hf.sub _ _).symm]

theorem siblingEdge (hf : Hom f) (verb : SiblingVerb) (anchor : Frame α) (margin : Insets α) :
    Layout.siblingEdge verb (anchor.map f) (margin.map f) =
      f (Layout.siblingEdge verb anchor margin) := by
  rw [Layout.siblingEdge, Frame.edge_map, Insets.on_map, hf.inward]
  rfl

theorem innerFrame (hf : Hom f) (l : Layout α) (e : Edge) :
    (l.map f).innerFrame.edge e = f (l.innerFrame.edge e) := by
  let outer : Frame α := ⟨0, 0, l.size.width, l.size.height⟩
  have houter : (⟨0, 0, f l.size.width, f l.size.height⟩ : Frame β).edge e = f (outer.edge e) := by
    cases e
    exacts [hf.zero.symm, hf.zero.symm, rfl, rfl]
  calc (l.map f).innerFrame.edge e
      = e.inward ((⟨0, 0, f l.size.width, f l.size.height⟩ : Frame β).edge e)
          ((l.padding.map f).on e) := Frame.edge_inset _ _ _
    _ = f (e.inward (outer.edge e) (l.padding.on e)) := by rw [houter, Insets.on_map, hf.inward]
    _ = f (l.innerFrame.edge e) := by rw [Layout.innerFrame, Frame.edge_inset]

theorem parentEdge (hf : Hom f) (l : Layout α) (margin : Insets α) (e : Edge) :
    (l.map f).parentEdge (margin.map f) e = f (l.parentEdge margin e) := by
  rw [Layout.parentEdge_eq, Layout.parentEdge_eq, hf.innerFrame, Insets.on_map, hf.inward]

theorem applyRule (hf : Hom f) (l : Layout α) (t : FrameTable α) (p : Params α) (s : Pins α)
    (rule : Rule) :
    (l.map f).applyRule (t.map (Frame.map f)) (p.map f) (s.map f) rule =
      (l.applyRule t p s rule).map f := by
  have hempty : (Frame.empty : Frame α).map f = Frame.empty := by
    simp only [Frame.empty, Frame.map, hf.zero]
  cases rule with
  | sibling verb anchor =>
    simp only [Layout.applyRule, Layout.laidOutAnchor?_map, Layout.direction_map]
    cases l.laidOutAnchor? (verb.toward l.direction) anchor with
    | some id =>
      have hframe := FrameTable.frame_map (Frame.map f) t id (.inr hempty)
      simp only [hframe, Params.margin_map, hf.siblingEdge, Pins.write_map]
    | none =>
      change (if p.alignWithParentIfMissing = true then _ else _) = _
      split
      · rw [Params.margin_map, hf.parentEdge, Pins.write_map]
      · rfl
  | parent verb =>
    simp only [Layout.applyRule, Layout.direction_map]
    cases (verb.toward l.direction).edge? with
    | some e => simp only [Params.margin_map, hf.parentEdge, Pins.write_map]
    | none => exact Pins.center_map f s _

theorem pins (hf : Hom f) (l : Layout α) (t : FrameTable α) (p : Params α) :
    (l.map f).pins (t.map (Frame.map f)) (p.map f) = (l.pins t p).map f := by
  have hfold (s : Pins α) (rules : List Rule) :
      rules.foldl ((l.map f).applyRule (t.map (Frame.map f)) (p.map f)) (s.map f) =
        (rules.foldl (l.applyRule t p) s).map f :=
    List.foldl_hom (Pins.map f) fun s rule => hf.applyRule l t p s rule
  exact hfold {} p.rules

theorem edges (hf : Hom f) (s : AxisPins α) (size : Dimension α)
    (extent innerStart innerFinish : α) :
    (s.map f).edges (size.map f) (f extent) (f innerStart) (f innerFinish) =
      (s.edges size extent innerStart innerFinish).map f f := by
  obtain ⟨start, finish, centered⟩ := s
  cases start <;> cases finish <;> cases centered <;> cases size <;>
    simp only [AxisPins.edges, AxisPins.map, Dimension.map, Option.map_some, Option.map_none,
      Prod.map_apply, hf.add, hf.sub, hf.max, hf.min, hf.half, hf.zero]

/-- An element is placed the same in all units whose change keeps the operations. -/
theorem place (hf : Hom f) (l : Layout α) (t : FrameTable α) (p : Params α) :
    (l.map f).place (t.map (Frame.map f)) (p.map f) = (l.place t p).map f := by
  have haxis (a : Axis) := Layout.edge_place (l.map f) (t.map (Frame.map f)) (p.map f) a
  simp only [hf.pins, Pins.along_map, Params.along_map, Layout.size_map, Size.along_map,
    Params.margin_map, hf.parentEdge, hf.edges, ← Layout.edge_place, Prod.map_apply,
    Prod.mk.injEq] at haxis
  refine Frame.ext_edge (Axis.forall_edge fun a => ?_)
  rw [Frame.edge_map, Frame.edge_map]
  exact haxis a

end Scalar.Hom

end

theorem Params.map_given_value (p : Params Coord) :
    (p.map Traced.given).map Traced.value = p := by
  obtain ⟨width, height⟩ := p
  cases width <;> cases height <;> rfl

namespace Layout

theorem map_given_value (l : Layout Coord) : (l.map Traced.given).map Traced.value = l := by
  simp only [map, List.map_map, Function.comp_def, Params.map_given_value]
  exact congrArg (Layout.mk _ _ _) (List.map_id _)

/-- Recording the operations does not change where an element is placed. -/
theorem fst_placeTraced (l : Layout Coord) (t : FrameTable Coord) (p : Params Coord) :
    (l.placeTraced t p).1 = l.place t p := by
  have htable : (t.map (Frame.map Traced.given)).map (Frame.map Traced.value) = t := by
    rw [List.map_map]
    exact List.map_id t
  have hplace := Traced.hom_value.place (l.map Traced.given) (t.map (Frame.map Traced.given))
    (p.map Traced.given)
  rw [map_given_value, htable, Params.map_given_value] at hplace
  exact hplace.symm

theorem fst_placeIntoTraced (l : Layout Coord) (s : FrameTable Coord × List Operation)
    (id : ElementId) : (l.placeIntoTraced s id).1 = l.placeInto s.1 id := by
  rw [placeIntoTraced, placeInto]
  cases l.element? id with
  | some e => exact congrArg (s.1.set id) (fst_placeTraced l s.1 e.params)
  | none => rfl

theorem fst_placeAllTraced (l : Layout Coord) (order : List ElementId) :
    (l.placeAllTraced order).1 = l.placeAll order :=
  (List.foldl_hom Prod.fst fun s id => (fst_placeIntoTraced l s id).symm).symm

/-- Recording the operations does not change what a layout resolves to. -/
theorem map_fst_resolveTraced (l : Layout Coord) : l.resolveTraced.map Prod.fst = l.resolve := by
  rw [resolveTraced, resolve]
  cases l.resolutionOrder with
  | error e => rfl
  | ok order =>
    simp only [bind, Except.bind, pure, Except.pure, Except.map, fst_placeAllTraced]

end Layout

/-! ## What is recorded is exact -/

/-- A coordinate of at most a given magnitude, reached by operations that do not clamp. -/
structure Traced.Sound (b : Int) (x : Traced) : Prop where
  exact : ∀ o ∈ x.operations, ¬ o.Clamps
  within : x.value.Within b

namespace Traced.Sound
variable {b m n : Int} {x y : Traced}

theorem given {c : Coord} (h : c.Within b) : (given c).Sound b :=
  ⟨fun _ ho => absurd ho List.not_mem_nil, h⟩

theorem mono (hx : x.Sound m) (h : m ≤ b) : x.Sound b := ⟨hx.exact, hx.within.mono h⟩

/-- What is computed from two values goes back to the operations of both and to its own. -/
theorem of_append (hx : x.Sound m) (hy : y.Sound n) {z : Traced} (operations : List Operation)
    (hz : z.operations = x.operations ++ y.operations ++ operations)
    (hown : ∀ o ∈ operations, ¬ o.Clamps) (hb : z.value.Within b) : z.Sound b := by
  refine ⟨fun o ho => ?_, hb⟩
  rw [hz, List.mem_append, List.mem_append] at ho
  obtain (ho | ho) | ho := ho
  exacts [hx.exact o ho, hy.exact o ho, hown o ho]

theorem add (hx : x.Sound m) (hy : y.Sound n)
    (h : (x.value + y.value).val = x.value.val + y.value.val)
    (hb : (x.value + y.value).Within b) : (x + y).Sound b := by
  refine hx.of_append hy [.add x.value y.value] rfl ?_ hb
  intro o ho
  rw [List.mem_singleton.1 ho]
  exact fun hclamps => hclamps h

theorem sub (hx : x.Sound m) (hy : y.Sound n)
    (h : (x.value - y.value).val = x.value.val - y.value.val)
    (hb : (x.value - y.value).Within b) : (x - y).Sound b := by
  refine hx.of_append hy [.sub x.value y.value] rfl ?_ hb
  intro o ho
  rw [List.mem_singleton.1 ho]
  exact fun hclamps => hclamps h

theorem max (hx : x.Sound b) (hy : y.Sound b) : (Max.max x y).Sound b := by
  refine hx.of_append hy [] (List.append_nil _).symm (by simp) ?_
  obtain ⟨hlower, hupper⟩ := hx.within
  obtain ⟨hlower', hupper'⟩ := hy.within
  change (Max.max x.value y.value).Within b
  simp only [Coord.Within, Coord.val_max]
  omega

theorem min (hx : x.Sound b) (hy : y.Sound b) : (Min.min x y).Sound b := by
  refine hx.of_append hy [] (List.append_nil _).symm (by simp) ?_
  obtain ⟨hlower, hupper⟩ := hx.within
  obtain ⟨hlower', hupper'⟩ := hy.within
  change (Min.min x.value y.value).Within b
  simp only [Coord.Within, Coord.val_min]
  omega

/-- Moving an edge inward is exact between moderate magnitudes. -/
theorem inward (hx : x.Sound m) (hy : y.Sound n) (h : m + n ≤ 2147483647) (e : Edge) :
    (e.inward x y).Sound (m + n) := by
  obtain ⟨hval, hwithin⟩ := e.val_inward hx.within hy.within h
  cases e
  exacts [hx.add hy hval hwithin, hx.add hy hval hwithin, hx.sub hy hval hwithin,
    hx.sub hy hval hwithin]

/-- Centring a moderate length is exact. -/
theorem centered {extent length : Traced} (hextent : extent.Sound m)
    (hlength : length.Sound (6 * m)) (hm : 7 * m ≤ 2147483647) :
    (Scalar.half (extent - length)).Sound (4 * m) ∧
      (Scalar.half (extent - length) + length).Sound (4 * m) := by
  obtain ⟨hstart, hfinish, hstart', hfinish'⟩ :=
    Coord.val_centered hextent.within hlength.within hm
  have hspare : (extent - length).Sound (7 * m) := by
    obtain ⟨hlower, hupper⟩ := hextent.within
    obtain ⟨hlower', hupper'⟩ := hlength.within
    apply hextent.sub hlength
    · rw [Coord.val_sub]
      omega
    · simp only [Coord.Within, Coord.val_sub]
      omega
  have hhalf : (Scalar.half (extent - length)).Sound (4 * m) := ⟨hspare.exact, hstart'⟩
  refine ⟨hhalf, hhalf.add hlength ?_ hfinish'⟩
  exact hfinish.trans (congrArg (· + length.value.val) hstart.symm)

end Traced.Sound

/-- The edges of an element along an axis are settled without clamping, if what its rules say and
its data are moderate. -/
theorem AxisPins.sound_edges {s : AxisPins Traced} {size : Dimension Traced}
    {extent innerStart innerFinish : Traced} {m b : Int}
    (hstart : ∀ x, s.start = some x → x.Sound b) (hfinish : ∀ x, s.finish = some x → x.Sound b)
    (hsize : ∀ n, size = .exact n → n.Sound m) (hextent : extent.Sound m)
    (hinner : innerStart.Sound (3 * m)) (hinner' : innerFinish.Sound (3 * m)) (hm : 7 * m ≤ b)
    (hb : b + m ≤ 2147483647) :
    (s.edges size extent innerStart innerFinish).1.Sound (b + m) ∧
      (s.edges size extent innerStart innerFinish).2.Sound (b + m) := by
  have hm0 := hextent.within.nonneg
  -- A length counted from a position, forward or backward, stays in range.
  have hforward {x n : Traced} (hx : x.Sound b) (hn : n.Sound m) : (x + n).Sound (b + m) :=
    hx.inward hn hb .left
  have hbackward {x n : Traced} (hx : x.Sound b) (hn : n.Sound m) : (x - n).Sound (b + m) :=
    hx.inward hn hb .right
  have hzero : (0 : Traced).Sound (6 * m) := .given ⟨by simp; omega, by simp; omega⟩
  have hlength : (max (innerFinish - innerStart) 0).Sound (6 * m) :=
    ((hinner'.inward hinner (by omega) .right).mono (by omega)).max hzero
  replace hinner : innerStart.Sound b := hinner.mono (by omega)
  replace hinner' : innerFinish.Sound b := hinner'.mono (by omega)
  have hwiden {x : Traced} (hx : x.Sound b) : x.Sound (b + m) := hx.mono (by omega)
  obtain ⟨start, finish, centered⟩ := s
  cases start with
  | some start =>
    replace hstart := hstart start rfl
    cases finish with
    | some finish => exact ⟨hwiden hstart, hwiden ((hfinish finish rfl).max hstart)⟩
    | none =>
      cases size with
      | exact n => exact ⟨hwiden hstart, hforward hstart (hsize n rfl)⟩
      | matchParent => exact ⟨hwiden hstart, hwiden (hinner'.max hstart)⟩
  | none =>
    cases finish with
    | some finish =>
      replace hfinish := hfinish finish rfl
      cases size with
      | exact n => exact ⟨hbackward hfinish (hsize n rfl), hwiden hfinish⟩
      | matchParent => exact ⟨hwiden (hinner.min hfinish), hwiden hfinish⟩
    | none =>
      cases centered with
      | true =>
        cases size with
        | exact n =>
          obtain ⟨hs, hf⟩ := hextent.centered ((hsize n rfl).mono (by omega)) (by omega)
          exact ⟨hs.mono (by omega), hf.mono (by omega)⟩
        | matchParent =>
          obtain ⟨hs, hf⟩ := hextent.centered hlength (by omega)
          exact ⟨hs.mono (by omega), hf.mono (by omega)⟩
      | false =>
        cases size with
        | exact n => exact ⟨hwiden hinner, hforward hinner (hsize n rfl)⟩
        | matchParent => exact ⟨hwiden hinner, hwiden (hinner'.max hinner)⟩

namespace Layout
variable {l : Layout Coord} {m f : Int} {t : FrameTable Coord} {p : Params Coord}

/-- An edge is aligned to the container without clamping. -/
theorem sound_parentEdge (hl : l.Within m) (hp : p.Within m) (hm : 3 * m ≤ 2147483647) (e : Edge) :
    ((l.map Traced.given).parentEdge (p.map Traced.given).margin e).Sound (3 * m) := by
  let outer : Frame Traced := ⟨0, 0, .given l.size.width, .given l.size.height⟩
  have hm0 := hl.width.nonneg
  have hzero : (0 : Traced).Sound m := .given ⟨by simp; omega, by simp; omega⟩
  have houter : (outer.edge e).Sound m := by
    cases e
    exacts [hzero, hzero, .given hl.width, .given hl.height]
  have hpadding : ((l.padding.map Traced.given).on e).Sound m := by
    rw [Insets.on_map]
    exact .given (hl.padding e)
  have hmargin : ((p.map Traced.given).margin.on e).Sound m := by
    rw [Params.margin_map, Insets.on_map]
    exact .given (hp.margin e)
  have hinner : ((l.map Traced.given).innerFrame.edge e).Sound (m + m) := by
    rw [innerFrame, Frame.edge_inset]
    exact houter.inward hpadding (by omega) e
  rw [parentEdge_eq]
  exact (hinner.inward hmargin (by omega) e).mono (by omega)

/-- A rule writes without clamping. -/
theorem sound_of_written? (hl : l.Within m) (hp : p.Within m) (hm : 6 * m ≤ f)
    (hf : f + m ≤ 2147483647) (hread : l.ReadsWithin f t p) {rule : Rule} (hrule : rule ∈ p.rules)
    {e : Edge} {x : Traced}
    (hx : (l.map Traced.given).written? (t.map (Frame.map Traced.given)) (p.map Traced.given) e
      rule = some x) : x.Sound (f + m) := by
  have hm0 := hl.width.nonneg
  have hparent (e : Edge) := (sound_parentEdge hl hp (by omega) e).mono (b := f + m) (by omega)
  cases rule with
  | sibling verb anchor =>
    simp only [written?, laidOutAnchor?_map, direction_map, Option.ite_none_right_eq_some] at hx
    obtain ⟨-, hx⟩ := hx
    cases hid : l.laidOutAnchor? (verb.toward l.direction) anchor with
    | some id =>
      have hframe := FrameTable.frame_map (Frame.map Traced.given) t id (.inr rfl)
      simp only [hid, hframe, siblingEdge, Params.margin_map, Frame.edge_map, Insets.on_map,
        Option.some.injEq] at hx
      subst hx
      exact Traced.Sound.inward (.given (hread verb anchor hrule id hid _))
        (.given (hp.margin _)) hf _
    | none =>
      simp only [hid, Option.ite_none_right_eq_some, Option.some.injEq] at hx
      exact hx.2 ▸ hparent e
  | parent verb =>
    simp only [written?, Option.ite_none_right_eq_some, Option.some.injEq] at hx
    exact hx.2 ▸ hparent e

/-- What the rules of an element say about an edge comes about without clamping. -/
theorem sound_pins (hl : l.Within m) (hp : p.Within m) (hm : 6 * m ≤ f)
    (hf : f + m ≤ 2147483647) (hread : l.ReadsWithin f t p) {e : Edge} {x : Traced}
    (hx : ((l.map Traced.given).pins (t.map (Frame.map Traced.given))
      (p.map Traced.given)).edge? e = some x) : x.Sound (f + m) := by
  rw [edge?_pins] at hx
  obtain ⟨rule, hrule, hwritten⟩ := List.exists_of_findSome?_eq_some hx
  exact sound_of_written? hl hp hm hf hread (List.mem_reverse.1 hrule) hwritten

theorem sound_size (hp : p.Within m) (a : Axis) {n : Traced}
    (hn : (p.map Traced.given).along a = .exact n) : n.Sound m := by
  have hwithin : (p.along a).Within m := by
    cases a
    exacts [hp.width, hp.height]
  rw [Params.along_map] at hn
  cases hsize : p.along a with
  | exact c =>
    rw [hsize] at hn hwithin
    cases hn
    exact .given hwithin
  | matchParent =>
    rw [hsize] at hn
    cases hn

theorem sound_extent (hl : l.Within m) (a : Axis) :
    ((l.map Traced.given).size.along a).Sound m := by
  rw [size_map, Size.along_map]
  cases a
  exacts [.given hl.width, .given hl.height]

/-- The edges of an element come about without clamping. -/
theorem sound_edge_place (hl : l.Within m) (hp : p.Within m) (hm : 6 * m ≤ f)
    (hf : f + 2 * m ≤ 2147483647) (hread : l.ReadsWithin f t p) (e : Edge) :
    (((l.map Traced.given).place (t.map (Frame.map Traced.given))
      (p.map Traced.given)).edge e).Sound (f + m + m) := by
  have hm0 := hl.width.nonneg
  revert e
  apply Axis.forall_edge
  intro a
  have hplace := edge_place (l.map Traced.given) (t.map (Frame.map Traced.given))
    (p.map Traced.given) a
  rw [Prod.mk.injEq] at hplace
  rw [hplace.1, hplace.2]
  refine AxisPins.sound_edges (m := m) ?_ ?_ (fun _ => sound_size hp a) (sound_extent hl a)
    (sound_parentEdge hl hp (by omega) a.start) (sound_parentEdge hl hp (by omega) a.finish)
    (by omega) (by omega)
  · intro x hx
    rw [Pins.start_along] at hx
    exact sound_pins hl hp hm (by omega) hread hx
  · intro x hx
    rw [Pins.finish_along] at hx
    exact sound_pins hl hp hm (by omega) hread hx

/-- Placing an element performs no operation that clamps. -/
theorem not_clamps_of_mem_placeTraced (hl : l.Within m) (hp : p.Within m) (hm : 6 * m ≤ f)
    (hf : f + 2 * m ≤ 2147483647) (hread : l.ReadsWithin f t p) {o : Operation}
    (ho : o ∈ (l.placeTraced t p).2) : ¬ o.Clamps := by
  have hm0 := hl.width.nonneg
  simp only [placeTraced, List.mem_flatMap, List.mem_append] at ho
  obtain ⟨x, (⟨rule, hrule, hx⟩ | hx) | hx, ho⟩ := ho
  · obtain ⟨e, he⟩ := Pins.exists_edge?_of_mem_positions hx
    rw [edge?_applyRule, Pins.edge?_empty, Option.or_none] at he
    exact (sound_of_written? hl hp hm (by omega) hread hrule he).exact o ho
  · obtain ⟨e, rfl⟩ := Frame.exists_edge_of_mem_positions hx
    exact (sound_parentEdge hl hp (by omega) e).exact o ho
  · obtain ⟨e, rfl⟩ := Frame.exists_edge_of_mem_positions hx
    exact (sound_edge_place hl hp hm hf hread e).exact o ho

/-! ## All elements -/

variable {order : List ElementId}

theorem placeAllTraced_concat (l : Layout Coord) (order : List ElementId) (new : ElementId) :
    l.placeAllTraced (order ++ [new]) = l.placeIntoTraced (l.placeAllTraced order) new := by
  rw [placeAllTraced, List.foldl_append]
  rfl

/-- Also while the table is being filled, what an element reads leaves room for its own size. -/
theorem Within.readsWithin_placeAll (hl : l.Within m) {before after : List ElementId}
    {new : ElementId} (hs : l.Schedule (before ++ new :: after))
    (hm : (2 * l.length + 8) * m ≤ 2147483647) {e : Element Coord} (he : l.element? new = some e) :
    ∃ f, 6 * m ≤ f ∧ f + 2 * m ≤ 2147483647 ∧ l.ReadsWithin f (l.placeAll before) e.params := by
  obtain ⟨-, f, hroom, hbound, hread⟩ := hl.frame hs hm hs.isFixpoint_placeAll he
  refine ⟨f, hroom, hbound, ?_⟩
  intro verb anchor hrule last hlast
  have hmem : last ∈ before := mem_of_laidOutAnchor? hs.anchorsFirst.left he
    (hs.anchorsFirst before new after rfl) hrule hlast
  have hsame : (l.placeAll before).frame last =
      (l.placeAll (before ++ new :: after)).frame last := by
    rw [FrameTable.frame, FrameTable.frame, getElem?_placeAll_append hs.nodup hmem]
  rw [hsame]
  exact hread verb anchor hrule last hlast

/-- Along a schedule no operation clamps. -/
theorem Within.not_clamps_of_mem_placeAllTraced (hl : l.Within m) {before after : List ElementId}
    (hs : l.Schedule (before ++ after)) (hm : (2 * l.length + 8) * m ≤ 2147483647)
    {o : Operation} (ho : o ∈ (l.placeAllTraced before).2) : ¬ o.Clamps := by
  induction before using List.reverseRecOn generalizing after with
  | nil => exact absurd ho List.not_mem_nil
  | append_singleton before new ih =>
    rw [List.append_assoc] at hs
    rw [placeAllTraced_concat, placeIntoTraced] at ho
    cases he : l.element? new with
    | none =>
      rw [he] at ho
      exact ih hs ho
    | some e =>
      rw [he, fst_placeAllTraced] at ho
      obtain ho | ho := List.mem_append.1 ho
      · exact ih hs ho
      · obtain ⟨f, hroom, hbound, hread⟩ := hl.readsWithin_placeAll hs hm he
        exact not_clamps_of_mem_placeTraced hl (hl.elements e (List.mem_of_getElem? he)) hroom
          hbound hread ho

theorem report_map {α β : Type} [Zero α] [Zero β] {f : α → β} (hf : f 0 = 0) (e : Element α)
    (frame : Frame α) :
    Element.report { name := e.name, params := e.params.map f } (frame.map f) =
      (e.report frame).map f := by
  have hempty : (Frame.empty : Frame α).map f = Frame.empty := by
    simp only [Frame.empty, Frame.map, hf]
  by_cases hgone : e.params.visibility = .gone <;>
    simp [Element.report, Placed.map, Params.map, hgone, hempty]

/-- A moderate layout resolves over the integers just as it does. -/
theorem Within.resolve_map_val (hl : l.Within m) (hm : (2 * l.length + 8) * m ≤ 2147483647) :
    (l.map Coord.val).resolve = l.resolve.map (Resolved.map Coord.val) := by
  rw [resolve, resolve, resolutionOrder_eq_of_ties (ties_map Coord.val l)]
  cases horder : l.resolutionOrder with
  | error e => rfl
  | ok order =>
    obtain ⟨r, hr, rfl⟩ := resolutionOrder_eq_ok_iff.1 horder
    have htable := placeAll_map_val hl (resolve_eq_ok hr).1 hm
    simp only [bind, Except.bind, pure, Except.pure, Except.map, htable, Resolved.map,
      List.map_zipWith]
    simp only [map, List.zipWith_map, report_map (f := Coord.val) rfl]

/-- Stairs of extents, margins and paddings as large as four elements allow. The second step stands
beyond a gone one, and the landing is centred over all of them. -/
def sampleStairs : Layout Coord where
  size := ⟨.clamp 134217727, .clamp (-134217727)⟩
  padding := .uniform (.clamp 134217727)
  elements :=
    [{ name := "landing"
       params :=
        { width := .matchParent, height := .exact (.clamp 134217727)
          margin := .uniform (.clamp (-134217727))
          rules := [.parent .centerHorizontal, .sibling .alignBottom 3, .sibling .below 3] } },
     { name := "first"
       params :=
        { width := .exact (.clamp 134217727), height := .exact (.clamp 134217727)
          margin := .uniform (.clamp 134217727)
          rules := [.parent .alignParentStart] } },
     { name := "hidden"
       params :=
        { width := .matchParent, height := .matchParent, margin := .none
          visibility := .gone
          rules := [.sibling .endOf 1] } },
     { name := "second"
       params :=
        { width := .exact (.clamp 134217727), height := .exact (.clamp 134217727)
          margin := .uniform (.clamp 134217727)
          rules := [.sibling .rightOf 2, .sibling .below 1] } }]

/-- **Moderate layouts do not saturate.** If the extents of the container, the paddings, margins and
exact sizes are of at most a magnitude `m`, and `(2 * n + 8) * m` is in range for `n` elements, then
no operation that resolving performs clamps its result, and over the unbounded integers the layout
has the same outcome: the same error, or the same order and frames. -/
theorem resolve_unclamped {l : Layout Coord} {m : Int} (hl : l.Within m)
    (hm : (2 * l.length + 8) * m ≤ 2147483647) :
    l.resolveTraced.map Prod.fst = l.resolve ∧
    (∀ r operations, l.resolveTraced = .ok (r, operations) → ∀ o ∈ operations, ¬ o.Clamps) ∧
    (l.map Coord.val).resolve = l.resolve.map (Resolved.map Coord.val) := by
  refine ⟨l.map_fst_resolveTraced, ?_, hl.resolve_map_val hm⟩
  intro r operations h o ho
  rw [resolveTraced] at h
  cases horder : l.resolutionOrder with
  | error e =>
    rw [horder] at h
    cases h
  | ok order =>
    obtain ⟨r', hr', rfl⟩ := resolutionOrder_eq_ok_iff.1 horder
    have hs := (resolve_eq_ok hr').1
    rw [horder] at h
    cases h
    rw [← List.append_nil r'.order] at hs
    exact hl.not_clamps_of_mem_placeAllTraced hs hm ho

/-- Nothing clamps on the stairs, although they climb beyond their container. -/
theorem resolve_unclamped_sampleStairs : sampleStairs.Within 134217727 ∧
    (2 * (sampleStairs.length : Int) + 8) * 134217727 ≤ 2147483647 ∧
    ∃ r operations, sampleStairs.resolve = .ok r ∧
      sampleStairs.resolveTraced = .ok (r, operations) ∧ (∀ o ∈ operations, ¬ o.Clamps) ∧
      (sampleStairs.map Coord.val).resolve = .ok (r.map Coord.val) := by
  have hwithin : sampleStairs.Within 134217727 := by decide +kernel
  obtain ⟨hsame, hexact, hval⟩ := resolve_unclamped hwithin (by decide)
  obtain ⟨⟨r, operations⟩, htraced⟩ : ∃ x, sampleStairs.resolveTraced = .ok x :=
    exists_eq_ok_of_isOk (by decide +kernel)
  have hr : sampleStairs.resolve = .ok r := by
    rw [← hsame, htraced]
    rfl
  refine ⟨hwithin, by decide, r, operations, hr, htraced, hexact r operations htraced, ?_⟩
  rw [hval, hr]
  rfl

/-- With a larger padding some operation on the stairs clamps. -/
example : (resolveTraced { sampleStairs with padding := .uniform (.clamp 2147483647) }).toOption.any
    (fun x => x.2.any fun o => decide o.Clamps) = true := by
  decide +kernel

end Layout
end AnchorLayout
