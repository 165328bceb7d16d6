import AnchorLayout.Proofs.Placement.Magnitude

/-!
# Reading in the other direction

A layout is mirrored by reading it in the other direction, exchanging left and right of paddings and
margins, and exchanging the verbs of left and right; verbs in reading order stay, since the
direction exchanges them. Over the integers the frame of an element is mirrored too, if its rules
pin an edge across and do not ask for a negative width. Without a pinned edge it is not: such an
element stands at the left or is centred in both directions, and centring rounds toward zero.
-/

namespace AnchorLayout

/-! ## Data -/

/-- The other direction. -/
def Direction.flip : Direction → Direction
  | ltr => rtl
  | rtl => ltr

/-- The edge in the mirror. -/
def Edge.mirror : Edge → Edge
  | left => right
  | top => top
  | right => left
  | bottom => bottom

/-- Spacing with left and right exchanged. -/
def Insets.mirror {α : Type} (m : Insets α) : Insets α := ⟨m.right, m.top, m.left, m.bottom⟩

/-- The verb with left and right exchanged; verbs in reading order stay. -/
def SiblingVerb.mirror : SiblingVerb → SiblingVerb
  | leftOf => rightOf
  | rightOf => leftOf
  | alignLeft => alignRight
  | alignRight => alignLeft
  | verb => verb

/-- The verb with left and right exchanged; verbs in reading order stay. -/
def ParentVerb.mirror : ParentVerb → ParentVerb
  | alignParentLeft => alignParentRight
  | alignParentRight => alignParentLeft
  | verb => verb

/-- A rule with its verb mirrored. -/
def Rule.mirror : Rule → Rule
  | sibling verb anchor => sibling verb.mirror anchor
  | parent verb => parent verb.mirror

/-- The parameters of an element, mirrored. -/
def Params.mirror {α : Type} (p : Params α) : Params α :=
  { p with margin := p.margin.mirror, rules := p.rules.map Rule.mirror }

/-- An element, mirrored. -/
def Element.mirror {α : Type} (e : Element α) : Element α := { e with params := e.params.mirror }

/-- A layout read in the other direction, with left and right exchanged. -/
def Layout.mirror {α : Type} (l : Layout α) : Layout α where
  size := l.size
  padding := l.padding.mirror
  direction := l.direction.flip
  elements := l.elements.map Element.mirror

/-- A frame in the mirror of a container of some width. -/
def Frame.mirror (width : Int) (f : Frame Int) : Frame Int :=
  ⟨width - f.right, f.top, width - f.left, f.bottom⟩

/-- Where a position along an axis is in the mirror of a container of some width. -/
def Axis.reflect (width : Int) : Axis → Int → Int
  | horizontal, x => width - x
  | vertical, y => y

/-- What rules say about both axes, mirrored. -/
def Pins.mirror (width : Int) (s : Pins Int) : Pins Int where
  horizontal :=
    { start := s.horizontal.finish.map (width - ·)
      finish := s.horizontal.start.map (width - ·)
      centered := s.horizontal.centered }
  vertical := s.vertical

@[simp] theorem Insets.on_mirror {α : Type} (m : Insets α) (e : Edge) :
    m.mirror.on e.mirror = m.on e := by
  cases e <;> rfl

theorem Frame.edge_mirror (width : Int) (f : Frame Int) (e : Edge) :
    (f.mirror width).edge e.mirror = e.axis.reflect width (f.edge e) := by
  cases e <;> rfl

/-- Inward in the mirror is inward. -/
theorem Edge.inward_mirror (width : Int) (e : Edge) (position distance : Int) :
    e.mirror.inward (e.axis.reflect width position) distance =
      e.axis.reflect width (e.inward position distance) := by
  cases e <;> simp only [mirror, inward, axis, Axis.reflect] <;> omega

namespace SiblingVerb

@[simp] theorem mirror_mirror (verb : SiblingVerb) : verb.mirror.mirror = verb := by
  cases verb <;> rfl

theorem mirror_inj {verb other : SiblingVerb} : other.mirror = verb.mirror ↔ other = verb := by
  refine ⟨fun h => ?_, fun h => by rw [h]⟩
  rw [← mirror_mirror other, h, mirror_mirror]

/-- Flipping the direction mirrors what a verb comes to. -/
@[simp] theorem toward_flip_mirror (d : Direction) (verb : SiblingVerb) :
    verb.mirror.toward d.flip = (verb.toward d).mirror := by
  cases verb <;> cases d <;> rfl

theorem edge_mirror (d : Direction) (verb : SiblingVerb) :
    (verb.toward d).mirror.edge = (verb.toward d).edge.mirror := by
  cases verb <;> cases d <;> rfl

theorem facing_mirror (d : Direction) (verb : SiblingVerb) :
    (verb.toward d).mirror.facing = (verb.toward d).facing.mirror := by
  cases verb <;> cases d <;> rfl

end SiblingVerb

namespace ParentVerb

/-- Flipping the direction mirrors what a verb comes to. -/
@[simp] theorem toward_flip_mirror (d : Direction) (verb : ParentVerb) :
    verb.mirror.toward d.flip = (verb.toward d).mirror := by
  cases verb <;> cases d <;> rfl

theorem edge?_mirror (d : Direction) (verb : ParentVerb) :
    (verb.toward d).mirror.edge? = (verb.toward d).edge?.map Edge.mirror := by
  cases verb <;> cases d <;> rfl

end ParentVerb

namespace Pins
variable (width : Int) (s : Pins Int)

theorem write_mirror (e : Edge) (position : Int) :
    (s.mirror width).write e.mirror (e.axis.reflect width position) =
      (s.write e position).mirror width := by
  cases e <;> rfl

theorem center_mirror (verb : ParentVerb) :
    (s.mirror width).center verb.mirror = (s.center verb).mirror width := by
  cases verb <;> rfl

end Pins

/-! ## One element over the integers -/

/-- An edge is pinned, and pinned edges are in order. -/
def AxisPins.Definite (s : AxisPins Int) : Prop :=
  (s.start ≠ none ∨ s.finish ≠ none) ∧ ∀ x ∈ s.start, ∀ y ∈ s.finish, x ≤ y

instance (s : AxisPins Int) : Decidable s.Definite := inferInstanceAs (Decidable (_ ∧ _))

/-- Mirrored edges follow from mirrored pins. -/
theorem AxisPins.Definite.edges_mirror {s : AxisPins Int} (hs : s.Definite)
    (size : Dimension Int) (width innerStart innerFinish : Int) :
    AxisPins.edges ⟨s.finish.map (width - ·), s.start.map (width - ·), s.centered⟩ size width
        (width - innerFinish) (width - innerStart) =
      (width - (s.edges size width innerStart innerFinish).2,
        width - (s.edges size width innerStart innerFinish).1) := by
  obtain ⟨start, finish, centered⟩ := s
  cases start with
  | some start =>
    cases finish with
    | some finish =>
      have h := hs.2 start rfl finish rfl
      simp only [edges, Option.map_some, Prod.mk.injEq]
      omega
    | none =>
      cases size <;>
        simp only [edges, Option.map_some, Option.map_none, Prod.mk.injEq, and_true] <;>
        omega
  | none =>
    cases finish with
    | some finish =>
      cases size <;>
        simp only [edges, Option.map_some, Option.map_none, Prod.mk.injEq, true_and] <;>
        omega
    | none => simpa using hs.1

namespace Layout

section
variable {α : Type}

@[simp] theorem length_mirror (l : Layout α) : l.mirror.length = l.length := by
  simp [mirror, length]

theorem element?_mirror (l : Layout α) (id : ElementId) :
    l.mirror.element? id = (l.element? id).map Element.mirror :=
  List.getElem?_map

/-- Dependencies are the same in the mirror. -/
theorem ties_mirror (l : Layout α) :
    l.mirror.elements.map Element.ties = l.elements.map Element.ties := by
  have hanchor (rule : Rule) : rule.mirror.anchor? = rule.anchor? := by
    cases rule <;> rfl
  simp [mirror, Element.ties, Element.mirror, Params.mirror, List.filterMap_map,
    Function.comp_def, hanchor]

/-- An element falls through to the same anchors in the mirror. -/
theorem fallThrough?_mirror (l : Layout α) (verb : SiblingVerb) (e : Element α) :
    l.mirror.fallThrough? verb.mirror e.mirror = l.fallThrough? verb e := by
  rw [fallThrough?, fallThrough?, Element.mirror, Params.mirror, ← List.map_reverse,
    List.findSome?_map]
  congr 1
  funext rule
  cases rule with
  | sibling other anchor => simp [mirror, Rule.mirror, SiblingVerb.mirror_inj]
  | parent other => rfl

theorem laidOutAnchor?_mirror (l : Layout α) (verb : SiblingVerb) (anchor : ElementId) :
    l.mirror.laidOutAnchor? verb.mirror anchor = l.laidOutAnchor? verb anchor :=
  laidOutAnchor?_eq_of_map Element.mirror rfl (fun _ => Iff.rfl) (l.fallThrough?_mirror verb) anchor

end

variable (l : Layout Int)

theorem parentEdge_mirror (margin : Insets Int) (e : Edge) :
    l.mirror.parentEdge margin.mirror e.mirror =
      e.axis.reflect l.size.width (l.parentEdge margin e) := by
  cases e <;>
    simp only [parentEdge, innerFrame, mirror, Frame.inset, Frame.edge, Insets.mirror, Edge.mirror,
      Edge.axis, Axis.reflect, Edge.inward] <;>
    omega

theorem write_parentEdge_mirror (s : Pins Int) (margin : Insets Int) (e : Edge) :
    (s.mirror l.size.width).write e.mirror (l.mirror.parentEdge margin.mirror e.mirror) =
      (s.write e (l.parentEdge margin e)).mirror l.size.width := by
  rw [parentEdge_mirror, Pins.write_mirror]

theorem siblingEdge_mirror (d : Direction) (verb : SiblingVerb) (width : Int) (anchor : Frame Int)
    (margin : Insets Int) :
    siblingEdge (verb.toward d).mirror (anchor.mirror width) margin.mirror =
      (verb.toward d).edge.axis.reflect width (siblingEdge (verb.toward d) anchor margin) := by
  rw [siblingEdge, siblingEdge, SiblingVerb.edge_mirror, SiblingVerb.facing_mirror,
    Frame.edge_mirror, Insets.on_mirror, SiblingVerb.axis_facing, Edge.inward_mirror]

variable {l}

theorem applyRule_mirror {t : FrameTable Int} (ht : t.length = l.length) (p : Params Int)
    (s : Pins Int) (rule : Rule) :
    l.mirror.applyRule (t.map (Frame.mirror l.size.width)) p.mirror (s.mirror l.size.width)
        rule.mirror = (l.applyRule t p s rule).mirror l.size.width := by
  cases rule with
  | sibling verb anchor =>
    have htoward : verb.mirror.toward l.mirror.direction = (verb.toward l.direction).mirror :=
      SiblingVerb.toward_flip_mirror _ _
    simp only [applyRule, Rule.mirror, htoward, laidOutAnchor?_mirror, SiblingVerb.edge_mirror]
    cases hid : l.laidOutAnchor? (verb.toward l.direction) anchor with
    | some id =>
      obtain ⟨e, he, -⟩ := (fallsTo_of_laidOutWithin? hid).exists_element
      -- What is no element has no frame, so there would be nothing to mirror.
      have hlt : id < t.length := ht ▸ lt_length_of_element? he
      have hframe := FrameTable.frame_map (Frame.mirror l.size.width) t id (.inl hlt)
      simp only [hframe, ← Pins.write_mirror, ← siblingEdge_mirror]
      rfl
    | none =>
      change (if p.alignWithParentIfMissing = true then _ else _) = _
      split
      · exact write_parentEdge_mirror l s p.margin _
      · rfl
  | parent verb =>
    have htoward : verb.mirror.toward l.mirror.direction = (verb.toward l.direction).mirror :=
      ParentVerb.toward_flip_mirror _ _
    simp only [applyRule, Rule.mirror, htoward, ParentVerb.edge?_mirror]
    cases (verb.toward l.direction).edge? with
    | some e => exact write_parentEdge_mirror l s p.margin e
    | none => exact Pins.center_mirror _ _ _

theorem pins_mirror {t : FrameTable Int} (ht : t.length = l.length) (p : Params Int) :
    l.mirror.pins (t.map (Frame.mirror l.size.width)) p.mirror =
      (l.pins t p).mirror l.size.width := by
  change (p.rules.map Rule.mirror).foldl _ (Pins.mirror l.size.width {}) = _
  rw [List.foldl_map]
  exact List.foldl_hom (Pins.mirror l.size.width) (applyRule_mirror ht p)

/-- If its anchors are mirrored and it is pinned across, then an element is mirrored. -/
theorem place_mirror {t : FrameTable Int} (ht : t.length = l.length) {p : Params Int}
    (hp : (l.pins t p).horizontal.Definite) :
    l.mirror.place (t.map (Frame.mirror l.size.width)) p.mirror =
      (l.place t p).mirror l.size.width := by
  have hvertical : (l.mirror.innerFrame.inset p.mirror.margin).top =
        (l.innerFrame.inset p.margin).top ∧
      (l.mirror.innerFrame.inset p.mirror.margin).bottom =
        (l.innerFrame.inset p.margin).bottom :=
    ⟨l.parentEdge_mirror p.margin .top, l.parentEdge_mirror p.margin .bottom⟩
  have hhorizontal : (l.mirror.innerFrame.inset p.mirror.margin).left =
        l.size.width - (l.innerFrame.inset p.margin).right ∧
      (l.mirror.innerFrame.inset p.mirror.margin).right =
        l.size.width - (l.innerFrame.inset p.margin).left :=
    ⟨l.parentEdge_mirror p.margin .right, l.parentEdge_mirror p.margin .left⟩
  have hedges := hp.edges_mirror p.width l.size.width (l.innerFrame.inset p.margin).left
    (l.innerFrame.inset p.margin).right
  simp only [place, pins_mirror ht, hvertical, hhorizontal]
  exact Frame.ext_edge fun e => by
    cases e
    · exact congrArg Prod.fst hedges
    · rfl
    · exact congrArg Prod.snd hedges
    · rfl

/-! ## All elements -/

/-- Mirroring commutes with reading over the integers. -/
theorem mirror_map (l : Layout Coord) :
    l.mirror.map Coord.val = (l.map Coord.val).mirror := by
  simp only [mirror, map, List.map_map]
  rfl

theorem Within.mirror {l : Layout Coord} {m : Int} (hl : l.Within m) : l.mirror.Within m where
  width := hl.width
  height := hl.height
  padding e := by
    cases e
    exacts [hl.padding .right, hl.padding .top, hl.padding .left, hl.padding .bottom]
  elements := by
    intro _ hmem
    obtain ⟨e, he, rfl⟩ := List.mem_map.1 hmem
    have hp := hl.elements e he
    refine ⟨hp.width, hp.height, fun edge => ?_⟩
    cases edge
    exacts [hp.margin .right, hp.margin .top, hp.margin .left, hp.margin .bottom]

/-- Every element that is not gone is mirrored, if each of them is pinned across. -/
theorem IsFixpoint.getElem?_mirror {t t' : FrameTable Int} {order : List ElementId}
    (hs : l.Schedule order) (hlength : t.length = l.length) (ht : l.IsFixpoint t)
    (ht' : l.mirror.IsFixpoint t')
    (hpinned : ∀ id e, l.element? id = some e → e.params.visibility ≠ .gone →
      (l.pins t e.params).horizontal.Definite)
    {id : ElementId} {e : Element Int} (he : l.element? id = some e)
    (hvisible : e.params.visibility ≠ .gone) :
    t'[id]? = t[id]?.map (Frame.mirror l.size.width) := by
  -- Along the schedule. A gone element need not be mirrored, but nothing reads where it is.
  induction hn : order.idxOf id using Nat.strong_induction_on generalizing id e with
  | _ n ih =>
    have he' : l.mirror.element? id = some e.mirror := by
      rw [element?_mirror, he, Option.map_some]
    have hanchors : l.mirror.place t' e.params.mirror =
        l.mirror.place (t.map (Frame.mirror l.size.width)) e.params.mirror := by
      apply place_congr
      intro _ anchor hrule last hlast
      obtain ⟨rule, hrule, hmirror⟩ := List.mem_map.1 hrule
      cases rule with
      | parent verb => cases hmirror
      | sibling verb _ =>
        cases hmirror
        change l.mirror.laidOutAnchor? (verb.mirror.toward l.direction.flip) anchor = some last
          at hlast
        rw [SiblingVerb.toward_flip_mirror, laidOutAnchor?_mirror] at hlast
        obtain ⟨x, hx, hx'⟩ := (fallsTo_of_laidOutWithin? hlast).exists_element
        have hlt := idxOf_lt_of_laidOutAnchor? hs he hrule hlast
        rw [FrameTable.frame, FrameTable.frame, List.getElem?_map, ih _ (hn ▸ hlt) hx hx' rfl]
    rw [ht id e he, ht' id _ he', Option.map_some,
      ← place_mirror hlength (hpinned id e he hvisible)]
    exact congrArg some hanchors

/-- Some rule says where the left or the right edge of an element goes, and if both edges are
prescribed then the left one does not lie beyond the right one. -/
structure PinnedAcross (l : Layout Coord) (frame? : ElementId → Option (Frame Coord))
    (p : Params Coord) : Prop where
  pinned : ∃ e x, e.axis = .horizontal ∧ l.Prescribes frame? p e x
  ordered : ∀ x y, l.Prescribes frame? p .left x → l.Prescribes frame? p .right y → x ≤ y

theorem pinnedAcross_iff {l : Layout Coord} {order : List ElementId} (hs : l.Schedule order)
    {t : FrameTable Coord} {frame? : ElementId → Option (Frame Coord)}
    (hframe : ∀ id e, l.element? id = some e → e.params.visibility ≠ .gone →
      frame? id = some (t.frame id)) {p : Params Coord} :
    l.PinnedAcross frame? p ↔ ((l.pins t p).map Coord.val).horizontal.Definite := by
  have hiff (e : Edge) (x : Coord) : l.Prescribes frame? p e x ↔ (l.pins t p).edge? e = some x :=
    (edge?_pins_eq_some_iff hs hframe).symm
  have hstart : ((l.pins t p).map Coord.val).horizontal.start =
      ((l.pins t p).edge? .left).map Coord.val := rfl
  have hfinish : ((l.pins t p).map Coord.val).horizontal.finish =
      ((l.pins t p).edge? .right).map Coord.val := rfl
  simp only [AxisPins.Definite, hstart, hfinish, ne_eq, Option.map_eq_none_iff, Option.mem_def,
    Option.map_eq_some_iff]
  constructor
  · rintro ⟨⟨e, x, haxis, hx⟩, hordered⟩
    simp only [hiff] at hx hordered
    refine ⟨?_, ?_⟩
    · obtain rfl | rfl := Axis.eq_start_or_eq_finish haxis
      · exact .inl fun h => by cases h.symm.trans hx
      · exact .inr fun h => by cases h.symm.trans hx
    · rintro _ ⟨x, hx, rfl⟩ _ ⟨y, hy, rfl⟩
      exact hordered x y hx hy
  · rintro ⟨hpinned, hordered⟩
    refine ⟨?_, fun x y hx hy => ?_⟩
    · simp only [hiff]
      obtain h | h := hpinned
      · obtain ⟨x, hx⟩ := Option.ne_none_iff_exists'.1 h
        exact ⟨.left, x, rfl, hx⟩
      · obtain ⟨x, hx⟩ := Option.ne_none_iff_exists'.1 h
        exact ⟨.right, x, rfl, hx⟩
    · rw [hiff] at hx hy
      exact hordered x.val ⟨x, hx, rfl⟩ y.val ⟨y, hy, rfl⟩

/-- A row read from left to right. Its field stands after a gone hint, which itself stands after the
title; its icon is aligned with the field; its badge is aligned with the end of the hint, which
falls through to nothing. -/
def sampleRow : Layout Coord where
  size := ⟨.clamp 100, .clamp 40⟩
  padding := ⟨.clamp 1, .clamp 2, .clamp 5, .clamp 2⟩
  elements :=
    [{ name := "title"
       params :=
        { width := .exact (.clamp 31), height := .exact (.clamp 10),
          margin := ⟨.clamp 2, 0, .clamp 3, 0⟩
          rules := [.parent .alignParentStart] } },
     { name := "hint"
       params :=
        { width := .exact (.clamp 30), height := .exact (.clamp 10), margin := .none
          visibility := .gone
          rules := [.sibling .endOf 0, .parent .alignParentLeft] } },
     { name := "field"
       params :=
        { width := .matchParent, height := .exact (.clamp 10), margin := .uniform (.clamp 1)
          rules := [.sibling .rightOf 1, .parent .centerVertical] } },
     { name := "icon"
       params :=
        { width := .exact (.clamp 8), height := .exact (.clamp 8), margin := .none
          visibility := .invisible
          rules := [.sibling .alignRight 2, .sibling .below 2] } },
     { name := "badge"
       params :=
        { width := .exact (.clamp 6), height := .exact (.clamp 6), margin := .uniform (.clamp 1)
          alignWithParentIfMissing := true
          rules := [.sibling .alignEnd 1] } }]

/-- **Right-to-left mirroring.** If nothing can saturate and the elements that are laid out are
pinned across, then the mirrored layout resolves in the same order, and its frames are mirrored. -/
theorem resolve_mirror {l : Layout Coord} {r : Resolved Coord} (h : l.resolve = .ok r) {m : Int}
    (hl : l.Within m) (hm : (2 * l.length + 8) * m ≤ 2147483647)
    (hpinned : ∀ id e, l.element? id = some e → e.params.visibility ≠ .gone →
      l.PinnedAcross r.frame? e.params) :
    ∃ r', l.mirror.resolve = .ok r' ∧ r'.order = r.order ∧
      ∀ id e, l.element? id = some e → e.params.visibility ≠ .gone →
        ∃ f f', r.frame? id = some f ∧ r'.frame? id = some f' ∧
          f'.map Coord.val = (f.map Coord.val).mirror l.size.width.val := by
  obtain ⟨r', hr', horder⟩ : ∃ r', l.mirror.resolve = .ok r' ∧ r'.order = r.order := by
    rw [← resolutionOrder_eq_ok_iff, resolutionOrder_eq_of_ties l.ties_mirror,
      resolutionOrder_eq_ok_iff]
    exact ⟨r, h, rfl⟩
  refine ⟨r', hr', horder, ?_⟩
  intro id e he hvisible
  obtain ⟨hs, -⟩ := resolve_eq_ok h
  obtain ⟨hs', -⟩ := resolve_eq_ok hr'
  have he' : l.mirror.element? id = some e.mirror := by
    rw [element?_mirror, he, Option.map_some]
  have hplaced := hs.isFixpoint_placeAll id e he
  have hplaced' := hs'.isFixpoint_placeAll id _ he'
  refine ⟨_, _, frame?_of_resolve_of_ne_gone h he hvisible,
    frame?_of_resolve_of_ne_gone hr' he' hvisible, ?_⟩
  -- Over the integers both tables are fixpoints, of the layout and of its mirror.
  have hsInt : (l.map Coord.val).Schedule r.order := hs.of_ties (ties_map _ l)
  have hsInt' : (l.map Coord.val).mirror.Schedule r'.order := by
    rw [horder]
    exact hsInt.of_ties (ties_mirror _)
  have hpinsInt : ∀ id e, (l.map Coord.val).element? id = some e →
      e.params.visibility ≠ .gone → AxisPins.Definite
        ((l.map Coord.val).pins ((l.map Coord.val).placeAll r.order) e.params).horizontal := by
    intro id e he hvisible
    rw [element?_map, Option.map_eq_some_iff] at he
    obtain ⟨e, he, rfl⟩ := he
    rw [placeAll_map_val hl hs hm, hl.val_pins hs hm hs.isFixpoint_placeAll he]
    exact (pinnedAcross_iff hs fun _ _ => frame?_of_resolve_of_ne_gone h).1
      (hpinned id e he hvisible)
  have heInt := l.element?_map Coord.val id
  rw [he, Option.map_some] at heInt
  have hmirror := hsInt.isFixpoint_placeAll.getElem?_mirror hsInt (by simp)
    hsInt'.isFixpoint_placeAll hpinsInt heInt hvisible
  rw [← mirror_map, placeAll_map_val hl.mirror hs' (by rwa [length_mirror]),
    placeAll_map_val hl hs hm, List.getElem?_map, List.getElem?_map, hplaced, hplaced'] at hmirror
  rw [FrameTable.frame_of_getElem? hplaced, FrameTable.frame_of_getElem? hplaced']
  exact Option.some.inj hmirror

/-- The mirrored row is read from right to left. Its field stands after the gone hint, and so after
the title, and its badge is aligned with the end of the hint, which comes to the container. -/
theorem resolve_mirror_sampleRow : ∃ r r', sampleRow.resolve = .ok r ∧
    sampleRow.mirror.resolve = .ok r' ∧ r'.order = r.order ∧ sampleRow.Within 100 ∧
    ∀ id e, sampleRow.element? id = some e → e.params.visibility ≠ .gone →
      ∃ f f', r.frame? id = some f ∧ r'.frame? id = some f' ∧
        f'.map Coord.val = (f.map Coord.val).mirror 100 := by
  have horder : sampleRow.resolutionOrder = .ok [0, 1, 2, 3, 4] := by decide +kernel
  obtain ⟨r, hr, hrorder⟩ := resolutionOrder_eq_ok_iff.1 horder
  obtain ⟨hs, -⟩ := resolve_eq_ok hr
  have hwithin : sampleRow.Within 100 := by decide +kernel
  obtain ⟨r', hr', hsame, h⟩ := resolve_mirror hr hwithin (by decide) fun id e he hvisible => by
    have hpinned : ∀ e ∈ sampleRow.elements, e.params.visibility ≠ .gone →
        ((sampleRow.pins (sampleRow.placeAll [0, 1, 2, 3, 4]) e.params).map
          Coord.val).horizontal.Definite := by
      decide +kernel
    rw [pinnedAcross_iff hs fun _ _ => frame?_of_resolve_of_ne_gone hr, hrorder]
    exact hpinned e (List.mem_of_getElem? he) hvisible
  exact ⟨r, r', hr, hr', hsame, hwithin, h⟩

end Layout
end AnchorLayout
