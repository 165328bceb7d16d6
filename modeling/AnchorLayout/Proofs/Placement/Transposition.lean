import AnchorLayout.Proofs.Dependency.Anchoring
import AnchorLayout.Proofs.Placement.Counterparts

/-!
# Exchanging the axes

A layout is transposed by exchanging width and height, left and top, right and bottom, and every
verb by the verb that does the same along the other axis. A verb that is written in reading order
first becomes left or right, since there is no reading order along the vertical axis. Every
operation of resolving commutes with this: dependencies stay, and frames come out transposed.
-/

namespace AnchorLayout

/-! ## Data -/

/-- The edge at the same end of the other axis. -/
def Edge.transpose : Edge → Edge
  | left => top
  | top => left
  | right => bottom
  | bottom => right

/-- A size with width and height exchanged. -/
def Size.transpose {α : Type} (s : Size α) : Size α := ⟨s.height, s.width⟩

/-- Spacing with left and top, and right and bottom, exchanged. -/
def Insets.transpose {α : Type} (m : Insets α) : Insets α := ⟨m.top, m.left, m.bottom, m.right⟩

/-- A frame with left and top, and right and bottom, exchanged. -/
def Frame.transpose {α : Type} (f : Frame α) : Frame α := ⟨f.top, f.left, f.bottom, f.right⟩

/-- The verb that does the same along the other axis; start and end are read left to right. -/
def SiblingVerb.transpose : SiblingVerb → SiblingVerb
  | below => rightOf
  | above => leftOf
  | rightOf | endOf => below
  | leftOf | startOf => above
  | alignTop => alignLeft
  | alignBottom => alignRight
  | alignLeft | alignStart => alignTop
  | alignRight | alignEnd => alignBottom

/-- The verb that does the same along the other axis; start and end are read left to right. -/
def ParentVerb.transpose : ParentVerb → ParentVerb
  | alignParentTop => alignParentLeft
  | alignParentBottom => alignParentRight
  | alignParentLeft | alignParentStart => alignParentTop
  | alignParentRight | alignParentEnd => alignParentBottom
  | centerHorizontal => centerVertical
  | centerVertical => centerHorizontal
  | centerInParent => centerInParent

/-- A rule with its verb brought to left or right and then transposed. -/
def Rule.transpose (d : Direction) : Rule → Rule
  | sibling verb anchor => sibling (verb.toward d).transpose anchor
  | parent verb => parent (verb.toward d).transpose

/-- The parameters of an element, transposed. -/
def Params.transpose {α : Type} (d : Direction) (p : Params α) : Params α where
  width := p.height
  height := p.width
  margin := p.margin.transpose
  visibility := p.visibility
  alignWithParentIfMissing := p.alignWithParentIfMissing
  rules := p.rules.map (Rule.transpose d)

/-- An element, transposed. -/
def Element.transpose {α : Type} (d : Direction) (e : Element α) : Element α :=
  { e with params := e.params.transpose d }

/-- A layout with its axes exchanged. -/
def Layout.transpose {α : Type} (l : Layout α) : Layout α where
  size := l.size.transpose
  padding := l.padding.transpose
  direction := .ltr
  elements := l.elements.map (Element.transpose l.direction)

/-- A resolved layout with its frames transposed. -/
def Resolved.transpose {α : Type} (r : Resolved α) : Resolved α where
  elements := r.elements.map fun e => { e with frame := e.frame.transpose }
  order := r.order

/-- What rules say about the axes, with the axes exchanged. -/
def Pins.transpose {α : Type} (s : Pins α) : Pins α := ⟨s.vertical, s.horizontal⟩

theorem Edge.inward_transpose {α : Type} [Add α] [Sub α] (e : Edge) (position distance : α) :
    e.transpose.inward position distance = e.inward position distance := by
  cases e <;> rfl

@[simp] theorem Insets.on_transpose {α : Type} (m : Insets α) (e : Edge) :
    m.transpose.on e.transpose = m.on e := by
  cases e <;> rfl

@[simp] theorem Frame.edge_transpose {α : Type} (f : Frame α) (e : Edge) :
    f.transpose.edge e.transpose = f.edge e := by
  cases e <;> rfl

namespace SiblingVerb

@[simp] theorem edge_transpose (verb : SiblingVerb) :
    verb.transpose.edge = verb.edge.transpose := by
  cases verb <;> rfl

@[simp] theorem facing_transpose (verb : SiblingVerb) :
    verb.transpose.facing = verb.facing.transpose := by
  cases verb <;> rfl

/-- A transposed verb names its side already. -/
@[simp] theorem toward_transpose (d : Direction) (verb : SiblingVerb) :
    verb.transpose.toward d = verb.transpose := by
  cases verb <;> rfl

/-- Transposing twice changes no verb that names its side. -/
theorem transpose_transpose_toward (d : Direction) (verb : SiblingVerb) :
    (verb.toward d).transpose.transpose = verb.toward d := by
  cases verb <;> cases d <;> rfl

theorem transpose_toward_inj {d : Direction} {verb other : SiblingVerb} :
    (other.toward d).transpose = (verb.toward d).transpose ↔ other.toward d = verb.toward d := by
  refine ⟨fun h => ?_, fun h => by rw [h]⟩
  rw [← transpose_transpose_toward d other, h, transpose_transpose_toward]

end SiblingVerb

namespace ParentVerb

@[simp] theorem edge?_transpose (verb : ParentVerb) :
    verb.transpose.edge? = verb.edge?.map Edge.transpose := by
  cases verb <;> rfl

/-- A transposed verb names its side already. -/
@[simp] theorem toward_transpose (d : Direction) (verb : ParentVerb) :
    verb.transpose.toward d = verb.transpose := by
  cases verb <;> rfl

end ParentVerb

namespace Pins
variable {α : Type} (s : Pins α)

theorem write_transpose (e : Edge) (position : α) :
    s.transpose.write e.transpose position = (s.write e position).transpose := by
  cases e <;> rfl

theorem center_transpose (verb : ParentVerb) :
    s.transpose.center verb.transpose = (s.center verb).transpose := by
  cases verb <;> rfl

end Pins

namespace Layout
variable {α : Type}

/-! ## Dependencies -/

@[simp] theorem length_transpose (l : Layout α) : l.transpose.length = l.length := by
  simp [transpose, length]

theorem element?_transpose (l : Layout α) (id : ElementId) :
    l.transpose.element? id = (l.element? id).map (Element.transpose l.direction) :=
  List.getElem?_map

theorem resolutionOrder_transpose (l : Layout α) :
    l.transpose.resolutionOrder = l.resolutionOrder := by
  have hanchor (rule : Rule) : (rule.transpose l.direction).anchor? = rule.anchor? := by
    cases rule <;> rfl
  apply resolutionOrder_eq_of_ties
  simp [transpose, Element.ties, Element.transpose, Params.transpose, List.filterMap_map,
    Function.comp_def, hanchor]

/-! ## Placement -/

/-- An element falls through to the same anchors. -/
theorem fallThrough?_transpose (l : Layout α) (verb : SiblingVerb) (e : Element α) :
    l.transpose.fallThrough? (verb.toward l.direction).transpose (e.transpose l.direction) =
      l.fallThrough? (verb.toward l.direction) e := by
  rw [fallThrough?, fallThrough?, Element.transpose, Params.transpose, ← List.map_reverse,
    List.findSome?_map]
  congr 1
  funext rule
  cases rule with
  | sibling other anchor =>
    simp [Rule.transpose, SiblingVerb.transpose_toward_inj]
  | parent other => rfl

theorem laidOutAnchor?_transpose (l : Layout α) (verb : SiblingVerb) (anchor : ElementId) :
    l.transpose.laidOutAnchor? (verb.toward l.direction).transpose anchor =
      l.laidOutAnchor? (verb.toward l.direction) anchor :=
  laidOutAnchor?_eq_of_map (Element.transpose l.direction) rfl (fun _ => Iff.rfl)
    (l.fallThrough?_transpose verb) anchor

variable [Scalar α] (l : Layout α)

@[simp] theorem parentEdge_transpose (margin : Insets α) (e : Edge) :
    l.transpose.parentEdge margin.transpose e.transpose = l.parentEdge margin e := by
  cases e <;> rfl

omit l in
@[simp] theorem siblingEdge_transpose (verb : SiblingVerb) (anchor : Frame α) (margin : Insets α) :
    siblingEdge verb.transpose anchor.transpose margin.transpose =
      siblingEdge verb anchor margin := by
  simp [siblingEdge, Edge.inward_transpose]

theorem applyRule_transpose (t : FrameTable α) (p : Params α) (s : Pins α) (rule : Rule) :
    l.transpose.applyRule (t.map Frame.transpose) (p.transpose l.direction) s.transpose
        (rule.transpose l.direction) = (l.applyRule t p s rule).transpose := by
  cases rule with
  | sibling verb anchor =>
    simp only [applyRule, Rule.transpose, SiblingVerb.toward_transpose, laidOutAnchor?_transpose]
    cases l.laidOutAnchor? (verb.toward l.direction) anchor with
    | some id =>
      have hframe := FrameTable.frame_map Frame.transpose t id (.inr rfl)
      simp [Params.transpose, hframe, Pins.write_transpose]
    | none =>
      by_cases hparent : p.alignWithParentIfMissing = true <;>
        simp [Params.transpose, hparent, Pins.write_transpose]
  | parent verb =>
    simp only [applyRule, Rule.transpose, ParentVerb.toward_transpose, ParentVerb.edge?_transpose]
    cases (verb.toward l.direction).edge? with
    | some e => simp [Params.transpose, Pins.write_transpose]
    | none => exact Pins.center_transpose _ _

theorem pins_transpose (t : FrameTable α) (p : Params α) :
    l.transpose.pins (t.map Frame.transpose) (p.transpose l.direction) =
      (l.pins t p).transpose := by
  change (p.rules.map (Rule.transpose l.direction)).foldl _ (Pins.transpose {}) = _
  rw [List.foldl_map]
  exact List.foldl_hom Pins.transpose (l.applyRule_transpose t p)

theorem place_transpose (t : FrameTable α) (p : Params α) :
    l.transpose.place (t.map Frame.transpose) (p.transpose l.direction) =
      (l.place t p).transpose := by
  simp only [place, pins_transpose]
  rfl

/-- Placing one element of the transposed layout keeps the table transposed. -/
theorem placeInto_transpose (t : FrameTable α) (id : ElementId) :
    l.transpose.placeInto (t.map Frame.transpose) id = (l.placeInto t id).map Frame.transpose := by
  rw [placeInto, placeInto, element?_transpose]
  cases l.element? id with
  | none => rfl
  | some e =>
    change (t.map Frame.transpose).set id (l.transpose.place _ (e.params.transpose l.direction)) = _
    rw [place_transpose, List.map_set]

theorem placeAll_transpose (order : List ElementId) :
    l.transpose.placeAll order = (l.placeAll order).map Frame.transpose := by
  have hempty : List.replicate l.transpose.length (Frame.empty : Frame α) =
      (List.replicate l.length .empty).map Frame.transpose := by
    rw [length_transpose, List.map_replicate]
    rfl
  rw [placeAll, placeAll, hempty]
  exact List.foldl_hom (List.map Frame.transpose) l.placeInto_transpose

omit [Scalar α] l in
theorem report_transpose [Zero α] (d : Direction) (e : Element α) (f : Frame α) :
    (e.transpose d).report f.transpose =
      { e.report f with frame := (e.report f).frame.transpose } := by
  by_cases hgone : e.params.visibility = .gone
  · simp [Element.report, Element.transpose, Params.transpose, hgone]
    rfl
  · simp [Element.report, Element.transpose, Params.transpose, hgone]

/-- **The axes are treated alike.** Resolving the transposed layout gives the transposed outcome:
the same resolution order and transposed frames, or the same error. -/
theorem resolve_transpose : l.transpose.resolve = l.resolve.map Resolved.transpose := by
  rw [resolve, resolve, resolutionOrder_transpose]
  cases l.resolutionOrder with
  | error e => rfl
  | ok order =>
    have helements :
        List.zipWith Element.report l.transpose.elements (l.transpose.placeAll order) =
          (List.zipWith Element.report l.elements (l.placeAll order)).map
            fun e => { e with frame := e.frame.transpose } := by
      rw [placeAll_transpose, transpose, List.zipWith_map, List.map_zipWith]
      congr 1
      funext e f
      exact report_transpose l.direction e f
    change Except.ok (Resolved.mk _ _) = Except.ok (Resolved.mk _ _)
    rw [helements]

end Layout
end AnchorLayout
