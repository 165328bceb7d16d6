import AnchorLayout.Proofs.Placement.Fixpoint

/-!
# Where the edges of an element are

The reported frames answer to the rules: an edge lies where the last rule that says anything about
it puts it, measured from the reported frame of the anchor to which the rule falls or from the
container, and what no rule says follows from the size of the element.
-/

namespace AnchorLayout
namespace Layout
variable {α : Type}

/-- The line from which a rule of an element measures an edge, if it measures that edge at all. A
rule whose chain of anchors comes to nothing counts only for an element that is then aligned with
the container. -/
inductive Measures (l : Layout α) [Scalar α] (frame? : ElementId → Option (Frame α))
    (p : Params α) (e : Edge) : Rule → α → Prop
  | parent {verb : ParentVerb} (hverb : (verb.toward l.direction).edge? = some e) :
      Measures l frame? p e (.parent verb) (l.innerFrame.edge e)
  | anchored {verb : SiblingVerb} {anchor id : ElementId} {f : Frame α}
      (hverb : (verb.toward l.direction).edge = e)
      (hchain : l.FallsTo (verb.toward l.direction) anchor id) (hframe : frame? id = some f) :
      Measures l frame? p e (.sibling verb anchor) (f.edge (verb.toward l.direction).facing)
  | missing {verb : SiblingVerb} {anchor : ElementId} (hverb : (verb.toward l.direction).edge = e)
      (hchain : ∀ id, ¬ l.FallsTo (verb.toward l.direction) anchor id)
      (hparent : p.alignWithParentIfMissing = true) :
      Measures l frame? p e (.sibling verb anchor) (l.innerFrame.edge e)

variable [Scalar α]

/-- The last rule that measures an edge puts it at this position, moved inward by the margin. -/
def Prescribes (l : Layout α) (frame? : ElementId → Option (Frame α)) (p : Params α) (e : Edge)
    (position : α) : Prop :=
  ∃ before rule after line, p.rules = before ++ rule :: after ∧ l.Measures frame? p e rule line ∧
    (∀ later ∈ after, ∀ x, ¬ l.Measures frame? p e later x) ∧
    position = e.inward line (p.margin.on e)

/-- No rule measures an edge. -/
def Leaves (l : Layout α) (frame? : ElementId → Option (Frame α)) (p : Params α) (e : Edge) :
    Prop :=
  ∀ rule ∈ p.rules, ∀ x, ¬ l.Measures frame? p e rule x

/-- The edges of a frame along one axis obey the rules of an element and, where these say nothing,
its size. -/
structure Obeys (l : Layout Coord) (frame? : ElementId → Option (Frame Coord)) (p : Params Coord)
    (f : Frame Coord) (a : Axis) : Prop where
  /-- Only an end prescribed before the start gives way: it is raised to the start. -/
  both : ∀ s t, l.Prescribes frame? p a.start s → l.Prescribes frame? p a.finish t →
    f.edge a.start = s ∧ f.edge a.finish = max t s
  start_exact : ∀ s n, l.Prescribes frame? p a.start s → l.Leaves frame? p a.finish →
    p.along a = .exact n → f.edge a.start = s ∧ f.edge a.finish = s + n
  start_matchParent : ∀ s, l.Prescribes frame? p a.start s → l.Leaves frame? p a.finish →
    p.along a = .matchParent →
    f.edge a.start = s ∧ f.edge a.finish = max (l.parentEdge p.margin a.finish) s
  finish_exact : ∀ t n, l.Leaves frame? p a.start → l.Prescribes frame? p a.finish t →
    p.along a = .exact n → f.edge a.start = t - n ∧ f.edge a.finish = t
  finish_matchParent : ∀ t, l.Leaves frame? p a.start → l.Prescribes frame? p a.finish t →
    p.along a = .matchParent →
    f.edge a.start = min (l.parentEdge p.margin a.start) t ∧ f.edge a.finish = t
  /-- Centring divides toward zero. -/
  centered_exact : ∀ n, l.Leaves frame? p a.start → l.Leaves frame? p a.finish →
    p.rules.any (·.centers a) = true → p.along a = .exact n →
    (f.edge a.start).val = (l.size.along a - n).val.tdiv 2 ∧ f.edge a.finish = f.edge a.start + n
  centered_matchParent : ∀ n, l.Leaves frame? p a.start → l.Leaves frame? p a.finish →
    p.rules.any (·.centers a) = true → p.along a = .matchParent →
    n = max (l.parentEdge p.margin a.finish - l.parentEdge p.margin a.start) 0 →
    (f.edge a.start).val = (l.size.along a - n).val.tdiv 2 ∧ f.edge a.finish = f.edge a.start + n
  plain_exact : ∀ n, l.Leaves frame? p a.start → l.Leaves frame? p a.finish →
    p.rules.any (·.centers a) = false → p.along a = .exact n →
    f.edge a.start = l.parentEdge p.margin a.start ∧ f.edge a.finish = f.edge a.start + n
  plain_matchParent : l.Leaves frame? p a.start → l.Leaves frame? p a.finish →
    p.rules.any (·.centers a) = false → p.along a = .matchParent →
    f.edge a.start = l.parentEdge p.margin a.start ∧
      f.edge a.finish = max (l.parentEdge p.margin a.finish) (f.edge a.start)

section
variable {l : Layout α} {order : List ElementId} {t : FrameTable α} {p : Params α} {e : Edge}
  {frame? : ElementId → Option (Frame α)} {position : α}

theorem parentEdge_eq (l : Layout α) (margin : Insets α) (e : Edge) :
    l.parentEdge margin e = e.inward (l.innerFrame.edge e) (margin.on e) :=
  Frame.edge_inset _ _ _

/-- A rule writes an edge at the line from which it measures, moved inward by the margin. -/
theorem written?_eq_some_iff (hs : l.Schedule order)
    (hframe : ∀ id e, l.element? id = some e → e.params.visibility ≠ .gone →
      frame? id = some (t.frame id)) (rule : Rule) :
    l.written? t p e rule = some position ↔
      ∃ line, l.Measures frame? p e rule line ∧ position = e.inward line (p.margin.on e) := by
  constructor
  · intro h
    cases rule with
    | parent verb =>
      rw [written?, Option.ite_none_right_eq_some] at h
      obtain ⟨hverb, hposition⟩ := h
      exact ⟨_, .parent hverb, by rw [← parentEdge_eq, Option.some.inj hposition]⟩
    | sibling verb anchor =>
      simp only [written?, Option.ite_none_right_eq_some] at h
      obtain ⟨rfl, h⟩ := h
      cases hid : l.laidOutAnchor? (verb.toward l.direction) anchor with
      | some id =>
        rw [hid] at h
        have hchain := (laidOutAnchor?_eq_some_iff hs).1 hid
        obtain ⟨e, he, hvisible⟩ := hchain.exists_element
        exact ⟨_, .anchored rfl hchain (hframe id e he hvisible), (Option.some.inj h).symm⟩
      | none =>
        simp only [hid, Option.ite_none_right_eq_some] at h
        refine ⟨_, .missing rfl ((laidOutAnchor?_eq_none_iff hs).1 hid) h.1, ?_⟩
        rw [← parentEdge_eq, Option.some.inj h.2]
  · rintro ⟨line, hline, rfl⟩
    cases hline with
    | parent hverb => simp [written?, hverb, parentEdge_eq]
    | anchored hverb hchain hid =>
      obtain ⟨e, he, hvisible⟩ := hchain.exists_element
      rw [hframe _ e he hvisible] at hid
      obtain rfl := Option.some.inj hid
      simp [written?, hverb, (laidOutAnchor?_eq_some_iff hs).2 hchain, siblingEdge]
    | missing hverb hchain hparent =>
      simp [written?, hverb, (laidOutAnchor?_eq_none_iff hs).2 hchain, hparent, parentEdge_eq]

variable (hs : l.Schedule order)
  (hframe : ∀ id e, l.element? id = some e → e.params.visibility ≠ .gone →
    frame? id = some (t.frame id))

include hs hframe in
theorem written?_eq_none_iff (rule : Rule) :
    l.written? t p e rule = none ↔ ∀ x, ¬ l.Measures frame? p e rule x := by
  rw [Option.eq_none_iff_forall_ne_some]
  constructor
  · intro h x hx
    exact h _ ((written?_eq_some_iff hs hframe rule).2 ⟨x, hx, rfl⟩)
  · intro h v hv
    obtain ⟨line, hline, -⟩ := (written?_eq_some_iff hs hframe rule).1 hv
    exact h line hline

include hs hframe in
theorem edge?_pins_eq_some_iff :
    (l.pins t p).edge? e = some position ↔ l.Prescribes frame? p e position := by
  rw [edge?_pins, findSome?_reverse_eq_some_iff]
  simp only [written?_eq_some_iff hs hframe, written?_eq_none_iff hs hframe, Prescribes]
  constructor
  · rintro ⟨before, rule, after, heq, ⟨line, hline, hposition⟩, hafter⟩
    exact ⟨before, rule, after, line, heq, hline, hafter, hposition⟩
  · rintro ⟨before, rule, after, line, heq, hline, hafter, hposition⟩
    exact ⟨before, rule, after, heq, ⟨line, hline, hposition⟩, hafter⟩

include hs hframe in
theorem edge?_pins_eq_none_iff : (l.pins t p).edge? e = none ↔ l.Leaves frame? p e := by
  rw [edge?_pins, List.findSome?_eq_none_iff]
  simp only [written?_eq_none_iff hs hframe, List.mem_reverse, Leaves]

include hs hframe in
/-- An edge is left by all rules, or prescribed at one position. -/
theorem leaves_or_prescribes (e : Edge) :
    l.Leaves frame? p e ∨ ∃! position, l.Prescribes frame? p e position := by
  cases hedge : (l.pins t p).edge? e with
  | none => exact .inl ((edge?_pins_eq_none_iff hs hframe).1 hedge)
  | some position =>
    refine .inr ⟨position, (edge?_pins_eq_some_iff hs hframe).1 hedge, ?_⟩
    intro other hother
    have := (edge?_pins_eq_some_iff hs hframe).2 hother
    rw [hedge] at this
    exact (Option.some.inj this).symm

end

/-- An element is placed as its rules and its size demand along each axis. -/
theorem obeys_place {l : Layout Coord} {order : List ElementId} (hs : l.Schedule order)
    {t : FrameTable Coord} {frame? : ElementId → Option (Frame Coord)}
    (hframe : ∀ id e, l.element? id = some e → e.params.visibility ≠ .gone →
      frame? id = some (t.frame id)) (p : Params Coord) (a : Axis) :
    l.Obeys frame? p (l.place t p) a := by
  have hedges := edge_place l t p a
  have hsome {e : Edge} {position : Coord} (h : l.Prescribes frame? p e position) :
      (l.pins t p).edge? e = some position := (edge?_pins_eq_some_iff hs hframe).2 h
  have hnone {e : Edge} (h : l.Leaves frame? p e) : (l.pins t p).edge? e = none :=
    (edge?_pins_eq_none_iff hs hframe).2 h
  -- Each case fixes which edges are written, the size, and whether the axis is centred.
  constructor
  case both =>
    intro s finish hstart hfinish
    simpa [AxisPins.edges, Pins.start_along, Pins.finish_along, hsome hstart, hsome hfinish]
      using hedges
  case start_exact =>
    intro s n hstart hfinish hn
    simpa [AxisPins.edges, Pins.start_along, Pins.finish_along, hsome hstart, hnone hfinish, hn]
      using hedges
  case start_matchParent =>
    intro s hstart hfinish hn
    simpa [AxisPins.edges, Pins.start_along, Pins.finish_along, hsome hstart, hnone hfinish, hn]
      using hedges
  case finish_exact =>
    intro finish n hstart hfinish hn
    simpa [AxisPins.edges, Pins.start_along, Pins.finish_along, hnone hstart, hsome hfinish, hn]
      using hedges
  case finish_matchParent =>
    intro finish hstart hfinish hn
    simpa [AxisPins.edges, Pins.start_along, Pins.finish_along, hnone hstart, hsome hfinish, hn]
      using hedges
  case centered_exact =>
    intro n hstart hfinish hcentered hn
    simp only [AxisPins.edges, Pins.start_along, Pins.finish_along, hnone hstart, hnone hfinish,
      hn, centered_pins, hcentered, Prod.mk.injEq] at hedges
    rw [hedges.2, hedges.1, Coord.val_half]
    exact ⟨rfl, rfl⟩
  case centered_matchParent =>
    intro n hstart hfinish hcentered hn hlength
    simp only [AxisPins.edges, Pins.start_along, Pins.finish_along, hnone hstart, hnone hfinish,
      hn, centered_pins, hcentered, ← hlength, Prod.mk.injEq] at hedges
    rw [hedges.2, hedges.1, Coord.val_half]
    exact ⟨rfl, rfl⟩
  case plain_exact =>
    intro n hstart hfinish hcentered hn
    simp only [AxisPins.edges, Pins.start_along, Pins.finish_along, hnone hstart, hnone hfinish,
      hn, centered_pins, hcentered, Prod.mk.injEq] at hedges
    exact ⟨hedges.1, by rw [hedges.2, hedges.1]⟩
  case plain_matchParent =>
    intro hstart hfinish hcentered hn
    simp only [AxisPins.edges, Pins.start_along, Pins.finish_along, hnone hstart, hnone hfinish,
      hn, centered_pins, hcentered, Prod.mk.injEq] at hedges
    exact ⟨hedges.1, by rw [hedges.2, hedges.1]⟩

/-- The frame that an element reports. -/
theorem frame?_of_resolve {l : Layout α} {r : Resolved α} (h : l.resolve = .ok r) {id : ElementId}
    {e : Element α} (he : l.element? id = some e) :
    r.frame? id = some (if e.params.visibility = .gone then .empty
      else (l.placeAll r.order).frame id) := by
  obtain ⟨hs, hreport⟩ := resolve_eq_ok h
  have hplaced := hs.isFixpoint_placeAll id e he
  have helement : l.elements[id]? = some e := he
  rw [Resolved.frame?, hreport, List.getElem?_zipWith, helement, hplaced,
    FrameTable.frame_of_getElem? hplaced]
  rfl

/-- An element that is not gone reports the frame at which it was placed. -/
theorem frame?_of_resolve_of_ne_gone {l : Layout α} {r : Resolved α} (h : l.resolve = .ok r)
    {id : ElementId} {e : Element α} (he : l.element? id = some e)
    (hvisible : e.params.visibility ≠ .gone) :
    r.frame? id = some ((l.placeAll r.order).frame id) := by
  rw [frame?_of_resolve h he, if_neg hvisible]

/-- What is no element reports no frame. -/
theorem frame?_eq_none_of_resolve {l : Layout α} {r : Resolved α} (h : l.resolve = .ok r)
    {id : ElementId} (hid : l.element? id = none) : r.frame? id = none := by
  have hnone : l.elements[id]? = none := hid
  rw [Resolved.frame?, (resolve_eq_ok h).2, List.getElem?_zipWith, hnone]
  rfl

/-- **Frames obey the rules.** Along both axes the reported frame of an element that is not gone is
where its rules, measured on reported frames, and its size put it; each of its edges is prescribed
at one position or left by all rules. -/
theorem reported_frame_obeys {l : Layout Coord} {r : Resolved Coord} (h : l.resolve = .ok r)
    {id : ElementId} {e : Element Coord} (he : l.element? id = some e)
    (hvisible : e.params.visibility ≠ .gone) :
    ∃ f, r.frame? id = some f ∧ (∀ a, l.Obeys r.frame? e.params f a) ∧
      ∀ edge, l.Leaves r.frame? e.params edge ∨
        ∃! position, l.Prescribes r.frame? e.params edge position := by
  obtain ⟨hs, -⟩ := resolve_eq_ok h
  have hframe : ∀ id e, l.element? id = some e → e.params.visibility ≠ .gone →
      r.frame? id = some ((l.placeAll r.order).frame id) := by
    intro id e he hvisible
    rw [frame?_of_resolve h he, if_neg hvisible]
  refine ⟨_, hframe id e he hvisible, fun a => ?_, leaves_or_prescribes hs hframe⟩
  rw [FrameTable.frame_of_getElem? (hs.isFixpoint_placeAll id e he)]
  exact obeys_place hs hframe e.params a

/-- The button of the form stands against the container at its end and below the field. -/
theorem reported_frame_obeys_sampleForm : ∃ r e f, sampleForm.resolve = .ok r ∧
    sampleForm.element? 0 = some e ∧ e.params.visibility ≠ .gone ∧ r.frame? 0 = some f ∧
    (∀ a, sampleForm.Obeys r.frame? e.params f a) ∧
    ∀ edge, sampleForm.Leaves r.frame? e.params edge ∨
      ∃! position, sampleForm.Prescribes r.frame? e.params edge position := by
  obtain ⟨r, hr⟩ := sampleForm_resolves
  obtain ⟨e, he, hvisible⟩ : ∃ e, sampleForm.element? 0 = some e ∧ e.params.visibility ≠ .gone :=
    ⟨_, rfl, by decide⟩
  obtain ⟨f, hf, h⟩ := reported_frame_obeys hr he hvisible
  exact ⟨r, e, f, hr, he, hvisible, hf, h⟩

end Layout
end AnchorLayout
