import AnchorLayout.Proofs.Dependency.Least
import AnchorLayout.Proofs.Placement.Counterparts

/-!
# Rules that commute

A rule writes at most one edge, and of the rules that write an edge the last decides. A verb that
falls through an element looks for rules that write the edge of the verb. So what the rules of an
element say, and where the element is fallen through, stays the same if rules that write different
edges change places, and rules that centre an axis may stand anywhere. The anchors of the element
stay the same as well, so the elements have the same schedules.
-/

namespace AnchorLayout

/-- The edge that a rule writes, if it writes one. -/
def Rule.edge? (d : Direction) : Rule → Option Edge
  | .sibling verb _ => some (verb.toward d).edge
  | .parent verb => (verb.toward d).edge?

/-- The same rules in an order in which those that write an edge follow each other as before. -/
structure Rule.Reordered (d : Direction) (rules rules' : List Rule) : Prop where
  perm : rules'.Perm rules
  writing : ∀ e, rules'.filter (·.edge? d = some e) = rules.filter (·.edge? d = some e)

namespace Rule
variable {d : Direction} {rules rules' : List Rule}

theorem Reordered.symm (h : Reordered d rules rules') : Reordered d rules' rules where
  perm := h.perm.symm
  writing := fun e => (h.writing e).symm

/-- A search from the end for rules that write a given edge finds the same. -/
theorem Reordered.findSome?_reverse {β : Type} {e : Edge} {f : Rule → Option β}
    (h : Reordered d rules rules') (hf : ∀ rule x, f rule = some x → rule.edge? d = some e) :
    rules'.reverse.findSome? f = rules.reverse.findSome? f := by
  have honly (rules : List Rule) :
      (rules.filter (·.edge? d = some e)).reverse.findSome? f = rules.reverse.findSome? f := by
    rw [← List.filter_reverse, findSome?_filter]
    congr 1
    funext rule
    cases hx : f rule with
    | none => simp
    | some x => simp [hf rule x hx]
  rw [← honly rules', h.writing, honly]

/-- A verb only falls through rules that write its own edge. -/
theorem edge?_of_leadsTo? {verb : SiblingVerb} {rule : Rule} {anchor : ElementId}
    (h : rule.leadsTo? d verb = some anchor) : rule.edge? d = some verb.edge := by
  cases rule with
  | sibling other a =>
    rw [leadsTo?, Option.ite_none_right_eq_some] at h
    rw [edge?, h.1]
  | parent other => cases h

end Rule

/-- An element, and the same element with its rules reordered. -/
inductive Element.Reordered {α : Type} (d : Direction) : Element α → Element α → Prop
  | mk {name : Option String} {p : Params α} {rules : List Rule}
      (h : Rule.Reordered d p.rules rules) : Reordered d ⟨name, p⟩ ⟨name, { p with rules }⟩

namespace Element.Reordered
variable {α : Type} {d : Direction} {e e' : Element α}

theorem symm (h : e.Reordered d e') : e'.Reordered d e := by
  obtain ⟨hrules⟩ := h
  exact .mk hrules.symm

theorem anchors_perm (h : e.Reordered d e') :
    (e'.params.rules.filterMap Rule.anchor?).Perm (e.params.rules.filterMap Rule.anchor?) := by
  obtain ⟨hrules⟩ := h
  exact hrules.perm.filterMap Rule.anchor?

theorem gone_iff (h : e.Reordered d e') :
    e.params.visibility = .gone ↔ e'.params.visibility = .gone := by
  obtain ⟨-⟩ := h
  exact Iff.rfl

end Element.Reordered

namespace Layout
variable {α : Type} {l l' : Layout α}

/-- A layout, and the same layout with the rules of each element reordered. -/
structure Reordered (l l' : Layout α) : Prop where
  size : l'.size = l.size
  padding : l'.padding = l.padding
  direction : l'.direction = l.direction
  elements : List.Forall₂ (Element.Reordered l.direction) l.elements l'.elements

namespace Reordered
variable {order : List ElementId}

theorem symm (h : l.Reordered l') : l'.Reordered l where
  size := h.size.symm
  padding := h.padding.symm
  direction := h.direction.symm
  elements := by
    rw [h.direction]
    exact (h.elements.imp fun _ _ he => he.symm).flip

theorem length_eq (h : l.Reordered l') : l'.length = l.length :=
  h.elements.length_eq.symm

theorem exists_element? (h : l.Reordered l') {id : ElementId} {e' : Element α}
    (he' : l'.element? id = some e') :
    ∃ e, l.element? id = some e ∧ e.Reordered l.direction e' := by
  obtain ⟨-, hnone⟩ | ⟨e, e'', he, hsome, hsame⟩ := optionRel_iff.1 (getElem?_rel h.elements id)
  · cases hnone.symm.trans he'
  · obtain rfl := Option.some.inj (hsome.symm.trans he')
    exact ⟨e, he, hsame⟩

/-- Elements keep their anchors, so schedules stay schedules. -/
theorem schedule (h : l.Reordered l') (hs : l.Schedule order) : l'.Schedule order where
  perm := by
    rw [ids, h.length_eq]
    exact hs.perm
  anchorsFirst := by
    intro before id after heq anchor hanchor
    obtain ⟨e', he'⟩ := Layout.exists_element? (DependsOn.lt_length hanchor)
    obtain ⟨e, he, hsame⟩ := h.exists_element? he'
    apply hs.anchorsFirst before id after heq
    rw [anchors_eq he'] at hanchor
    rw [anchors_eq he]
    exact hsame.anchors_perm.mem_iff.1 hanchor

theorem fallThrough?_eq (h : l.Reordered l') {e e' : Element α}
    (he : e.Reordered l.direction e') (verb : SiblingVerb) :
    l'.fallThrough? verb e' = l.fallThrough? verb e := by
  obtain ⟨hrules⟩ := he
  rw [fallThrough?_eq_leadsTo?, fallThrough?_eq_leadsTo?, h.direction]
  exact hrules.findSome?_reverse fun _ _ => Rule.edge?_of_leadsTo?

theorem laidOutAnchor?_eq (h : l.Reordered l') (verb : SiblingVerb) (anchor : ElementId) :
    l'.laidOutAnchor? verb anchor = l.laidOutAnchor? verb anchor := by
  rw [laidOutAnchor?, laidOutAnchor?, h.length_eq]
  refine (optionRel_eq_iff.1 (laidOutWithin?_rel ?_ (l.length + 1) rfl)).symm
  intro id id' hid
  subst hid
  refine optionRel_mono (fun e e' he => ?_) (getElem?_rel h.elements id)
  exact ⟨he.gone_iff, optionRel_eq_iff.2 (h.fallThrough?_eq he verb).symm⟩

end Reordered

variable [Scalar α] {t : FrameTable α} {p : Params α}

/-- A rule writes no edge but its own. -/
theorem edge?_of_written? {e : Edge} {rule : Rule} {x : α}
    (h : l.written? t p e rule = some x) : rule.edge? l.direction = some e := by
  cases rule with
  | sibling verb anchor =>
    simp only [written?, Option.ite_none_right_eq_some] at h
    rw [Rule.edge?, h.1]
  | parent verb =>
    simp only [written?, Option.ite_none_right_eq_some] at h
    exact h.1

namespace Reordered

/-- A rule writes the same, whatever the rules around it are. -/
theorem written?_eq (h : l.Reordered l') (t : FrameTable α) (p : Params α) (rules : List Rule)
    (e : Edge) : l'.written? t { p with rules } e = l.written? t p e := by
  have hparent : l'.parentEdge p.margin e = l.parentEdge p.margin e := by
    simp only [parentEdge, innerFrame, h.size, h.padding]
  funext rule
  cases rule with
  | sibling verb anchor => simp only [written?, h.direction, h.laidOutAnchor?_eq, hparent]
  | parent verb => simp only [written?, h.direction, hparent]

/-- Reordered rules say the same. -/
theorem pins_eq (h : l.Reordered l') (t : FrameTable α) {rules : List Rule}
    (hrules : Rule.Reordered l.direction p.rules rules) :
    l'.pins t { p with rules } = l.pins t p := by
  apply Pins.ext_along
  intro a
  apply Pins.along_eq
  · intro e _
    rw [edge?_pins, edge?_pins, h.written?_eq]
    exact hrules.findSome?_reverse fun _ _ => edge?_of_written?
  · rw [centered_pins, centered_pins]
    exact hrules.perm.any_eq

theorem place_eq (h : l.Reordered l') (t : FrameTable α) {e e' : Element α}
    (he : e.Reordered l.direction e') : l'.place t e'.params = l.place t e.params := by
  obtain ⟨hrules⟩ := he
  exact place_eq_of_pins h.size h.padding rfl rfl rfl (h.pins_eq t hrules)

theorem isFixpoint (h : l.Reordered l') (ht : l.IsFixpoint t) : l'.IsFixpoint t := by
  intro id e' he'
  obtain ⟨e, he, hsame⟩ := h.exists_element? he'
  rw [ht id e he, h.place_eq t hsame]

/-- Reordered elements report the same. -/
theorem report_eq (h : l.Reordered l') (t : FrameTable α) :
    List.zipWith Element.report l'.elements t = List.zipWith Element.report l.elements t := by
  have hreports : l'.elements.map Element.report = l.elements.map Element.report := by
    refine map_eq_of_forall₂ h.elements fun e e' he => ?_
    obtain ⟨-⟩ := he
    rfl
  have hzip (elements : List (Element α)) : List.zipWith Element.report elements t =
      List.zipWith id (elements.map Element.report) t := by
    rw [List.zipWith_map_left]
    rfl
  rw [hzip, hzip, hreports]

theorem resolve_eq (h : l.Reordered l') {r : Resolved α} (hr : l.resolve = .ok r) :
    l'.resolve = .ok r := by
  obtain ⟨hs, hreport⟩ := resolve_eq_ok hr
  have hs' := h.schedule hs
  obtain ⟨r', hr'⟩ := exists_resolve_iff.2 ⟨hs'.anchored, hs'.not_cyclic⟩
  obtain ⟨hleast, hreport'⟩ := resolve_eq_ok hr'
  have horder : r'.order = r.order :=
    Schedule.order_unique (resolutionOrder_eq_ok_iff.2 ⟨r, hr, rfl⟩)
      (resolutionOrder_eq_ok_iff.2 ⟨r', hr', rfl⟩) (h.symm.schedule hleast) hs'
  have htable : l'.placeAll r'.order = l.placeAll r.order := by
    have hfix := h.isFixpoint hs.isFixpoint_placeAll
    exact (hfix.eq_placeAll (by rw [length_placeAll, h.length_eq]) hleast).symm
  have helements : r'.elements = r.elements := by
    rw [hreport', hreport, htable, h.report_eq]
  rw [hr']
  obtain ⟨elements, order⟩ := r
  obtain ⟨elements', order'⟩ := r'
  cases helements
  cases horder
  rfl

end Reordered

/-- A desk with a title, a rail, a gone tip between them and a note before the tip, by the rules of
the tip and of the note. -/
def deskWith (tip note : List Rule) : Layout Coord where
  size := ⟨.clamp 60, .clamp 40⟩
  padding := .uniform (.clamp 1)
  elements :=
    [{ name := "title"
       params :=
        { width := .exact (.clamp 20), height := .exact (.clamp 4), margin := .none
          rules := [.parent .centerHorizontal] } },
     { name := "rail"
       params :=
        { width := .exact (.clamp 6), height := .exact (.clamp 20), margin := .none
          rules := [.parent .alignParentEnd, .sibling .below 0] } },
     { name := "tip"
       params :=
        { width := .matchParent, height := .exact (.clamp 3), margin := .none
          visibility := .gone
          rules := tip } },
     { name := "note"
       params :=
        { width := .matchParent, height := .exact (.clamp 5), margin := .uniform (.clamp 2)
          rules := note } }]

def sampleDesk : Layout Coord :=
  deskWith [.sibling .alignTop 1, .sibling .leftOf 0, .sibling .startOf 1]
    [.parent .alignParentRight, .parent .centerInParent, .sibling .leftOf 2, .sibling .alignTop 2]

/-- The sample desk with the rules of its tip and its note in another order. -/
def sampleDeskReordered : Layout Coord :=
  deskWith [.sibling .leftOf 0, .sibling .startOf 1, .sibling .alignTop 1]
    [.sibling .alignTop 2, .parent .alignParentRight, .sibling .leftOf 2, .parent .centerInParent]

/-- **Independent rules commute.** The rules of each element may be put in any order in which those
that write the same edge follow each other as before, and those that centre an axis stand anywhere:
the layout then resolves if and only if it did before, and to the same order and the same frames. -/
theorem resolve_eq_ok_iff_of_reordered (h : l.Reordered l') (r : Resolved α) :
    l'.resolve = .ok r ↔ l.resolve = .ok r :=
  ⟨h.symm.resolve_eq, h.resolve_eq⟩

/-- The note ends before the rail, on which both rules of the note fall through the tip. -/
theorem resolve_eq_ok_iff_of_reordered_sampleDesk : sampleDesk.Reordered sampleDeskReordered ∧
    ∃ r, sampleDesk.resolve = .ok r ∧ sampleDeskReordered.resolve = .ok r ∧
      r.frame? 3 = some ⟨.clamp 3, .clamp 7, .clamp 51, .clamp 12⟩ := by
  have hdesk : sampleDesk.Reordered sampleDeskReordered := by
    refine ⟨rfl, rfl, rfl, .cons ?_ (.cons ?_ (.cons ?_ (.cons ?_ .nil)))⟩
    · exact .mk ⟨.refl _, fun _ => rfl⟩
    · exact .mk ⟨.refl _, fun _ => rfl⟩
    · exact .mk ⟨by decide, fun e => by cases e <;> rfl⟩
    · exact .mk ⟨by decide, fun e => by cases e <;> rfl⟩
  obtain ⟨r, hr⟩ : ∃ r, sampleDesk.resolve = .ok r := exists_eq_ok_of_isOk (by decide +kernel)
  refine ⟨hdesk, r, hr, (resolve_eq_ok_iff_of_reordered hdesk r).2 hr, ?_⟩
  have hframe : (sampleDesk.resolve.toOption.bind (·.frame? 3)) =
      some ⟨.clamp 3, .clamp 7, .clamp 51, .clamp 12⟩ := by decide +kernel
  rwa [hr] at hframe

/-- The rules of the tip that write the same edge may not change places: the note would end before
the title. -/
example : (deskWith [.sibling .startOf 1, .sibling .leftOf 0] [.sibling .leftOf 2]).resolve ≠
    (deskWith [.sibling .leftOf 0, .sibling .startOf 1] [.sibling .leftOf 2]).resolve := by
  decide +kernel

end Layout
end AnchorLayout
