import AnchorLayout.Proofs.Dependency.Schedule

/-!
# What the order depends on

Elements are ordered by their anchors alone. Parent rules, verbs, sizes, margins and visibility play
no part; names only occur in errors. So two layouts whose elements have the same names and anchors
are ordered alike, or fail with the same error.
-/

namespace AnchorLayout
variable {α β : Type}

/-- What the order of the elements depends on: the name of an element and its anchors. -/
def Element.ties (e : Element α) : Option String × List ElementId :=
  (e.name, e.params.rules.filterMap Rule.anchor?)

namespace Layout
variable {l : Layout α} {l' : Layout β}

/-- Notes one anchor of an element. -/
def linkAnchor (l : Layout α) (g : Graph) (x : ElementId × ElementId) : Except LayoutError Graph :=
  if x.2 < l.length then .ok (g.link x.1 x.2)
  else .error (.danglingReference (l.label x.1) (indexLabel x.2))

/-- The graph is built from the ties of the elements. -/
theorem graph_eq (l : Layout α) :
    l.graph = ((l.elements.map Element.ties).zipIdx.flatMap fun x => x.1.2.map (x.2, ·)).foldlM
      l.linkAnchor (.edgeless l.length) := by
  have hanchors : (l.elements.map Element.ties).zipIdx.flatMap (fun x => x.1.2.map (x.2, ·)) =
      l.rules.filterMap fun x => x.2.anchor?.map (x.1, ·) := by
    simp [rules, Element.ties, List.zipIdx_map, List.flatMap_map, List.filterMap_flatMap,
      List.filterMap_map, List.map_filterMap]
  rw [hanchors, List.foldlM_filterMap, graph]
  congr 1
  funext g x
  obtain ⟨id, verb | verb⟩ := x <;> rfl

theorem element?_ties_eq (h : l'.elements.map Element.ties = l.elements.map Element.ties)
    (id : ElementId) : (l'.element? id).map Element.ties = (l.element? id).map Element.ties := by
  simpa only [List.getElem?_map, element?] using congrArg (·[id]?) h

/-- The anchors of an element are among its ties. -/
theorem anchors_eq_of_ties (h : l'.elements.map Element.ties = l.elements.map Element.ties) :
    l'.anchors = l.anchors := by
  funext id
  have hties := element?_ties_eq h id
  rw [anchors, anchors]
  cases he : l.element? id with
  | none =>
    rw [he, Option.map_none, Option.map_eq_none_iff] at hties
    rw [hties]
  | some e =>
    rw [he, Option.map_some, Option.map_eq_some_iff] at hties
    obtain ⟨e', he', hsame⟩ := hties
    rw [he']
    exact congrArg Prod.snd hsame

theorem length_eq_of_ties (h : l'.elements.map Element.ties = l.elements.map Element.ties) :
    l'.length = l.length := by
  simpa [length] using congrArg List.length h

/-- Elements are called by their ties. -/
theorem label_eq_of_ties (h : l'.elements.map Element.ties = l.elements.map Element.ties)
    (id : ElementId) : l'.label id = l.label id := by
  have hname := congrArg (Option.bind · Prod.fst) (element?_ties_eq h id)
  simp only [Option.bind_map] at hname
  exact congrArg (Option.getD · (indexLabel id)) hname

/-- Layouts whose elements have the same ties are ordered alike, or fail alike. -/
theorem resolutionOrder_eq_of_ties
    (h : l'.elements.map Element.ties = l.elements.map Element.ties) :
    l'.resolutionOrder = l.resolutionOrder := by
  have hlength := length_eq_of_ties h
  have hlabel : l'.label = l.label := funext (label_eq_of_ties h)
  have hlink : l'.linkAnchor = l.linkAnchor := by
    funext g x
    rw [linkAnchor, linkAnchor, hlength, hlabel]
  have hgraph : l'.graph = l.graph := by
    rw [graph_eq, graph_eq, h, hlength, hlink]
  rw [resolutionOrder, resolutionOrder, hgraph, hlabel]

/-- Layouts whose elements have the same ties have the same schedules. -/
theorem Schedule.of_ties {order : List ElementId} (hs : l.Schedule order)
    (h : l'.elements.map Element.ties = l.elements.map Element.ties) : l'.Schedule order where
  perm := by
    rw [ids, length_eq_of_ties h]
    exact hs.perm
  anchorsFirst := by
    rw [anchors_eq_of_ties h]
    exact hs.anchorsFirst

end Layout
end AnchorLayout
