import AnchorLayout.Proofs.Dependency.Order

/-!
# The graph of a layout

Noting the rules of a layout one after the other gives a graph whose two sides agree and whose
anchors are those of the elements. It fails exactly if some anchor is no element, and then at the
first rule, by declaration, that has such an anchor.
-/

namespace AnchorLayout

/-- The anchor that a rule gives to an element. -/
def anchorFor (id : ElementId) (x : ElementId × Rule) : Option ElementId :=
  if x.1 = id then x.2.anchor? else none

/-- The element that a rule makes depend on an anchor. -/
def dependentOn (anchor : ElementId) (x : ElementId × Rule) : Option ElementId :=
  if x.2.anchor? = some anchor then some x.1 else none

/-- Each rule is counted once on both sides. -/
theorem count_filterMap_dependentOn (rules : List (ElementId × Rule)) (id anchor : ElementId) :
    (rules.filterMap (dependentOn anchor)).count id =
      (rules.filterMap (anchorFor id)).count anchor := by
  induction rules with
  | nil => rfl
  | cons x rules ih =>
    obtain ⟨other, rule⟩ := x
    cases rule with
    | parent verb => simpa [dependentOn, anchorFor, Rule.anchor?] using ih
    | sibling verb a =>
      by_cases hid : other = id <;> by_cases ha : a = anchor <;>
        simp [dependentOn, anchorFor, Rule.anchor?, hid, ha, ih]

namespace Graph
variable {g : Graph} {id anchor : ElementId}

theorem anchorsOf_link (hid : id < g.anchors.length) (other : ElementId) :
    (g.link id anchor).anchorsOf other =
      g.anchorsOf other ++ if id = other then [anchor] else [] := by
  by_cases heq : id = other
  · subst heq
    simp [anchorsOf, link, List.getElem?_eq_getElem hid]
  · simp [anchorsOf, link, heq]

theorem dependentsOf_link (hanchor : anchor < g.dependents.length) (other : ElementId) :
    (g.link id anchor).dependentsOf other =
      g.dependentsOf other ++ if anchor = other then [id] else [] := by
  by_cases heq : anchor = other
  · subst heq
    simp [dependentsOf, link, List.getElem?_eq_getElem hanchor]
  · simp [dependentsOf, link, heq]

/-- A graph in which some rules are noted. -/
structure Notes (g : Graph) (n : Nat) (rules : List (ElementId × Rule)) : Prop where
  length_anchors : g.anchors.length = n
  length_dependents : g.dependents.length = n
  anchorsOf : ∀ id, g.anchorsOf id = rules.filterMap (anchorFor id)
  dependentsOf : ∀ anchor, g.dependentsOf anchor = rules.filterMap (dependentOn anchor)

theorem notes_edgeless (n : Nat) : (edgeless n).Notes n [] := by
  refine ⟨by simp [edgeless], by simp [edgeless], ?_, ?_⟩
  · intro id
    by_cases hid : id < n <;> simp [Graph.anchorsOf, edgeless, hid]
  · intro anchor
    by_cases hanchor : anchor < n <;> simp [Graph.dependentsOf, edgeless, hanchor]

end Graph

namespace Layout
variable {α : Type} {l : Layout α}

/-- The first rule whose anchor is no element, by its element and that anchor. -/
def FirstDangling (l : Layout α) (id anchor : ElementId) : Prop :=
  ∃ before verb after, l.rules = before ++ (id, .sibling verb anchor) :: after ∧
    l.length ≤ anchor ∧ ∀ x ∈ before, ∀ a, x.2.anchor? = some a → a < l.length

theorem mem_rules {id : ElementId} {rule : Rule} :
    (id, rule) ∈ l.rules ↔ ∃ e, l.element? id = some e ∧ rule ∈ e.params.rules := by
  simp [rules, element?, List.mem_zipIdx_iff_getElem?, and_comm]

/-- The rules of one element, found among all rules, give its anchors. -/
theorem filterMap_anchorFor (l : Layout α) (id : ElementId) :
    l.rules.filterMap (anchorFor id) = l.anchors id := by
  have hzip (es : List (Element α)) :
      es.zipIdx.flatMap (fun x => (x.1.params.rules.map (x.2, ·)).filterMap (anchorFor id)) =
        (es[id]?.map (·.params.rules.filterMap Rule.anchor?)).getD [] := by
    induction es using List.reverseRecOn with
    | nil => rfl
    | append_singleton es e ih =>
      rw [List.zipIdx_append, List.flatMap_append, ih]
      rcases Nat.lt_trichotomy id es.length with hlt | rfl | hgt
      · have hne : es.length ≠ id := by omega
        simp [anchorFor, List.filterMap_map, Function.comp_def, List.getElem?_append_left hlt, hne]
      · simp [anchorFor, List.filterMap_map, Function.comp_def]
      · have hne : es.length ≠ id := by omega
        have hlength : (es ++ [e]).length ≤ id := by
          rw [List.length_append, List.length_singleton]
          exact hgt
        have hnone := List.getElem?_eq_none hlength
        simp [anchorFor, List.filterMap_map, Function.comp_def, hgt.le, hne, hnone]
  rw [rules, List.filterMap_flatMap, hzip, anchors, element?]
  cases l.elements[id]? <;> rfl

/-- Noting a rule whose anchor is an element. -/
theorem notes_linkRule {g : Graph} {noted : List (ElementId × Rule)} {x : ElementId × Rule}
    (h : g.Notes l.length noted) (hid : x.1 < l.length)
    (hanchor : ∀ a, x.2.anchor? = some a → a < l.length) :
    ∃ g', l.linkRule g x = .ok g' ∧ g'.Notes l.length (noted ++ [x]) := by
  obtain ⟨id, rule⟩ := x
  cases rule with
  | parent verb =>
    refine ⟨g, rfl, h.length_anchors, h.length_dependents, ?_, ?_⟩
    · simp [h.anchorsOf, anchorFor, Rule.anchor?]
    · simp [h.dependentsOf, dependentOn, Rule.anchor?]
  | sibling verb anchor =>
    have hlt : anchor < l.length := hanchor anchor rfl
    refine ⟨g.link id anchor, by simp [linkRule, hlt], ?_, ?_, ?_, ?_⟩
    · simpa [Graph.link] using h.length_anchors
    · simpa [Graph.link] using h.length_dependents
    · intro other
      rw [Graph.anchorsOf_link (h.length_anchors ▸ hid), h.anchorsOf, List.filterMap_append]
      by_cases heq : id = other <;> simp [anchorFor, Rule.anchor?, heq]
    · intro other
      rw [Graph.dependentsOf_link (h.length_dependents ▸ hlt), h.dependentsOf,
        List.filterMap_append]
      by_cases heq : anchor = other <;> simp [dependentOn, Rule.anchor?, heq]

theorem notes_foldlM {g : Graph} {noted rules : List (ElementId × Rule)}
    (h : g.Notes l.length noted) (hid : ∀ x ∈ rules, x.1 < l.length)
    (hanchor : ∀ x ∈ rules, ∀ a, x.2.anchor? = some a → a < l.length) :
    ∃ g', rules.foldlM l.linkRule g = .ok g' ∧ g'.Notes l.length (noted ++ rules) := by
  induction rules generalizing g noted with
  | nil => exact ⟨g, rfl, by simpa using h⟩
  | cons x rules ih =>
    simp only [List.forall_mem_cons] at hid hanchor
    obtain ⟨g₁, hg₁, h₁⟩ := notes_linkRule h hid.1 hanchor.1
    obtain ⟨g₂, hg₂, h₂⟩ := ih h₁ hid.2 hanchor.2
    refine ⟨g₂, ?_, by simpa using h₂⟩
    rw [List.foldlM_cons, hg₁]
    exact hg₂

theorem fst_lt_length {x : ElementId × Rule} (hx : x ∈ l.rules) : x.1 < l.length := by
  obtain ⟨e, he, -⟩ := mem_rules.1 hx
  exact lt_length_of_element? he

theorem anchored_iff_rules :
    l.Anchored ↔ ∀ x ∈ l.rules, ∀ a, x.2.anchor? = some a → a < l.length := by
  constructor
  · rintro h ⟨id, rule⟩ hx a ha
    apply h id a
    rw [DependsOn, ← filterMap_anchorFor, List.mem_filterMap]
    exact ⟨_, hx, by simpa [anchorFor] using ha⟩
  · intro h id a hdep
    rw [DependsOn, ← filterMap_anchorFor, List.mem_filterMap] at hdep
    obtain ⟨x, hx, ha⟩ := hdep
    by_cases heq : x.1 = id
    · exact h x hx a (by simpa [anchorFor, heq] using ha)
    · simp [anchorFor, heq] at ha

/-- Without dangling anchors the graph is built, and it is coherent. -/
theorem Anchored.exists_graph (h : l.Anchored) :
    ∃ g, l.graph = .ok g ∧ g.Coherent ∧ g.length = l.length ∧ g.anchorsOf = l.anchors := by
  obtain ⟨g, hg, hnotes⟩ := notes_foldlM (Graph.notes_edgeless l.length) (fun _ => fst_lt_length)
    (anchored_iff_rules.1 h)
  rw [List.nil_append] at hnotes
  have hanchors : g.anchorsOf = l.anchors := by
    funext id
    rw [hnotes.anchorsOf, filterMap_anchorFor]
  refine ⟨g, hg, ⟨?_, ?_⟩, hnotes.length_anchors, hanchors⟩
  · intro id anchor hmem
    rw [hanchors] at hmem
    rw [Graph.length, hnotes.length_anchors]
    exact h id anchor hmem
  · intro id anchor
    rw [hnotes.dependentsOf, hnotes.anchorsOf, count_filterMap_dependentOn]

/-- The first dangling anchor is reported. -/
theorem FirstDangling.graph_eq {id anchor : ElementId} (h : l.FirstDangling id anchor) :
    l.graph = .error (.danglingReference (l.label id) (indexLabel anchor)) := by
  obtain ⟨before, verb, after, heq, hge, hbefore⟩ := h
  have hid : ∀ x ∈ before, x.1 < l.length := by
    intro x hx
    exact fst_lt_length (heq ▸ List.mem_append_left _ hx)
  obtain ⟨g, hg, -⟩ := notes_foldlM (Graph.notes_edgeless l.length) hid hbefore
  have hrule : l.linkRule g (id, .sibling verb anchor) =
      .error (.danglingReference (l.label id) (indexLabel anchor)) := by
    simp [linkRule, Nat.not_lt.2 hge]
  rw [graph, heq, List.foldlM_append, hg]
  change List.foldlM l.linkRule g ((id, .sibling verb anchor) :: after) = _
  rw [List.foldlM_cons, hrule]
  rfl

/-- If some anchor is no element, there is a first one. -/
theorem exists_firstDangling (h : ¬ l.Anchored) : ∃ id anchor, l.FirstDangling id anchor := by
  let dangles : ElementId × Rule → Bool := fun x => x.2.anchor?.any (l.length ≤ ·)
  have hnot {x : ElementId × Rule} :
      dangles x = false ↔ ∀ a, x.2.anchor? = some a → a < l.length := by
    cases hx : x.2.anchor? <;> simp [dangles, hx]
  cases hfind : l.rules.find? dangles with
  | none =>
    refine absurd (anchored_iff_rules.2 fun x hx => hnot.1 ?_) h
    simpa using List.find?_eq_none.1 hfind x hx
  | some x =>
    obtain ⟨hx, before, after, heq, hbefore⟩ := List.find?_eq_some_iff_append.1 hfind
    obtain ⟨id, verb | verb⟩ := x
    · rename_i anchor
      refine ⟨id, anchor, before, verb, after, heq, by simpa [dangles, Rule.anchor?] using hx, ?_⟩
      intro x hx
      exact hnot.1 (by simpa using hbefore x hx)
    · simp [dangles, Rule.anchor?] at hx

end Layout
end AnchorLayout
