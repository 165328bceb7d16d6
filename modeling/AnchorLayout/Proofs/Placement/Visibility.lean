import AnchorLayout.Proofs.Dependency.Anchoring
import AnchorLayout.Proofs.Placement.Counterparts

/-!
# What visibility has to do with the layout

An invisible element is laid out as if it were visible. Of a gone element nothing counts but its
sibling rules, through which the verbs of others fall: it is placed, but no element ever reads
where, and its parent rules do not stop a verb that falls through it.
-/

namespace AnchorLayout
variable {α : Type}

/-- Whether a rule is anchored on a sibling. -/
def Rule.isSibling : Rule → Bool
  | sibling _ _ => true
  | parent _ => false

/-- What only sibling rules have is found among the sibling rules. -/
theorem Rule.filterMap_filter_isSibling {β : Type} {f : Rule → Option β}
    (hf : ∀ verb, f (.parent verb) = none) (rules : List Rule) :
    (rules.filter isSibling).filterMap f = rules.filterMap f := by
  rw [List.filterMap_filter]
  congr 1
  funext rule
  cases rule with
  | sibling verb anchor => rfl
  | parent verb => simp [isSibling, hf]

/-- Elements that no element can tell apart. If they are laid out, they differ at most in being
drawn; if they are gone, they have the same name and the same sibling rules in the same order. -/
inductive Element.LaidOutAlike : Element α → Element α → Prop
  | laidOut {name : Option String} {p : Params α} {visibility : Visibility}
      (h : p.visibility ≠ .gone) (h' : visibility ≠ .gone) :
      LaidOutAlike ⟨name, p⟩ ⟨name, { p with visibility }⟩
  | gone {name : Option String} {p p' : Params α} (h : p.visibility = .gone)
      (h' : p'.visibility = .gone)
      (hrules : p'.rules.filter Rule.isSibling = p.rules.filter Rule.isSibling) :
      LaidOutAlike ⟨name, p⟩ ⟨name, p'⟩

namespace Element.LaidOutAlike
variable {e e' : Element α}

theorem ties_eq (h : e.LaidOutAlike e') : e'.ties = e.ties := by
  cases h with
  | laidOut => rfl
  | gone _ _ hrules =>
    rw [ties, ties, ← Rule.filterMap_filter_isSibling (fun _ => rfl), hrules,
      Rule.filterMap_filter_isSibling fun _ => rfl]

theorem gone_iff (h : e.LaidOutAlike e') :
    e.params.visibility = .gone ↔ e'.params.visibility = .gone := by
  cases h with
  | laidOut h h' => exact iff_of_false h h'
  | gone h h' => exact iff_of_true h h'

end Element.LaidOutAlike

namespace Layout
variable {l l' : Layout α}

/-- An element falls through by its sibling rules. -/
theorem fallThrough?_eq_filter (l : Layout α) (verb : SiblingVerb) (e : Element α) :
    l.fallThrough? verb e =
      (e.params.rules.filter Rule.isSibling).reverse.findSome?
        (Rule.leadsTo? l.direction verb) := by
  rw [fallThrough?_eq_leadsTo?, ← List.head?_filterMap, ← List.head?_filterMap,
    List.filterMap_reverse, List.filterMap_reverse, Rule.filterMap_filter_isSibling fun _ => rfl]

/-- Two layouts of the same container with elements that no element can tell apart. -/
structure LaidOutAlike (l l' : Layout α) : Prop where
  size : l'.size = l.size
  padding : l'.padding = l.padding
  direction : l'.direction = l.direction
  elements : List.Forall₂ Element.LaidOutAlike l.elements l'.elements

namespace LaidOutAlike

/-- Elements that can not be told apart count the same along both axes. -/
theorem alike (h : l.LaidOutAlike l') (a : Axis) {e e' : Element α} (he : e.LaidOutAlike e') :
    Alike Eq a l l' e e' := by
  cases he with
  | @laidOut _ p _ hlaid hlaid' =>
    refine alike_of_matchesAlong (fun _ => h.direction) (iff_of_false hlaid hlaid') ?_
    exact ⟨by cases a <;> rfl, fun _ _ => rfl, rfl, Rule.forall₂_matches_self (p.rulesAlong a)⟩
  | gone hgone hgone' hrules =>
    refine ⟨iff_of_true hgone hgone', fun verb _ => optionRel_eq_iff.2 ?_, absurd hgone⟩
    rw [fallThrough?_eq_filter, fallThrough?_eq_filter, h.direction, hrules]

theorem counterparts (h : l.LaidOutAlike l') (a : Axis) : Counterparts Eq a l l' := by
  refine ⟨fun _ => h.direction, by rw [h.size], fun _ _ => by rw [h.padding], ?_⟩
  rintro id _ rfl
  exact optionRel_mono (fun _ _ he => h.alike a he) (getElem?_rel h.elements id)

theorem resolutionOrder_eq (h : l.LaidOutAlike l') : l'.resolutionOrder = l.resolutionOrder :=
  resolutionOrder_eq_of_ties (map_eq_of_forall₂ h.elements fun _ _ he => he.ties_eq)

end LaidOutAlike

variable [Scalar α] {r r' : Resolved α}

/-- The sample form with other data for its gone hint, and with an invisible field. The hint has
parent rules before, between and after its sibling rule, and is aligned with the container. -/
def sampleFormHidden : Layout Coord :=
  { sampleForm with
    elements :=
      [{ name := "button"
         params :=
          { width := .exact (.clamp 20), height := .exact (.clamp 10), margin := .none
            alignWithParentIfMissing := true
            rules := [.sibling .endOf 1, .sibling .below 2, .parent .alignParentBottom] } },
       { name := "hint"
         params :=
          { width := .matchParent, height := .exact (.clamp (-7)), margin := .uniform (.clamp 9)
            visibility := .gone
            alignWithParentIfMissing := true
            rules := [.parent .alignParentEnd, .sibling .below 3, .parent .alignParentTop] } },
       { name := "field"
         params :=
          { width := .matchParent, height := .exact (.clamp 10), margin := .uniform (.clamp 2)
            visibility := .invisible
            rules := [.sibling .below 1, .parent .alignParentStart] } },
       { name := "title"
         params :=
          { width := .exact (.clamp 41), height := .exact (.clamp 10), margin := .none
            rules := [.parent .centerHorizontal] } }] }

/-- **Hidden elements stay out of the way.** Two layouts may differ in whether elements are visible
or invisible, and in all of a gone element but its sibling rules: one resolves if and only if the
other does, and then in the same order and to the same frames. -/
theorem resolve_of_laidOutAlike (h : l.LaidOutAlike l') :
    ((∃ r, l.resolve = .ok r) ↔ ∃ r', l'.resolve = .ok r') ∧
    ∀ r r', l.resolve = .ok r → l'.resolve = .ok r' →
      r'.frames = r.frames ∧ r'.order = r.order := by
  have horder {order : List ElementId} :
      (∃ r, l.resolve = .ok r ∧ r.order = order) ↔
        ∃ r', l'.resolve = .ok r' ∧ r'.order = order := by
    rw [← resolutionOrder_eq_ok_iff, ← resolutionOrder_eq_ok_iff, h.resolutionOrder_eq]
  refine ⟨⟨?_, ?_⟩, fun r r' hr hr' => ⟨?_, ?_⟩⟩
  · rintro ⟨r, hr⟩
    obtain ⟨r', hr', -⟩ := horder.1 ⟨r, hr, rfl⟩
    exact ⟨r', hr'⟩
  · rintro ⟨r', hr'⟩
    obtain ⟨r, hr, -⟩ := horder.2 ⟨r', hr', rfl⟩
    exact ⟨r, hr⟩
  · apply List.ext_getElem?
    intro id
    rw [Resolved.frames, Resolved.frames, List.getElem?_map, List.getElem?_map]
    exact frame?_eq_of_counterparts h.counterparts hr hr' rfl
  · obtain ⟨s, hs, hsame⟩ := horder.1 ⟨r, hr, rfl⟩
    rw [hr'] at hs
    cases hs
    exact hsame

/-- The other data for the hint and the invisible field change nothing. -/
theorem resolve_of_laidOutAlike_sampleForm : sampleForm.LaidOutAlike sampleFormHidden ∧
    ∃ r r', sampleForm.resolve = .ok r ∧ sampleFormHidden.resolve = .ok r' ∧
      r'.frames = r.frames ∧ r'.order = r.order := by
  have h : sampleForm.LaidOutAlike sampleFormHidden := by
    refine ⟨rfl, rfl, rfl, .cons ?_ (.cons ?_ (.cons ?_ (.cons ?_ .nil)))⟩
    · exact .laidOut (by decide) (by decide)
    · exact .gone rfl rfl (by decide)
    · exact .laidOut (by decide) (by decide)
    · exact .laidOut (by decide) (by decide)
  obtain ⟨hiff, hsame⟩ := resolve_of_laidOutAlike h
  obtain ⟨r, hr⟩ := sampleForm_resolves
  obtain ⟨r', hr'⟩ := hiff.1 ⟨r, hr⟩
  exact ⟨h, r, r', hr, hr', hsame r r' hr hr'⟩

end Layout
end AnchorLayout
