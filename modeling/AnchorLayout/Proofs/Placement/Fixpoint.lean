import AnchorLayout.Proofs.Placement.FallThrough
import AnchorLayout.Proofs.Placement.Pins
import AnchorLayout.Proofs.Resolution

/-!
# The table of frames as a fixpoint

An element reads the frames of elements that stand before it in a schedule, even if it reads through
chains of gone elements. Hence what an element reads while the table is filled is already final: in
the finished table every element is placed where the table itself says it should be. No other table
has this property, so the schedule along which the elements are placed does not matter.
-/

namespace AnchorLayout
namespace Layout
variable {α : Type} [Scalar α] {l : Layout α} {t t' : FrameTable α} {order : List ElementId}

/-- Every element has the frame at which it is placed by the frames of the table. -/
def IsFixpoint (l : Layout α) (t : FrameTable α) : Prop :=
  ∀ id e, l.element? id = some e → t[id]? = some (l.place t e.params)

omit [Scalar α] in
/-- What an element reads stands in every order that holds its anchors, and theirs before them. -/
theorem mem_of_laidOutAnchor? (hfirst : AnchorsFirst l.anchors order) {id : ElementId}
    {e : Element α} (he : l.element? id = some e) (hanchors : l.anchors id ⊆ order)
    {verb : SiblingVerb} {anchor last : ElementId} (hrule : .sibling verb anchor ∈ e.params.rules)
    (hlast : l.laidOutAnchor? (verb.toward l.direction) anchor = some last) : last ∈ order := by
  have hanchor : anchor ∈ order := hanchors (dependsOn_iff.2 ⟨e, verb, he, hrule⟩)
  have hchain := fallsTo_of_laidOutWithin? hlast
  exact hchain.mem_of_closed (fun _ => hfirst.subset_of_mem) hanchor

/-- An element is placed by the frames of elements before it. -/
theorem place_eq_of_agree (hfirst : AnchorsFirst l.anchors order) {id : ElementId} {e : Element α}
    (he : l.element? id = some e) (hanchors : l.anchors id ⊆ order)
    (h : ∀ other ∈ order, t'[other]? = t[other]?) : l.place t' e.params = l.place t e.params := by
  apply place_congr
  intro verb anchor hrule last hlast
  have hmem := mem_of_laidOutAnchor? hfirst he hanchors hrule hlast
  rw [FrameTable.frame, FrameTable.frame, h last hmem]

theorem placeAll_concat (l : Layout α) (order : List ElementId) (new : ElementId) :
    l.placeAll (order ++ [new]) = l.placeInto (l.placeAll order) new := by
  rw [placeAll, List.foldl_append]
  rfl

/-- Placing further elements leaves the frames of those before them as they are. -/
theorem getElem?_placeAll_append {before after : List ElementId} (hnodup : (before ++ after).Nodup)
    {id : ElementId} (hid : id ∈ before) :
    (l.placeAll (before ++ after))[id]? = (l.placeAll before)[id]? := by
  induction after using List.reverseRecOn with
  | nil => rw [List.append_nil]
  | append_singleton after new ih =>
    rw [← List.append_assoc] at hnodup ⊢
    have hne : new ≠ id := by
      rintro rfl
      exact (List.nodup_append.1 hnodup).2.2 new (List.mem_append_left _ hid) new (by simp) rfl
    rw [placeAll_concat, getElem?_placeInto_of_ne _ _ hne, ih hnodup.of_append_left]

/-- What is placed along the beginning of a schedule stays as the finished beginning says. -/
theorem getElem?_placeAll (hfirst : AnchorsFirst l.anchors order) (hnodup : order.Nodup)
    {id : ElementId} {e : Element α} (hid : id ∈ order) (he : l.element? id = some e) :
    (l.placeAll order)[id]? = some (l.place (l.placeAll order) e.params) := by
  induction order using List.reverseRecOn generalizing id e with
  | nil => simp at hid
  | append_singleton order new ih =>
    have hsame : ∀ other ∈ order,
        (l.placeAll (order ++ [new]))[other]? = (l.placeAll order)[other]? :=
      fun other hother => getElem?_placeAll_append hnodup hother
    have hanchors : l.anchors id ⊆ order := by
      rcases List.mem_append.1 hid with hmem | hmem
      · exact hfirst.left.subset_of_mem hmem
      · obtain rfl := List.mem_singleton.1 hmem
        exact hfirst order id [] rfl
    rw [place_eq_of_agree hfirst.left he hanchors hsame]
    rcases List.mem_append.1 hid with hmem | hmem
    · rw [hsame id hmem]
      exact ih hfirst.left hnodup.of_append_left hmem he
    · obtain rfl := List.mem_singleton.1 hmem
      rw [placeAll_concat]
      exact getElem?_placeInto he (by simpa using lt_length_of_element? he)

/-- Placing along a schedule fills the table with a fixpoint. -/
theorem Schedule.isFixpoint_placeAll (hs : l.Schedule order) :
    l.IsFixpoint (l.placeAll order) := by
  intro id e he
  have hid : id ∈ order := hs.mem_iff.2 (lt_length_of_element? he)
  exact getElem?_placeAll hs.anchorsFirst hs.nodup hid he

/-- Two fixpoints agree along the beginning of a schedule. -/
theorem IsFixpoint.agree (ht : l.IsFixpoint t) (ht' : l.IsFixpoint t')
    (hfirst : AnchorsFirst l.anchors order) (hlt : ∀ id ∈ order, id < l.length) :
    ∀ id ∈ order, t'[id]? = t[id]? := by
  induction order using List.reverseRecOn with
  | nil => simp
  | append_singleton order new ih =>
    have hbefore := ih hfirst.left (fun id hid => hlt id (List.mem_append_left _ hid))
    intro id hid
    rcases List.mem_append.1 hid with hmem | hmem
    · exact hbefore id hmem
    · obtain rfl := List.mem_singleton.1 hmem
      obtain ⟨e, he⟩ := exists_element? (hlt id hid)
      rw [ht id e he, ht' id e he,
        place_eq_of_agree hfirst.left he (hfirst order id [] rfl) hbefore]

/-- With a schedule there is one fixpoint of the right length. -/
theorem IsFixpoint.eq_placeAll (ht : l.IsFixpoint t) (hlength : t.length = l.length)
    (hs : l.Schedule order) : t = l.placeAll order := by
  apply List.ext_getElem?
  intro id
  by_cases hid : id < l.length
  · have hagree := hs.isFixpoint_placeAll.agree ht hs.anchorsFirst fun _ => hs.mem_iff.1
    exact hagree id (hs.mem_iff.2 hid)
  · rw [List.getElem?_eq_none (by omega), List.getElem?_eq_none (by simpa using hid)]

/-- A form read from right to left. Its button stands at the end of a gone hint, which falls through
to nothing in that direction, and below a field that is anchored below the same hint and so comes
below the title. -/
def sampleForm : Layout Coord where
  size := ⟨.clamp 100, .clamp 60⟩
  padding := .uniform (.clamp 1)
  direction := .rtl
  elements :=
    [{ name := "button"
       params :=
        { width := .exact (.clamp 20), height := .exact (.clamp 10), margin := .none
          alignWithParentIfMissing := true
          rules := [.sibling .endOf 1, .sibling .below 2, .parent .alignParentBottom] } },
     { name := "hint"
       params :=
        { width := .exact (.clamp 30), height := .exact (.clamp 10), margin := .none
          visibility := .gone
          rules := [.sibling .below 3] } },
     { name := "field"
       params :=
        { width := .matchParent, height := .exact (.clamp 10), margin := .uniform (.clamp 2)
          rules := [.sibling .below 1, .parent .alignParentStart] } },
     { name := "title"
       params :=
        { width := .exact (.clamp 41), height := .exact (.clamp 10), margin := .none
          rules := [.parent .centerHorizontal] } }]

theorem sampleForm_resolves : ∃ r, sampleForm.resolve = .ok r :=
  exists_eq_ok_of_isOk (by decide +kernel)

/-- **The placement loop solves the rules.** It leaves the one table, of a frame for each element,
in which every element has the frame that the table itself prescribes for it, and it leaves the same
table along every schedule. What is reported is taken from this table. -/
theorem placeAll_order_unique {r : Resolved α} (h : l.resolve = .ok r) :
    l.IsFixpoint (l.placeAll r.order) ∧ (l.placeAll r.order).length = l.length ∧
    (∀ t : FrameTable α, t.length = l.length → l.IsFixpoint t → t = l.placeAll r.order) ∧
    (∀ order, l.Schedule order → l.placeAll order = l.placeAll r.order) ∧
    r.elements = List.zipWith Element.report l.elements (l.placeAll r.order) := by
  obtain ⟨hs, hreport⟩ := resolve_eq_ok h
  refine ⟨hs.isFixpoint_placeAll, length_placeAll l r.order, ?_, ?_, hreport⟩
  · intro t hlength ht
    exact ht.eq_placeAll hlength hs
  · intro order horder
    exact horder.isFixpoint_placeAll.eq_placeAll (length_placeAll l order) hs

theorem placeAll_order_unique_sampleForm : ∃ r, sampleForm.resolve = .ok r ∧
    sampleForm.IsFixpoint (sampleForm.placeAll r.order) ∧
    (∀ t : FrameTable Coord, t.length = sampleForm.length → sampleForm.IsFixpoint t →
      t = sampleForm.placeAll r.order) ∧
    ∀ order, sampleForm.Schedule order →
      sampleForm.placeAll order = sampleForm.placeAll r.order := by
  obtain ⟨r, hr⟩ := sampleForm_resolves
  obtain ⟨hfix, -, hunique, horder, -⟩ := placeAll_order_unique hr
  exact ⟨r, hr, hfix, hunique, horder⟩

end Layout
end AnchorLayout
