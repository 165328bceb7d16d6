import AnchorLayout.Proofs.Placement.Counterparts

/-!
# What the frame of an element depends on

The edges of an element along an axis follow from what the layout says about that axis. The frame
of an element follows from the container and from the elements that it reaches along its anchors.
Both are statements about two layouts that differ elsewhere, and that may be resolved in different
orders.
-/

namespace AnchorLayout

/-- Two elements have the same data along an axis, whatever they have along the other. -/
structure Params.SameAlong {α : Type} (a : Axis) (p p' : Params α) : Prop where
  extent : p'.along a = p.along a
  margin : ∀ e, e.axis = a → p'.margin.on e = p.margin.on e
  visibility : p'.visibility = p.visibility
  alignWithParentIfMissing : p'.alignWithParentIfMissing = p.alignWithParentIfMissing
  rules : p'.rulesAlong a = p.rulesAlong a

theorem Params.SameAlong.matchesAlong {α : Type} {a : Axis} {p p' : Params α}
    (h : p.SameAlong a p') : p.MatchesAlong Eq a p' where
  extent := h.extent
  margin := h.margin
  alignWithParentIfMissing := h.alignWithParentIfMissing
  rules := by
    rw [h.rules]
    exact Rule.forall₂_matches_self _

namespace Layout
variable {α : Type} {l l' : Layout α} {a : Axis}

/-! ## One axis -/

/-- Elements with the same number stand for each other. -/
theorem counterparts_of_sameAlong (hdirection : a = .horizontal → l'.direction = l.direction)
    (hextent : l'.size.along a = l.size.along a)
    (hpadding : ∀ e, e.axis = a → l'.padding.on e = l.padding.on e)
    (helements : List.Forall₂ (fun e e' => e.params.SameAlong a e'.params) l.elements l'.elements) :
    Counterparts Eq a l l' := by
  refine ⟨hdirection, hextent, hpadding, ?_⟩
  rintro id _ rfl
  refine optionRel_mono (fun x x' hsame => ?_) (getElem?_rel helements id)
  exact alike_of_matchesAlong hdirection (by rw [hsame.visibility]) hsame.matchesAlong

/-- A heading, a gone spacer below it, a caption below the spacer, and a centred aside that stands
to the right of the caption. -/
def sampleColumn : Layout Coord where
  size := ⟨.clamp 100, .clamp 60⟩
  padding := .uniform (.clamp 1)
  elements :=
    [{ name := "caption"
       params :=
        { width := .exact (.clamp 20), height := .exact (.clamp 10), margin := .none
          rules := [.sibling .below 2] } },
     { name := "heading"
       params :=
        { width := .exact (.clamp 30), height := .matchParent, margin := .none
          rules := [.parent .alignParentBottom] } },
     { name := "spacer"
       params :=
        { width := .exact (.clamp 30), height := .exact (.clamp 10), margin := .none
          visibility := .gone
          rules := [.sibling .below 1] } },
     { name := "aside"
       params :=
        { width := .exact (.clamp 10), height := .exact (.clamp 10), margin := .none
          rules := [.sibling .rightOf 0, .parent .centerInParent] } }]

/-- The same column in a narrower container that is read from right to left. Now the heading is
placed by the aside, so the aside is resolved first and not last. -/
def sampleColumnNarrow : Layout Coord where
  size := ⟨.clamp 40, .clamp 60⟩
  padding := ⟨.clamp 0, .clamp 1, .clamp 7, .clamp 1⟩
  direction := .rtl
  elements :=
    [{ name := "caption"
       params :=
        { width := .matchParent, height := .exact (.clamp 10), margin := .none
          rules := [.parent .alignParentStart, .sibling .below 2, .sibling .alignEnd 1] } },
     { name := "heading"
       params :=
        { width := .exact (.clamp 3), height := .matchParent
          margin := ⟨.clamp 2, .clamp 0, .clamp 2, .clamp 0⟩
          rules := [.parent .alignParentBottom, .sibling .endOf 3] } },
     { name := "spacer"
       params :=
        { width := .exact (.clamp 30), height := .exact (.clamp 10), margin := .none
          visibility := .gone
          rules := [.sibling .below 1] } },
     { name := "aside"
       params :=
        { width := .exact (.clamp 10), height := .exact (.clamp 10), margin := .none
          rules := [.parent .centerVertical] } }]

variable [Scalar α] {r r' : Resolved α}

/-- **The axes are separate.** If two layouts have the same data along an axis, then every element
has the same edges along it, whatever the layouts say about the other axis. The direction counts
only for the horizontal axis. -/
theorem reported_edges_eq_of_sameAlong (h : l.resolve = .ok r) (h' : l'.resolve = .ok r')
    (hdirection : a = .horizontal → l'.direction = l.direction)
    (hextent : l'.size.along a = l.size.along a)
    (hpadding : ∀ e, e.axis = a → l'.padding.on e = l.padding.on e)
    (helements : List.Forall₂ (fun e e' => e.params.SameAlong a e'.params) l.elements l'.elements) :
    ∀ id < l.length, ∃ f f', r.frame? id = some f ∧ r'.frame? id = some f' ∧
      ∀ e, e.axis = a → f'.edge e = f.edge e := by
  intro id hid
  have hlength : l'.length = l.length := helements.length_eq.symm
  obtain ⟨x, hx⟩ := exists_element? hid
  obtain ⟨x', hx'⟩ := exists_element? (hlength ▸ hid)
  have hframe := frame?_of_resolve h hx
  have hframe' := frame?_of_resolve h' hx'
  refine ⟨_, _, hframe, hframe', fun e he => ?_⟩
  have hedge := (counterparts_of_sameAlong hdirection hextent hpadding helements).edge_frame?_eq
    h h' (rfl : id = id) he
  rw [hframe, hframe'] at hedge
  exact Option.some.inj hedge

/-- The column keeps its vertical edges in the narrow container. -/
theorem reported_edges_eq_of_sameAlong_sampleColumn : ∃ r r', sampleColumn.resolve = .ok r ∧
    sampleColumnNarrow.resolve = .ok r' ∧
    List.Forall₂ (fun e e' => e.params.SameAlong .vertical e'.params)
      sampleColumn.elements sampleColumnNarrow.elements ∧
    ∀ id < sampleColumn.length, ∃ f f', r.frame? id = some f ∧ r'.frame? id = some f' ∧
      ∀ e, e.axis = .vertical → f'.edge e = f.edge e := by
  obtain ⟨r, hr⟩ : ∃ r, sampleColumn.resolve = .ok r := exists_eq_ok_of_isOk (by decide +kernel)
  obtain ⟨r', hr'⟩ : ∃ r, sampleColumnNarrow.resolve = .ok r :=
    exists_eq_ok_of_isOk (by decide +kernel)
  have hpadding (e : Edge) (he : e.axis = .vertical) :
      sampleColumnNarrow.padding.on e = sampleColumn.padding.on e := by
    cases e <;> first | rfl | cases he
  have hsame : List.Forall₂ (fun e e' => e.params.SameAlong .vertical e'.params)
      sampleColumn.elements sampleColumnNarrow.elements := by
    refine .cons ?_ (.cons ?_ (.cons ?_ (.cons ?_ .nil))) <;> refine ⟨rfl, ?_, rfl, rfl, rfl⟩ <;>
      intro e he <;> cases e <;> first | rfl | cases he
  exact ⟨r, r', hr, hr', hsame,
    reported_edges_eq_of_sameAlong hr hr' (by decide) rfl hpadding hsame⟩

/-! ## What an element reaches -/

/-- An element is in both layouts, with the same parameters. -/
def Keeps (l l' : Layout α) (id : ElementId) : Prop :=
  ∃ e e', l.element? id = some e ∧ l'.element? id = some e' ∧ e'.params = e.params

omit [Scalar α] in
/-- Elements of a set that holds the anchors of all of them stand for themselves. -/
theorem counterparts_of_closed (hsize : l'.size = l.size) (hpadding : l'.padding = l.padding)
    (hdirection : l'.direction = l.direction) {s : Set ElementId}
    (hs : ∀ id ∈ s, l.Keeps l' id ∧ ∀ anchor, l.DependsOn id anchor → anchor ∈ s) (a : Axis) :
    Counterparts (fun id id' => id ∈ s ∧ id = id') a l l' := by
  refine ⟨fun _ => hdirection, by rw [hsize], fun _ _ => by rw [hpadding], ?_⟩
  rintro id _ ⟨hid, rfl⟩
  obtain ⟨⟨e, e', he, he', hparams⟩, hanchors⟩ := hs id hid
  rw [he, he']
  refine .some (alike_of_matchesAlong (fun _ => hdirection) (by rw [hparams]) ?_)
  rw [hparams]
  refine Params.matchesAlong_of_rules rfl rfl rfl rfl (List.forall₂_same.2 fun rule hrule => ?_) a
  refine .of_anchor? fun anchor hanchor => ⟨hanchors anchor ?_, rfl⟩
  rw [DependsOn, anchors_eq he]
  exact List.mem_filterMap.2 ⟨rule, hrule, hanchor⟩

/-- A footer below the field of the sample form. -/
def sampleFooter : Element Coord where
  name := "footer"
  params :=
    { width := .matchParent, height := .exact (.clamp 5), margin := .none
      rules := [.sibling .below 2] }

/-- The sample form with a wider button, a field that is no longer anchored on the hint, and the
footer. -/
def sampleFormEdited : Layout Coord :=
  { sampleForm with
    elements :=
      [{ name := "button"
         params :=
          { width := .exact (.clamp 25), height := .exact (.clamp 10), margin := .none
            alignWithParentIfMissing := true
            rules := [.sibling .endOf 1, .sibling .below 2, .parent .alignParentBottom] } },
       { name := "hint"
         params :=
          { width := .exact (.clamp 30), height := .exact (.clamp 10), margin := .none
            visibility := .gone
            rules := [.sibling .below 3] } },
       { name := "field"
         params :=
          { width := .matchParent, height := .exact (.clamp 10), margin := .uniform (.clamp 2)
            rules := [.parent .alignParentStart] } },
       { name := "title"
         params :=
          { width := .exact (.clamp 41), height := .exact (.clamp 10), margin := .none
            rules := [.parent .centerHorizontal] } },
       sampleFooter] }

/-- **Frames are local.** Let two layouts have the same container. Elements that are the same in
both, and are anchored only on each other, have the same frames in both. So an element only moves if
it or something that it depends on, directly or through others, has been edited, and elements that
are appended move none of those before them. -/
theorem reported_frames_local (h : l.resolve = .ok r) (h' : l'.resolve = .ok r')
    (hsize : l'.size = l.size) (hpadding : l'.padding = l.padding)
    (hdirection : l'.direction = l.direction) :
    (∀ s : Set ElementId,
      (∀ id ∈ s, l.Keeps l' id ∧ ∀ anchor, l.DependsOn id anchor → anchor ∈ s) →
      ∀ id ∈ s, ∃ f, r.frame? id = some f ∧ r'.frame? id = some f) ∧
    (∀ id, r'.frame? id ≠ r.frame? id →
      ∃ edited, Relation.ReflTransGen l.DependsOn id edited ∧ ¬ l.Keeps l' edited) ∧
    (∀ added, l'.elements = l.elements ++ added →
      ∀ id < l.length, ∃ f, r.frame? id = some f ∧ r'.frame? id = some f) := by
  have hclosed (s : Set ElementId)
      (hs : ∀ id ∈ s, l.Keeps l' id ∧ ∀ anchor, l.DependsOn id anchor → anchor ∈ s) :
      ∀ id ∈ s, ∃ f, r.frame? id = some f ∧ r'.frame? id = some f := by
    intro id hid
    obtain ⟨e, -, he, -, -⟩ := (hs id hid).1
    have heq := frame?_eq_of_counterparts
      (counterparts_of_closed hsize hpadding hdirection hs) h h' ⟨hid, rfl⟩
    exact ⟨_, frame?_of_resolve h he, heq.trans (frame?_of_resolve h he)⟩
  refine ⟨hclosed, ?_, ?_⟩
  · intro id hmoved
    by_contra! hkept
    obtain ⟨f, hf, hf'⟩ := hclosed {other | Relation.ReflTransGen l.DependsOn id other}
      (fun other hother => ⟨hkept other hother, fun _ hdep => hother.tail hdep⟩) id .refl
    exact hmoved (hf'.trans hf.symm)
  · intro added hadded
    refine hclosed {id | id < l.length} fun id hid => ⟨?_, fun anchor hdep => ?_⟩
    · obtain ⟨e, he⟩ := exists_element? hid
      refine ⟨e, e, he, ?_, rfl⟩
      rw [element?, hadded, List.getElem?_append_left hid]
      exact he
    · exact (resolve_eq_ok h).1.anchored id anchor hdep

/-- In the edited form hint and title stay where they are, and an element that moved depends on an
edited one. The footer alone moves nothing. -/
theorem reported_frames_local_sampleForm : ∃ r, sampleForm.resolve = .ok r ∧
    (∃ r', sampleFormEdited.resolve = .ok r' ∧
      (∀ id ∈ ({1, 3} : Set ElementId), ∃ f, r.frame? id = some f ∧ r'.frame? id = some f) ∧
      ∀ id, r'.frame? id ≠ r.frame? id →
        ∃ edited, Relation.ReflTransGen sampleForm.DependsOn id edited ∧
          ¬ sampleForm.Keeps sampleFormEdited edited) ∧
    ∃ r', { sampleForm with elements := sampleForm.elements ++ [sampleFooter] }.resolve = .ok r' ∧
      ∀ id < sampleForm.length, ∃ f, r.frame? id = some f ∧ r'.frame? id = some f := by
  obtain ⟨r, hr⟩ := sampleForm_resolves
  obtain ⟨redited, hedited⟩ : ∃ r, sampleFormEdited.resolve = .ok r :=
    exists_eq_ok_of_isOk (by decide +kernel)
  obtain ⟨rlonger, hlonger⟩ :
      ∃ r, { sampleForm with elements := sampleForm.elements ++ [sampleFooter] }.resolve = .ok r :=
    exists_eq_ok_of_isOk (by decide +kernel)
  obtain ⟨hclosed, hmoved, -⟩ := reported_frames_local hr hedited rfl rfl rfl
  obtain ⟨-, -, happended⟩ := reported_frames_local hr hlonger rfl rfl rfl
  refine ⟨r, hr, ⟨redited, hedited, hclosed {1, 3} ?_, hmoved⟩,
    rlonger, hlonger, happended [sampleFooter] rfl⟩
  rintro id (rfl | rfl)
  · exact ⟨⟨_, _, rfl, rfl, rfl⟩, by simp [DependsOn, anchors, sampleForm, element?, Rule.anchor?]⟩
  · exact ⟨⟨_, _, rfl, rfl, rfl⟩, by simp [DependsOn, anchors, sampleForm, element?, Rule.anchor?]⟩

end Layout
end AnchorLayout
