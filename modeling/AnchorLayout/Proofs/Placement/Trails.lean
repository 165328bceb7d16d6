import AnchorLayout.Proofs.Placement.FallThrough
import AnchorLayout.Proofs.Resolution

/-!
# The trail of a verb along gone elements

A verb that falls through gone elements leaves a trail: the elements that it meets, up to one that
is laid out or to one where it can not go on. Nothing bounds a trail, but the walk that looks for
its end gives up after one element more than the layout has. Every element on the way depends on
all that come after it. So without cycles none is met twice, no way has more elements than the
layout, and the walk, which would have to meet one more to give up, always comes to the end of the
trail.
-/

namespace AnchorLayout
namespace Layout
variable {α : Type} {l : Layout α} {verb : SiblingVerb} {n : Nat} {id : ElementId}
  {met met' : List ElementId} {last? other? : Option ElementId}

/-! ## Trails and walks -/

/-- A verb that is taken against an element meets, one after the other, the elements of a list and
ends at the one that is laid out, if it comes to one. -/
inductive Trail (l : Layout α) (verb : SiblingVerb) :
    ElementId → List ElementId → Option ElementId → Prop
  | missing {id : ElementId} (hid : l.length ≤ id) : Trail l verb id [] none
  | laidOut {id : ElementId} {e : Element α} (he : l.element? id = some e)
      (hvisible : e.params.visibility ≠ .gone) : Trail l verb id [id] (some id)
  | lost {id : ElementId} {e : Element α} (he : l.element? id = some e)
      (hgone : e.params.visibility = .gone) (hnone : ∀ next, ¬ l.LastAnchor verb e next) :
      Trail l verb id [id] none
  | through {id next : ElementId} {e : Element α} {met : List ElementId}
      {last? : Option ElementId} (he : l.element? id = some e)
      (hgone : e.params.visibility = .gone) (hnext : l.LastAnchor verb e next)
      (htail : Trail l verb next met last?) : Trail l verb id (id :: met) last?

/-- The walk along gone anchors for up to a number of elements, with those that it meets. A walk
that is over gives the element that is laid out, if it has come to one; a walk that has to give up
gives nothing. -/
def trailWithin (l : Layout α) (verb : SiblingVerb) :
    Nat → ElementId → List ElementId × Option (Option ElementId)
  | 0, _ => ([], none)
  | n + 1, id =>
    match l.element? id with
    | none => ([], some none)
    | some e =>
      if e.params.visibility ≠ .gone then ([id], some (some id))
      else match l.fallThrough? verb e with
        | none => ([id], some none)
        | some next =>
          let (met, ended) := l.trailWithin verb n next
          (id :: met, ended)

/-- Less what it meets, it is the walk that looks for the laid-out anchor. -/
theorem join_snd_trailWithin (l : Layout α) (verb : SiblingVerb) (n : Nat) (id : ElementId) :
    (l.trailWithin verb n id).2.join = l.laidOutWithin? verb n id := by
  fun_induction l.trailWithin verb n id with
  | case1 => rfl
  | case2 _ _ he => simp [laidOutWithin?, he]
  | case3 _ _ _ he hvisible => simp [laidOutWithin?, he, hvisible]
  | case4 _ _ _ he hgone hnone => simp [laidOutWithin?, he, hgone, hnone]
  | case5 _ _ _ he hgone _ hnext _ _ hrest ih =>
    rw [hrest] at ih
    simpa [laidOutWithin?, he, hgone, hnext] using ih

/-- A walk that is over has gone along a trail to its end. -/
theorem trail_of_trailWithin (h : l.trailWithin verb n id = (met, some last?)) :
    l.Trail verb id met last? := by
  fun_induction l.trailWithin verb n id generalizing met with
  | case1 => simp at h
  | case2 n id he =>
    obtain ⟨rfl, rfl⟩ : [] = met ∧ none = last? := by simpa using h
    exact .missing (List.getElem?_eq_none_iff.1 he)
  | case3 n id e he hvisible =>
    obtain ⟨rfl, rfl⟩ : [id] = met ∧ some id = last? := by simpa using h
    exact .laidOut he hvisible
  | case4 n id e he hgone hnone =>
    obtain ⟨rfl, rfl⟩ : [id] = met ∧ none = last? := by simpa using h
    refine .lost he (not_not.1 hgone) fun next hnext => ?_
    rw [fallThrough?_eq_some_iff.2 hnext] at hnone
    cases hnone
  | case5 n id e he hgone next hnext rest ended hrest ih =>
    obtain ⟨rfl, rfl⟩ : id :: rest = met ∧ ended = some last? := by simpa using h
    exact .through he (not_not.1 hgone) (fallThrough?_eq_some_iff.1 hnext) (ih hrest)

/-- A walk for one element more than are on a trail comes to its end. -/
theorem Trail.trailWithin_eq (h : l.Trail verb id met last?) (hn : met.length ≤ n) :
    l.trailWithin verb (n + 1) id = (met, some last?) := by
  induction h generalizing n with
  | missing hid => simp [trailWithin, element?, List.getElem?_eq_none hid]
  | laidOut he hvisible => simp [trailWithin, he, hvisible]
  | lost he hgone hnone =>
    have hnone := Option.eq_none_iff_forall_ne_some.2 fun next =>
      mt fallThrough?_eq_some_iff.1 (hnone next)
    simp [trailWithin, he, hgone, hnone]
  | through he hgone hnext _ ih =>
    obtain ⟨m, rfl⟩ : ∃ m, n = m + 1 := Nat.exists_eq_succ_of_ne_zero (by rintro rfl; simp at hn)
    have htail := ih (Nat.le_of_succ_le_succ hn)
    rw [trailWithin]
    simp [he, hgone, fallThrough?_eq_some_iff.2 hnext, htail]

/-- There is one trail from an element. -/
theorem Trail.unique (h : l.Trail verb id met last?) (h' : l.Trail verb id met' other?) :
    met = met' ∧ last? = other? := by
  -- A walk that is long enough for both comes to the ends of both.
  have heq := h.trailWithin_eq (Nat.le_add_right met.length met'.length)
  rw [h'.trailWithin_eq (Nat.le_add_left met'.length met.length)] at heq
  simpa [eq_comm] using heq

/-! ## No element is met twice -/

/-- A walk first meets the element at which it begins. -/
theorem head?_trailWithin {first : ElementId} (h : first ∈ (l.trailWithin verb n id).1.head?) :
    first = id := by
  revert h
  fun_cases l.trailWithin verb n id <;> simp [eq_comm]

/-- What a walk meets are elements. -/
theorem lt_length_of_mem_trailWithin {x : ElementId} (hx : x ∈ (l.trailWithin verb n id).1) :
    x < l.length := by
  fun_induction l.trailWithin verb n id with
  | case1 => simp at hx
  | case2 => simp at hx
  | case3 n id e he => exact List.mem_singleton.1 hx ▸ lt_length_of_element? he
  | case4 n id e he => exact List.mem_singleton.1 hx ▸ lt_length_of_element? he
  | case5 n id e he _ next _ rest ended hrest ih =>
    rw [hrest] at ih
    obtain rfl | hx := List.mem_cons.1 hx
    · exact lt_length_of_element? he
    · exact ih hx

/-- Each element that a walk meets depends on the next. -/
theorem isChain_trailWithin (l : Layout α) (verb : SiblingVerb) (n : Nat) (id : ElementId) :
    (l.trailWithin verb n id).1.IsChain l.DependsOn := by
  fun_induction l.trailWithin verb n id with
  | case1 => exact .nil
  | case2 => exact .nil
  | case3 => exact .singleton _
  | case4 => exact .singleton _
  | case5 n id e he hgone next hnext rest ended hrest ih =>
    rw [hrest] at ih
    refine List.isChain_cons.2 ⟨fun first hfirst => ?_, ih⟩
    obtain rfl : first = next := head?_trailWithin (by rwa [hrest])
    exact (fallThrough?_eq_some_iff.1 hnext).dependsOn he

/-- Without cycles a walk does not come back to an element. -/
theorem nodup_trailWithin (hcyclic : ¬ l.Cyclic) (verb : SiblingVerb) (n : Nat) (id : ElementId) :
    (l.trailWithin verb n id).1.Nodup := by
  have hpaths : (l.trailWithin verb n id).1.Pairwise (Relation.TransGen l.DependsOn) :=
    ((l.isChain_trailWithin verb n id).imp fun _ _ => .single).pairwise
  refine List.Pairwise.imp ?_ hpaths
  -- An element that is met again depends on itself.
  rintro x y hpath rfl
  exact hcyclic ⟨x, hpath⟩

/-- Without cycles a walk meets at most all elements. -/
theorem length_trailWithin_le (hcyclic : ¬ l.Cyclic) (verb : SiblingVerb) (n : Nat)
    (id : ElementId) : (l.trailWithin verb n id).1.length ≤ l.length := by
  have hsub : (l.trailWithin verb n id).1 ⊆ l.ids := fun x hx =>
    List.mem_range.2 (lt_length_of_mem_trailWithin hx)
  have hle := ((nodup_trailWithin hcyclic verb n id).subperm hsub).length_le
  rwa [ids, List.length_range] at hle

/-- A walk that gives up has met as many elements as it was allowed to. -/
theorem length_trailWithin_of_none (h : (l.trailWithin verb n id).2 = none) :
    (l.trailWithin verb n id).1.length = n := by
  fun_induction l.trailWithin verb n id with
  | case1 => rfl
  | case2 => cases h
  | case3 => cases h
  | case4 => cases h
  | case5 _ _ _ _ _ _ _ _ _ hrest ih =>
    rw [hrest] at ih
    rw [List.length_cons, ih h]

/-- Without cycles the walk for one element more than there are does not give up. -/
theorem exists_trailWithin_eq (hcyclic : ¬ l.Cyclic) (verb : SiblingVerb) (id : ElementId) :
    ∃ met, l.trailWithin verb (l.length + 1) id = (met, some (l.laidOutAnchor? verb id)) := by
  refine ⟨(l.trailWithin verb (l.length + 1) id).1, Prod.ext rfl ?_⟩
  rw [laidOutAnchor?, ← join_snd_trailWithin]
  cases hended : (l.trailWithin verb (l.length + 1) id).2 with
  | some last? => rfl
  | none =>
    -- The walk would have met one element more than there are.
    have hlength := length_trailWithin_of_none hended
    have hle := length_trailWithin_le hcyclic verb (l.length + 1) id
    omega

/-! ## The end of the trail -/

/-- A form read from right to left. Its field stands right of a counter, which is gone, as are a tip
and a badge; through them the verb falls to a list, by rules written in reading order or by sides.
A rule of the counter that comes to the same verb earlier, and later ones of the tip that come to
others, do not count. -/
def sampleTrail : Layout Coord where
  size := ⟨.clamp 100, .clamp 60⟩
  padding := .none
  direction := .rtl
  elements :=
    [{ name := "field"
       params :=
        { width := .exact (.clamp 20), height := .exact (.clamp 10), margin := .none
          rules := [.sibling .rightOf 1] } },
     { name := "counter"
       params :=
        { width := .exact (.clamp 5), height := .exact (.clamp 5), margin := .none
          visibility := .gone
          rules := [.sibling .rightOf 4, .sibling .startOf 2] } },
     { name := "tip"
       params :=
        { width := .exact (.clamp 5), height := .exact (.clamp 5), margin := .none
          visibility := .gone
          rules := [.sibling .rightOf 3, .sibling .endOf 4, .sibling .below 4] } },
     { name := "badge"
       params :=
        { width := .exact (.clamp 5), height := .exact (.clamp 5), margin := .none
          visibility := .gone
          rules := [.sibling .startOf 4] } },
     { name := "list"
       params :=
        { width := .exact (.clamp 30), height := .exact (.clamp 40), margin := .none
          rules := [.parent .centerInParent] } }]

/-- **The walk comes to the end of the trail.** In a layout whose anchors are elements and form no
cycle, every verb leaves one trail from every element, and the bounded walk goes along all of it to
the same end: it never gives up, and it meets no element twice. What it finds is laid out, and
stands before every element that has the first element of the trail as an anchor. -/
theorem trail_iff_laidOutAnchor? [Scalar α] (hanchored : l.Anchored) (hcyclic : ¬ l.Cyclic) :
    ∃ r, l.resolve = .ok r ∧ ∀ verb anchor, ∃ met,
      (∀ met' last?, l.Trail verb anchor met' last? ↔
        met' = met ∧ last? = l.laidOutAnchor? verb anchor) ∧
      l.trailWithin verb (l.length + 1) anchor = (met, some (l.laidOutAnchor? verb anchor)) ∧
      met.Nodup ∧
      ∀ last, l.laidOutAnchor? verb anchor = some last →
        (∃ e, l.element? last = some e ∧ e.params.visibility ≠ .gone) ∧
        ∀ id, l.DependsOn id anchor →
          ∃ before after, r.order = before ++ id :: after ∧ last ∈ before := by
  obtain ⟨r, hr⟩ := exists_resolve_iff.2 ⟨hanchored, hcyclic⟩
  obtain ⟨hs, -⟩ := resolve_eq_ok hr
  refine ⟨r, hr, fun verb anchor => ?_⟩
  obtain ⟨met, hwalk⟩ := exists_trailWithin_eq hcyclic verb anchor
  have htrail := trail_of_trailWithin hwalk
  refine ⟨met, fun met' last? => ⟨fun h => h.unique htrail, ?_⟩, hwalk, ?_, fun last hlast => ?_⟩
  · rintro ⟨rfl, rfl⟩
    exact htrail
  · have hnodup := nodup_trailWithin hcyclic verb (l.length + 1) anchor
    rwa [hwalk] at hnodup
  · have hchain := fallsTo_of_laidOutWithin? hlast
    refine ⟨hchain.exists_element, fun id hdep => ?_⟩
    obtain ⟨before, after, heq⟩ := List.append_of_mem (hs.mem_iff.2 hdep.lt_length)
    exact ⟨before, after, heq, hchain.mem_before (heq ▸ hs.anchorsFirst) hdep⟩

/-- From the counter the verb of the field meets all gone elements, and the list at the end, which
stands before the field in the order. -/
theorem trail_iff_laidOutAnchor?_sampleTrail :
    (sampleTrail.Anchored ∧ ¬ sampleTrail.Cyclic) ∧ sampleTrail.DependsOn 0 1 ∧
    sampleTrail.Trail .rightOf 1 [1, 2, 3, 4] (some 4) ∧
    sampleTrail.trailWithin .rightOf 6 1 = ([1, 2, 3, 4], some (some 4)) ∧
    ∃ r before after, sampleTrail.resolve = .ok r ∧ r.order = before ++ 0 :: after ∧ 4 ∈ before := by
  have hresolves : sampleTrail.Anchored ∧ ¬ sampleTrail.Cyclic :=
    exists_resolve_iff.1 (exists_eq_ok_of_isOk (by decide +kernel))
  have hdep : sampleTrail.DependsOn 0 1 := by
    change 1 ∈ sampleTrail.anchors 0
    decide +kernel
  have hlast : sampleTrail.laidOutAnchor? .rightOf 1 = some 4 := by decide +kernel
  have hwalk : sampleTrail.trailWithin .rightOf 6 1 = ([1, 2, 3, 4], some (some 4)) := by
    decide +kernel
  obtain ⟨r, hr, hall⟩ := trail_iff_laidOutAnchor? hresolves.1 hresolves.2
  obtain ⟨met, htrail, hmet, -, hfinds⟩ := hall .rightOf 1
  obtain rfl : [1, 2, 3, 4] = met := congrArg Prod.fst (hwalk.symm.trans hmet)
  obtain ⟨before, after, horder, hbefore⟩ := (hfinds 4 hlast).2 0 hdep
  exact ⟨hresolves, hdep, (htrail _ _).2 ⟨rfl, hlast.symm⟩, hwalk, r, before, after, hr, horder,
    hbefore⟩

end Layout
end AnchorLayout
