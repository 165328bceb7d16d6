import AnchorLayout.Proofs.Placement.Axes
import AnchorLayout.Proofs.Placement.Edges
import Mathlib.Data.List.Forall2

/-!
# Elements that stand for each other

Elements of two layouts are paired by a relation. If along an axis the containers agree, and paired
elements have the same data and the same rules up to paired anchors, then paired elements have the
same edges along that axis. The two layouts may differ in everything else, and so in the order in
which they are resolved: the proof follows the schedule of one of them and reads both tables as
fixpoints. A gone element counts only by where it falls through.
-/

namespace AnchorLayout

/-- Paired options are both empty, or hold paired values. -/
theorem optionRel_iff {β γ : Type} {R : β → γ → Prop} {x : Option β} {y : Option γ} :
    Option.Rel R x y ↔ (x = none ∧ y = none) ∨ ∃ b c, x = some b ∧ y = some c ∧ R b c := by
  constructor
  · rintro (h | _)
    · exact .inr ⟨_, _, rfl, rfl, h⟩
    · exact .inl ⟨rfl, rfl⟩
  · rintro (⟨rfl, rfl⟩ | ⟨b, c, rfl, rfl, h⟩)
    · exact .none
    · exact .some h

theorem optionRel_eq_iff {β : Type} {x y : Option β} : Option.Rel Eq x y ↔ x = y := by
  rw [optionRel_iff]
  cases x <;> cases y <;> simp [eq_comm]

theorem optionRel_mono {β γ : Type} {R S : β → γ → Prop} (hRS : ∀ b c, R b c → S b c)
    {x : Option β} {y : Option γ} (h : Option.Rel R x y) : Option.Rel S x y := by
  cases h with
  | none => exact .none
  | some h => exact .some (hRS _ _ h)

/-- Paired lists have paired entries. -/
theorem getElem?_rel {β γ : Type} {S : β → γ → Prop} {xs : List β} {ys : List γ}
    (h : List.Forall₂ S xs ys) (i : Nat) : Option.Rel S xs[i]? ys[i]? := by
  induction h generalizing i with
  | nil => exact .none
  | cons hxy _ ih =>
    cases i with
    | zero => exact .some hxy
    | succ i => exact ih i

/-- What is in a list is paired with something in a paired list. -/
theorem exists_mem_of_forall₂ {β γ : Type} {S : β → γ → Prop} {xs : List β} {ys : List γ}
    (h : List.Forall₂ S xs ys) {x : β} (hx : x ∈ xs) : ∃ y ∈ ys, S x y := by
  obtain ⟨i, hi⟩ := List.mem_iff_getElem?.1 hx
  obtain ⟨hnone, -⟩ | ⟨x', y, hx', hy, hxy⟩ := optionRel_iff.1 (getElem?_rel h i)
  · simp [hi] at hnone
  · obtain rfl := Option.some.inj (hi.symm.trans hx')
    exact ⟨y, List.mem_of_getElem? hy, hxy⟩

/-- What paired entries have in common, the lists have in common. -/
theorem map_eq_of_forall₂ {β γ δ : Type} {S : β → γ → Prop} {f : β → δ} {g : γ → δ} {xs : List β}
    {ys : List γ} (h : List.Forall₂ S xs ys) (hfg : ∀ x y, S x y → g y = f x) :
    ys.map g = xs.map f := by
  induction h with
  | nil => rfl
  | @cons x y xs ys hxy _ ih => rw [List.map_cons, List.map_cons, hfg x y hxy, ih]

/-- Searches of paired lists find paired results. -/
theorem findSome?_rel {β γ δ ε : Type} {S : β → γ → Prop} {R : δ → ε → Prop} {f : β → Option δ}
    {g : γ → Option ε} {xs : List β} {ys : List γ} (h : List.Forall₂ S xs ys)
    (hfg : ∀ x y, S x y → Option.Rel R (f x) (g y)) :
    Option.Rel R (xs.findSome? f) (ys.findSome? g) := by
  induction h with
  | nil => exact .none
  | @cons x y xs ys hxy _ ih =>
    rw [List.findSome?_cons, List.findSome?_cons]
    obtain ⟨hx, hy⟩ | ⟨b, c, hx, hy, hbc⟩ := optionRel_iff.1 (hfg x y hxy)
    · rw [hx, hy]
      exact ih
    · rw [hx, hy]
      exact .some hbc

/-- A verb is reached from the same verbs in both directions, if the direction matters only where it
is the same. -/
theorem SiblingVerb.toward_eq_iff {d d' : Direction} {verb other : SiblingVerb}
    (h : verb.edge.axis = .horizontal → d' = d) :
    other.toward d' = verb ↔ other.toward d = verb := by
  by_cases haxis : other.edge.axis = verb.edge.axis
  · rw [toward_eq_toward fun hother => h (haxis ▸ hother)]
  · have hne (d : Direction) : other.toward d ≠ verb := by
      rintro rfl
      exact haxis (axis_edge_toward d other).symm
    simp [hne]

/-- Two rules with the same verb, and with paired anchors if they have any. -/
inductive Rule.Matches (R : ElementId → ElementId → Prop) : Rule → Rule → Prop
  | sibling {verb : SiblingVerb} {anchor anchor' : ElementId} (h : R anchor anchor') :
      Matches R (.sibling verb anchor) (.sibling verb anchor')
  | parent {verb : ParentVerb} : Matches R (.parent verb) (.parent verb)

namespace Rule.Matches
variable {R : ElementId → ElementId → Prop} {rule rule' : Rule}

/-- A rule matches itself if its anchor is paired with itself. -/
theorem of_anchor? (h : ∀ anchor, rule.anchor? = some anchor → R anchor anchor) :
    Matches R rule rule := by
  cases rule with
  | sibling verb anchor => exact .sibling (h anchor rfl)
  | parent verb => exact .parent

theorem verb_eq (h : Matches R rule rule') : rule'.verb = rule.verb := by
  cases h <;> rfl

theorem centers_eq (h : Matches R rule rule') : rule'.centers = rule.centers := by
  cases h <;> rfl

theorem along? (h : Matches R rule rule') (a : Axis) :
    Option.Rel (Matches R) (rule.along? a) (rule'.along? a) := by
  cases h with
  | @sibling verb _ _ h =>
    simp only [Rule.along?]
    split
    · exact .some (.sibling h)
    · exact .none
  | @parent verb =>
    simp only [Rule.along?]
    cases verb.along? a with
    | some verb => exact .some .parent
    | none => exact .none

theorem leadsTo? {d d' : Direction} {verb : SiblingVerb}
    (hd : verb.edge.axis = .horizontal → d' = d) (h : Matches R rule rule') :
    Option.Rel R (rule.leadsTo? d verb) (rule'.leadsTo? d' verb) := by
  cases h with
  | @sibling other _ _ h =>
    simp only [Rule.leadsTo?, SiblingVerb.toward_eq_iff hd]
    split
    · exact .some h
    · exact .none
  | parent => exact .none

end Rule.Matches

/-- Rules match themselves if every element is paired with itself. -/
theorem Rule.forall₂_matches_self (rules : List Rule) :
    List.Forall₂ (Rule.Matches Eq) rules rules :=
  List.forall₂_same.2 fun _ _ => .of_anchor? fun _ _ => rfl

namespace Params
variable {α : Type} {R : ElementId → ElementId → Prop} {a : Axis} {p p' : Params α}

theorem sibling_mem_rulesAlong {verb : SiblingVerb} {anchor : ElementId} :
    .sibling verb anchor ∈ p.rulesAlong a ↔
      .sibling verb anchor ∈ p.rules ∧ verb.edge.axis = a := by
  rw [rulesAlong, List.mem_filterMap]
  constructor
  · rintro ⟨rule, hmem, hrule⟩
    cases rule with
    | sibling other b =>
      rw [Rule.along?, Option.ite_none_right_eq_some] at hrule
      obtain ⟨haxis, hrule⟩ := hrule
      cases hrule
      exact ⟨hmem, haxis⟩
    | parent other => simp [Rule.along?] at hrule
  · rintro ⟨hmem, haxis⟩
    exact ⟨_, hmem, by simp [Rule.along?, haxis]⟩

/-- Two elements have the same data along an axis, and the same rules up to paired anchors. -/
structure MatchesAlong (R : ElementId → ElementId → Prop) (a : Axis) (p p' : Params α) : Prop where
  extent : p'.along a = p.along a
  margin : ∀ e, e.axis = a → p'.margin.on e = p.margin.on e
  alignWithParentIfMissing : p'.alignWithParentIfMissing = p.alignWithParentIfMissing
  rules : List.Forall₂ (Rule.Matches R) (p.rulesAlong a) (p'.rulesAlong a)

/-- Elements that match in all their rules match along each axis. -/
theorem matchesAlong_of_rules (hwidth : p'.width = p.width) (hheight : p'.height = p.height)
    (hmargin : p'.margin = p.margin)
    (hmissing : p'.alignWithParentIfMissing = p.alignWithParentIfMissing)
    (hrules : List.Forall₂ (Rule.Matches R) p.rules p'.rules) (a : Axis) :
    p.MatchesAlong R a p' where
  extent := by cases a <;> assumption
  margin := fun _ _ => by rw [hmargin]
  alignWithParentIfMissing := hmissing
  rules := List.rel_filterMap (fun _ _ h => h.along? a) hrules

end Params

namespace Layout
variable {α : Type} {R : ElementId → ElementId → Prop} {a : Axis} {l l' : Layout α}

/-- Walks along gone anchors keep step if paired elements are gone alike and fall through to paired
elements. -/
theorem laidOutWithin?_rel {β : Type} {l' : Layout β} {verb verb' : SiblingVerb}
    (h : ∀ id id', R id id' → Option.Rel (fun e e' =>
      (e.params.visibility = .gone ↔ e'.params.visibility = .gone) ∧
        Option.Rel R (l.fallThrough? verb e) (l'.fallThrough? verb' e'))
      (l.element? id) (l'.element? id'))
    (n : Nat) {id id' : ElementId} (hR : R id id') :
    Option.Rel R (l.laidOutWithin? verb n id) (l'.laidOutWithin? verb' n id') := by
  induction n generalizing id id' with
  | zero => exact .none
  | succ n ih =>
    rw [laidOutWithin?, laidOutWithin?]
    obtain ⟨he, he'⟩ | ⟨e, e', he, he', hgone, hnext⟩ := optionRel_iff.1 (h id id' hR)
    · rw [he, he']
      exact .none
    by_cases hvisible : e.params.visibility = .gone
    · simp only [he, he', hvisible, hgone.1 hvisible, ne_eq, not_true_eq_false, if_false]
      obtain ⟨hnext, hnext'⟩ | ⟨next, next', hnext, hnext', hR⟩ := optionRel_iff.1 hnext
      · rw [hnext, hnext']
        exact .none
      · rw [hnext, hnext']
        exact ih hR
    · have hvisible' : e'.params.visibility ≠ .gone := fun h => hvisible (hgone.2 h)
      simp only [he, he', hvisible, hvisible', ne_eq, not_false_eq_true, if_true]
      exact .some hR

/-- If every element is replaced by one that is gone alike and falls through to the same anchors,
then walks along gone anchors end at the same elements. -/
theorem laidOutAnchor?_eq_of_map {β : Type} {l' : Layout β} {verb verb' : SiblingVerb}
    (f : Element α → Element β) (helements : l'.elements = l.elements.map f)
    (hgone : ∀ e, (f e).params.visibility = .gone ↔ e.params.visibility = .gone)
    (hnext : ∀ e, l'.fallThrough? verb' (f e) = l.fallThrough? verb e) (anchor : ElementId) :
    l'.laidOutAnchor? verb' anchor = l.laidOutAnchor? verb anchor := by
  have hlength : l'.length = l.length := by rw [length, helements, List.length_map, length]
  rw [laidOutAnchor?, laidOutAnchor?, hlength]
  refine (optionRel_eq_iff.1 (laidOutWithin?_rel ?_ (l.length + 1) rfl)).symm
  rintro id _ rfl
  rw [element?, element?, helements, List.getElem?_map]
  cases l.elements[id]? with
  | none => exact .none
  | some e => exact .some ⟨(hgone e).symm, optionRel_eq_iff.2 (hnext e).symm⟩

/-- Two elements count the same along an axis. -/
structure Alike (R : ElementId → ElementId → Prop) (a : Axis) (l l' : Layout α)
    (e e' : Element α) : Prop where
  gone_iff : e.params.visibility = .gone ↔ e'.params.visibility = .gone
  fallThrough : ∀ verb, verb.edge.axis = a →
    Option.Rel R (l.fallThrough? verb e) (l'.fallThrough? verb e')
  laidOut : e.params.visibility ≠ .gone → e.params.MatchesAlong R a e'.params

/-- Two layouts agree along an axis as far as their paired elements reach. -/
structure Counterparts (R : ElementId → ElementId → Prop) (a : Axis) (l l' : Layout α) : Prop where
  direction : a = .horizontal → l'.direction = l.direction
  extent : l'.size.along a = l.size.along a
  padding : ∀ e, e.axis = a → l'.padding.on e = l.padding.on e
  elements : ∀ id id', R id id' →
    Option.Rel (Alike R a l l') (l.element? id) (l'.element? id')

/-- Elements with the same visibility and matching rules fall through alike. -/
theorem alike_of_matchesAlong {e e' : Element α} (hd : a = .horizontal → l'.direction = l.direction)
    (hgone : e.params.visibility = .gone ↔ e'.params.visibility = .gone)
    (h : e.params.MatchesAlong R a e'.params) : Alike R a l l' e e' := by
  refine ⟨hgone, fun verb hverb => ?_, fun _ => h⟩
  rw [fallThrough?_eq_findSome? l hverb, fallThrough?_eq_findSome? l' hverb]
  refine findSome?_rel (List.forall₂_reverse_iff.2 h.rules) fun rule rule' hrule => ?_
  exact hrule.leadsTo? fun haxis => hd (hverb ▸ haxis)

namespace Counterparts
variable {order order' : List ElementId}

theorem laidOutAnchor?_rel (h : Counterparts R a l l') (hs : l.Schedule order)
    (hs' : l'.Schedule order') {verb : SiblingVerb} (hverb : verb.edge.axis = a)
    {id id' : ElementId} (hR : R id id') :
    Option.Rel R (l.laidOutAnchor? verb id) (l'.laidOutAnchor? verb id') := by
  -- The walks have different bounds; a common one does for both.
  rw [← laidOutWithin?_eq_laidOutAnchor? hs (n := max l.length l'.length + 1) (by omega),
    ← laidOutWithin?_eq_laidOutAnchor? hs' (n := max l.length l'.length + 1) (by omega)]
  refine laidOutWithin?_rel (fun id id' hR => optionRel_mono ?_ (h.elements id id' hR)) _ hR
  intro e e' halike
  exact ⟨halike.gone_iff, halike.fallThrough verb hverb⟩

variable [Scalar α]

theorem parentEdge_eq (h : Counterparts R a l l') {margin margin' : Insets α} {e : Edge}
    (he : e.axis = a) (hmargin : margin'.on e = margin.on e) :
    l'.parentEdge margin' e = l.parentEdge margin e := by
  have hextent := h.extent
  have hpadding := h.padding e he
  subst he
  cases e <;>
    simp_all [parentEdge, innerFrame, Frame.inset, Frame.edge, Insets.on, Edge.inward, Edge.axis,
      Size.along]

variable {t t' : FrameTable α} {p p' : Params α} {e : Edge}

/-- What the rules of an element read along an axis has the same edges in both tables. -/
def ReadAlike (R : ElementId → ElementId → Prop) (a : Axis) (l : Layout α) (t t' : FrameTable α)
    (p : Params α) : Prop :=
  ∀ verb anchor, .sibling verb anchor ∈ p.rulesAlong a →
    ∀ id id', l.laidOutAnchor? (verb.toward l.direction) anchor = some id → R id id' →
      ∀ e, e.axis = a → (t'.frame id').edge e = (t.frame id).edge e

/-- Paired rules write the same. -/
theorem written?_eq (h : Counterparts R a l l') (hs : l.Schedule order) (hs' : l'.Schedule order')
    (hp : p.MatchesAlong R a p') (hread : ReadAlike R a l t t' p) (he : e.axis = a)
    {rule rule' : Rule} (hmem : rule ∈ p.rulesAlong a) (hrule : Rule.Matches R rule rule') :
    l'.written? t' p' e rule' = l.written? t p e rule := by
  have hparent := h.parentEdge_eq he (hp.margin e he)
  cases hrule with
  | parent =>
    simp only [written?, hparent]
    exact if_congr
      (ParentVerb.edge?_toward_eq_some_iff fun haxis => h.direction (he ▸ haxis)) rfl rfl
  | @sibling verb anchor anchor' hanchor =>
    have haxis := (Params.sibling_mem_rulesAlong.1 hmem).2
    have htoward : verb.toward l'.direction = verb.toward l.direction :=
      SiblingVerb.toward_eq_toward fun hh => h.direction (haxis ▸ hh)
    rw [← SiblingVerb.axis_edge_toward l.direction] at haxis
    have hrel := h.laidOutAnchor?_rel hs hs' haxis hanchor
    simp only [written?, htoward]
    obtain ⟨hid, hid'⟩ | ⟨id, id', hid, hid', hR⟩ := optionRel_iff.1 hrel
    · simp only [hid, hid', hp.alignWithParentIfMissing, hparent]
    · have hfacing := hread verb anchor hmem id id' hid hR (verb.toward l.direction).facing
        ((SiblingVerb.axis_facing _).trans haxis)
      simp only [hid, hid', siblingEdge, hfacing, hp.margin _ haxis]

/-- Paired elements pin the same edges, and centre the axis alike. -/
theorem along_pins_eq (h : Counterparts R a l l') (hs : l.Schedule order)
    (hs' : l'.Schedule order') (hp : p.MatchesAlong R a p') (hread : ReadAlike R a l t t' p) :
    (l'.pins t' p').along a = (l.pins t p).along a := by
  have hedge (e : Edge) (he : e.axis = a) : (l'.pins t' p').edge? e = (l.pins t p).edge? e := by
    have hmem := (List.forall₂_and_left _ _).2 ⟨fun _ => id, hp.rules⟩
    rw [edge?_pins_along, edge?_pins_along, he]
    refine (optionRel_eq_iff.1 (findSome?_rel (List.forall₂_reverse_iff.2 hmem) ?_)).symm
    rintro rule rule' ⟨hmem, hrule⟩
    exact optionRel_eq_iff.2 (h.written?_eq hs hs' hp hread he hmem hrule).symm
  have hcentered : ((l'.pins t' p').along a).centered = ((l.pins t p).along a).centered := by
    have hcenters : (p'.rulesAlong a).map Rule.centers = (p.rulesAlong a).map Rule.centers :=
      map_eq_of_forall₂ hp.rules fun _ _ hrule => hrule.centers_eq
    rw [centered_pins_along, centered_pins_along]
    simpa only [List.any_map, Function.comp_def] using congrArg (List.any · (· a)) hcenters
  exact Pins.along_eq hedge hcentered

/-- Paired elements are placed at the same edges. -/
theorem edge_place_eq (h : Counterparts R a l l') (hs : l.Schedule order) (hs' : l'.Schedule order')
    (hp : p.MatchesAlong R a p') (hread : ReadAlike R a l t t' p) (he : e.axis = a) :
    (l'.place t' p').edge e = (l.place t p).edge e := by
  have hplace := edge_place l t p a
  rw [← h.along_pins_eq hs hs' hp hread, ← hp.extent, ← h.extent,
    ← h.parentEdge_eq a.axis_start (hp.margin _ a.axis_start),
    ← h.parentEdge_eq a.axis_finish (hp.margin _ a.axis_finish), ← edge_place l' t' p' a,
    Prod.mk.injEq] at hplace
  obtain rfl | rfl := Axis.eq_start_or_eq_finish he
  · exact hplace.1.symm
  · exact hplace.2.symm

/-- In tables that solve the rules of their layouts, paired elements have the same edges. -/
theorem edge_frame_eq (h : Counterparts R a l l') (hs : l.Schedule order)
    (hs' : l'.Schedule order') (ht : l.IsFixpoint t) (ht' : l'.IsFixpoint t') {id id' : ElementId}
    (hR : R id id') {x : Element α} (hx : l.element? id = some x)
    (hvisible : x.params.visibility ≠ .gone) (he : e.axis = a) :
    (t'.frame id').edge e = (t.frame id).edge e := by
  -- Along the schedule of the first layout: what an element reads stands before it.
  induction hn : order.idxOf id using Nat.strong_induction_on generalizing id id' x e with
  | _ n ih =>
    obtain ⟨hx', -⟩ | ⟨y, x', hy, hx', halike⟩ := optionRel_iff.1 (h.elements id id' hR)
    · simp [hx] at hx'
    obtain rfl := Option.some.inj (hx.symm.trans hy)
    rw [FrameTable.frame_of_getElem? (ht id x hx), FrameTable.frame_of_getElem? (ht' id' x' hx')]
    refine h.edge_place_eq hs hs' (halike.laidOut hvisible) ?_ he
    intro verb anchor hrule last last' hlast hR' edge hedge
    obtain ⟨z, hz, hz'⟩ := (fallsTo_of_laidOutWithin? hlast).exists_element
    have hlt := idxOf_lt_of_laidOutAnchor? hs hx (Params.sibling_mem_rulesAlong.1 hrule).1 hlast
    exact ih _ (hn ▸ hlt) hR' hz hz' hedge rfl

/-- Paired elements report the same edges. -/
theorem edge_frame?_eq (h : Counterparts R a l l') {r r' : Resolved α} (hr : l.resolve = .ok r)
    (hr' : l'.resolve = .ok r') {id id' : ElementId} (hR : R id id') (he : e.axis = a) :
    (r'.frame? id').map (·.edge e) = (r.frame? id).map (·.edge e) := by
  obtain ⟨hs, -⟩ := resolve_eq_ok hr
  obtain ⟨hs', -⟩ := resolve_eq_ok hr'
  obtain ⟨hx, hx'⟩ | ⟨x, x', hx, hx', halike⟩ := optionRel_iff.1 (h.elements id id' hR)
  · rw [frame?_eq_none_of_resolve hr hx, frame?_eq_none_of_resolve hr' hx', Option.map_none]
  rw [frame?_of_resolve hr hx, frame?_of_resolve hr' hx', Option.map_some, Option.map_some]
  by_cases hgone : x.params.visibility = .gone
  · rw [if_pos hgone, if_pos (halike.gone_iff.1 hgone)]
  · have hgone' : x'.params.visibility ≠ .gone := fun h => hgone (halike.gone_iff.2 h)
    rw [if_neg hgone, if_neg hgone',
      h.edge_frame_eq hs hs' hs.isFixpoint_placeAll hs'.isFixpoint_placeAll hR hx hgone he]

end Counterparts

/-- Elements that are paired along both axes report the same frame. -/
theorem frame?_eq_of_counterparts (h : ∀ a, Counterparts R a l l') [Scalar α] {r r' : Resolved α}
    (hr : l.resolve = .ok r) (hr' : l'.resolve = .ok r') {id id' : ElementId} (hR : R id id') :
    r'.frame? id' = r.frame? id := by
  have hedge (e : Edge) := (h e.axis).edge_frame?_eq hr hr' hR rfl
  revert hedge
  cases r'.frame? id' <;> cases r.frame? id <;> intro hedge
  · rfl
  · simpa using hedge .left
  · simpa using hedge .left
  · exact congrArg some (Frame.ext_edge fun e => by simpa using hedge e)

end Layout
end AnchorLayout
