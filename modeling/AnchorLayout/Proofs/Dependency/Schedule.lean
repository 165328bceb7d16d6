import AnchorLayout.Layout.Dependency
import Mathlib.Data.Fintype.Card
import Mathlib.Data.List.Nodup
import Mathlib.Data.Set.Finite.List
import Mathlib.Logic.Relation

/-!
# Schedules

An element depends on its anchors. A schedule is an order of all elements in which every element
stands after all that it depends on; there is none if an element depends on itself, directly or
through others, and a finite set of elements each of which waits for another holds such an element.
-/

namespace AnchorLayout

/-- Every element of an order stands after all its anchors. -/
def AnchorsFirst (anchors : ElementId → List ElementId) (order : List ElementId) : Prop :=
  ∀ before id after, order = before ++ id :: after → anchors id ⊆ before

namespace AnchorsFirst
variable {anchors : ElementId → List ElementId} {order : List ElementId}

theorem nil : AnchorsFirst anchors [] := by
  intro before id after h
  simp at h

/-- An order may be continued by an element whose anchors it holds. -/
theorem concat (h : AnchorsFirst anchors order) {id : ElementId} (hid : anchors id ⊆ order) :
    AnchorsFirst anchors (order ++ [id]) := by
  intro before other after heq
  rcases List.eq_nil_or_concat' after with rfl | ⟨after, last, rfl⟩
  · obtain ⟨rfl, hlast⟩ := List.append_inj' heq rfl
    obtain rfl : id = other := by simpa using hlast
    exact hid
  · rw [← List.cons_append, ← List.append_assoc] at heq
    obtain ⟨rfl, -⟩ := List.append_inj' heq rfl
    exact h before other after rfl

/-- What stands in the order has its anchors there. -/
theorem subset_of_mem (h : AnchorsFirst anchors order) {id : ElementId} (hid : id ∈ order) :
    anchors id ⊆ order := by
  obtain ⟨before, after, rfl⟩ := List.append_of_mem hid
  exact fun anchor ha => List.mem_append_left _ (h before id after rfl ha)

/-- A beginning of the order again has anchors first. -/
theorem left {before after : List ElementId} (h : AnchorsFirst anchors (before ++ after)) :
    AnchorsFirst anchors before := by
  rintro first id rest rfl
  exact h first id (rest ++ after) (by simp)

/-- In an order without repetition an anchor has the smaller position. -/
theorem idxOf_lt (h : AnchorsFirst anchors order) {id anchor : ElementId} (hid : id ∈ order)
    (hnodup : order.Nodup) (ha : anchor ∈ anchors id) : order.idxOf anchor < order.idxOf id := by
  obtain ⟨before, after, rfl⟩ := List.append_of_mem hid
  have hbefore : anchor ∈ before := h before id after rfl ha
  have hnot : id ∉ before := by
    have := (List.nodup_append.1 hnodup).2.2
    exact fun hmem => this id hmem id (by simp) rfl
  rw [List.idxOf_append_of_mem hbefore, List.idxOf_append_of_notMem hnot, List.idxOf_cons_self]
  have := List.idxOf_lt_length_of_mem hbefore
  omega

end AnchorsFirst

/-- Among finitely many elements that each lead to another of them, one leads to itself. -/
theorem exists_transGen_self {β : Type} {r : β → β → Prop} {s : Set β} (hfin : s.Finite)
    (hne : s.Nonempty) (hnext : ∀ x ∈ s, ∃ y ∈ s, r x y) : ∃ x, Relation.TransGen r x x := by
  by_contra hnone
  have : Finite s := hfin
  have : IsTrans s fun x y => Relation.TransGen r y x := ⟨fun _ _ _ hxy hyz => hyz.trans hxy⟩
  have : Std.Irrefl fun x y : s => Relation.TransGen r (y : β) x :=
    ⟨fun x hx => hnone ⟨x, hx⟩⟩
  have hwf := Finite.wellFounded_of_trans_of_irrefl fun x y : s => Relation.TransGen r (y : β) x
  obtain ⟨x, -, hmin⟩ := hwf.has_min Set.univ ⟨⟨_, hne.some_mem⟩, trivial⟩
  obtain ⟨y, hy, hxy⟩ := hnext x x.2
  exact hmin ⟨y, hy⟩ trivial (.single hxy)

namespace Layout
variable {α : Type}

/-- An element has a rule that is anchored on another, or on itself. -/
def DependsOn (l : Layout α) (id anchor : ElementId) : Prop := anchor ∈ l.anchors id

/-- All anchors are elements. -/
def Anchored (l : Layout α) : Prop := ∀ id anchor, l.DependsOn id anchor → anchor < l.length

/-- An element depends on itself, directly or through others. -/
def Cyclic (l : Layout α) : Prop := ∃ id, Relation.TransGen l.DependsOn id id

/-- An order of all elements in which each stands after those it depends on. -/
structure Schedule (l : Layout α) (order : List ElementId) : Prop where
  perm : order.Perm l.ids
  anchorsFirst : AnchorsFirst l.anchors order

variable {l : Layout α}

theorem lt_length_of_element? {id : ElementId} {e : Element α} (h : l.element? id = some e) :
    id < l.length :=
  (List.getElem?_eq_some_iff.1 h).1

theorem exists_element? {id : ElementId} (h : id < l.length) : ∃ e, l.element? id = some e :=
  ⟨_, List.getElem?_eq_getElem h⟩

theorem anchors_eq {id : ElementId} {e : Element α} (h : l.element? id = some e) :
    l.anchors id = e.params.rules.filterMap Rule.anchor? := by
  rw [anchors, h]

/-- Only elements depend on others. -/
theorem DependsOn.lt_length {id anchor : ElementId} (h : l.DependsOn id anchor) :
    id < l.length := by
  cases he : l.element? id with
  | none => simp [DependsOn, anchors, he] at h
  | some e => exact lt_length_of_element? he

/-- A dependency comes from a sibling rule of the element. -/
theorem dependsOn_iff {id anchor : ElementId} :
    l.DependsOn id anchor ↔
      ∃ e verb, l.element? id = some e ∧ .sibling verb anchor ∈ e.params.rules := by
  constructor
  · intro h
    obtain ⟨e, he⟩ := exists_element? h.lt_length
    rw [DependsOn, anchors_eq he, List.mem_filterMap] at h
    obtain ⟨rule, hmem, hanchor⟩ := h
    cases rule with
    | sibling verb other =>
      obtain rfl : other = anchor := by simpa [Rule.anchor?] using hanchor
      exact ⟨e, verb, he, hmem⟩
    | parent verb => simp [Rule.anchor?] at hanchor
  · rintro ⟨e, verb, he, hmem⟩
    rw [DependsOn, anchors_eq he]
    exact List.mem_filterMap.2 ⟨_, hmem, rfl⟩

namespace Schedule
variable {order : List ElementId}

theorem mem_iff (h : l.Schedule order) {id : ElementId} : id ∈ order ↔ id < l.length := by
  rw [h.perm.mem_iff, ids, List.mem_range]

theorem nodup (h : l.Schedule order) : order.Nodup := h.perm.nodup_iff.2 List.nodup_range

/-- A layout with a schedule has no dangling anchor. -/
theorem anchored (h : l.Schedule order) : l.Anchored := fun _ _ hdep =>
  h.mem_iff.1 (h.anchorsFirst.subset_of_mem (h.mem_iff.2 hdep.lt_length) hdep)

/-- Along dependencies the position in a schedule falls. -/
theorem idxOf_lt (h : l.Schedule order) {id other : ElementId}
    (hdep : Relation.TransGen l.DependsOn id other) : order.idxOf other < order.idxOf id := by
  have hstep {id anchor : ElementId} (hdep : l.DependsOn id anchor) :
      order.idxOf anchor < order.idxOf id :=
    h.anchorsFirst.idxOf_lt (h.mem_iff.2 hdep.lt_length) h.nodup hdep
  induction hdep with
  | single hdep => exact hstep hdep
  | tail _ hdep ih => exact (hstep hdep).trans ih

/-- A layout with a schedule has no cycle. -/
theorem not_cyclic (h : l.Schedule order) : ¬ l.Cyclic := fun ⟨_, hid⟩ =>
  lt_irrefl _ (h.idxOf_lt hid)

end Schedule

/-- A cycle is carried over to another layout by a pairing of elements that follows dependencies. -/
theorem Cyclic.of_paired {β : Type} {l' : Layout β} {R : ElementId → ElementId → Prop}
    (hdep : ∀ id id' anchor, R id id' → l.DependsOn id anchor →
      ∃ anchor', R anchor anchor' ∧ l'.DependsOn id' anchor')
    (htotal : ∀ id < l.length, ∃ id', R id id') (hunique : ∀ id i j, R id i → R id j → i = j)
    (h : l.Cyclic) : l'.Cyclic := by
  have hpath {id id' last : ElementId} (hR : R id id') (h : Relation.TransGen l.DependsOn id last) :
      ∃ last', R last last' ∧ Relation.TransGen l'.DependsOn id' last' := by
    induction h with
    | single hstep =>
      obtain ⟨anchor', hanchor, hstep'⟩ := hdep _ _ _ hR hstep
      exact ⟨anchor', hanchor, .single hstep'⟩
    | tail _ hstep ih =>
      obtain ⟨middle', hmiddle, hpath'⟩ := ih
      obtain ⟨anchor', hanchor, hstep'⟩ := hdep _ _ _ hmiddle hstep
      exact ⟨anchor', hanchor, hpath'.tail hstep'⟩
  obtain ⟨id, hid⟩ := h
  obtain ⟨first, hfirst, -⟩ := Relation.TransGen.head'_iff.1 hid
  obtain ⟨id', hR⟩ := htotal id hfirst.lt_length
  obtain ⟨last', hlast, hcycle⟩ := hpath hR hid
  exact ⟨id', hunique id last' id' hlast hR ▸ hcycle⟩

/-- An order that can not be continued is a schedule, unless there is a cycle. -/
theorem schedule_of_maximal {order : List ElementId} (hanchored : l.Anchored)
    (hcyclic : ¬ l.Cyclic) (hnodup : order.Nodup) (hlt : ∀ id ∈ order, id < l.length)
    (hfirst : AnchorsFirst l.anchors order)
    (hmax : ∀ id < l.length, id ∉ order → ∃ anchor, l.DependsOn id anchor ∧ anchor ∉ order) :
    l.Schedule order := by
  have hall : ∀ id < l.length, id ∈ order := by
    by_contra! hleft
    refine hcyclic (exists_transGen_self (s := {id | id < l.length ∧ id ∉ order})
      ((Set.finite_lt_nat l.length).subset fun _ h => h.1) hleft ?_)
    rintro id ⟨hid, hmem⟩
    obtain ⟨anchor, hdep, hnot⟩ := hmax id hid hmem
    exact ⟨anchor, ⟨hanchored id anchor hdep, hnot⟩, hdep⟩
  refine ⟨(List.perm_ext_iff_of_nodup hnodup List.nodup_range).2 fun id => ?_, hfirst⟩
  simpa [ids] using ⟨hlt id, hall id⟩

end Layout
end AnchorLayout
