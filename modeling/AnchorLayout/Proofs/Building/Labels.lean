import AnchorLayout.Proofs.Building.Runs
import AnchorLayout.Proofs.Placement.Fixpoint
import AnchorLayout.Tracker

/-!
# Labels of a layout that was built

Names do not repeat, and neither do numbers; but a name may look like a number. The labels of a layout
tell its elements apart exactly if no element is named like the number of an element that has no
name.
-/

namespace AnchorLayout.Layout

/-- A number is read back from its digits. -/
theorem indexLabel_inj {i j : ElementId} : indexLabel i = indexLabel j ↔ i = j := by
  refine ⟨fun h => ?_, fun h => congrArg indexLabel h⟩
  have htext : Nat.repr i = Nat.repr j := (String.append_right_inj "#").1 h
  have hdigits : Nat.toDigits 10 i = Nat.toDigits 10 j := by
    rw [← Nat.toList_repr, htext, Nat.toList_repr]
  calc i = Nat.ofDigitChars 10 (Nat.toDigits 10 i) 0 := Nat.ofDigitChars_ten_toDigits.symm
    _ = Nat.ofDigitChars 10 (Nat.toDigits 10 j) 0 := by rw [hdigits]
    _ = j := Nat.ofDigitChars_ten_toDigits

section
variable {α : Type} {l : Layout α} {i j : ElementId} {x y : Element α}

/-- The labels of all elements in order. -/
def labels (l : Layout α) : List String := l.ids.map l.label

/-- No element is named like the number of an element that has no name. -/
def Unmistakable (l : Layout α) : Prop :=
  ∀ id < l.length, (l.element? id).bind (·.name) = none → l.find? (indexLabel id) = none

instance (l : Layout α) : Decidable l.Unmistakable :=
  inferInstanceAs (Decidable (∀ id < l.length, _ → _))

theorem label_eq (hx : l.element? i = some x) : l.label i = x.name.getD (indexLabel i) := by
  rw [label, hx, Option.bind_some]

theorem nodup_labels_iff :
    l.labels.Nodup ↔ ∀ i < l.length, ∀ j < l.length, l.label i = l.label j → i = j := by
  rw [labels, ids, List.nodup_map_iff_inj_on List.nodup_range]
  simp only [List.mem_range]

/-- Where names do not repeat, a name has one element. -/
theorem eq_of_name_eq (h : l.givenNames.Nodup) (hx : l.element? i = some x)
    (hy : l.element? j = some y) {name : String} (hxname : x.name = some name)
    (hyname : y.name = some name) : i = j := by
  have hpairwise := List.pairwise_filterMap.1 h
  have hnot {i j : ElementId} {x y : Element α} (hlt : i < j) (hx : l.element? i = some x)
      (hy : l.element? j = some y) (hxname : x.name = some name) : y.name ≠ some name := by
    intro hyname
    obtain ⟨hi, rfl⟩ := List.getElem?_eq_some_iff.1 hx
    obtain ⟨hj, rfl⟩ := List.getElem?_eq_some_iff.1 hy
    exact List.pairwise_iff_getElem.1 hpairwise i j hi hj hlt name hxname name hyname rfl
  rcases Nat.lt_trichotomy i j with hlt | heq | hgt
  · exact absurd hyname (hnot hlt hx hy hxname)
  · exact heq
  · exact absurd hxname (hnot hgt hy hx hyname)

/-- Where names do not repeat, labels tell the elements apart exactly if no name is mistakable for a
number. -/
theorem label_inj_iff_unmistakable (h : l.givenNames.Nodup) :
    (∀ i < l.length, ∀ j < l.length, l.label i = l.label j → i = j) ↔ l.Unmistakable := by
  constructor
  · intro hinj id hid hxname
    obtain ⟨x, hx⟩ := exists_element? hid
    rw [hx, Option.bind_some] at hxname
    rw [find?_eq_none_iff]
    intro hmem
    obtain ⟨y, hy, hyname⟩ := List.mem_map.1 hmem
    obtain ⟨other, hother⟩ := List.mem_iff_getElem?.1 hy
    have hlabel : l.label id = l.label other := by
      rw [label_eq hx, label_eq hother, hxname, hyname]
      rfl
    obtain rfl := hinj id hid other (lt_length_of_element? hother) hlabel
    obtain rfl : x = y := Option.some.inj (hx.symm.trans hother)
    rw [hxname] at hyname
    cases hyname
  · intro hfree i hi j hj hlabel
    obtain ⟨x, hx⟩ := exists_element? hi
    obtain ⟨y, hy⟩ := exists_element? hj
    rw [label_eq hx, label_eq hy] at hlabel
    -- A name is no number of an element without a name, so both have one or neither has.
    have hnot {i j : ElementId} {x y : Element α} (hx : l.element? i = some x)
        (hxname : x.name = none) (hy : l.element? j = some y) : y.name ≠ some (indexLabel i) := by
      intro hyname
      have hnone : l.find? (indexLabel i) = none :=
        hfree i (lt_length_of_element? hx) (by rw [hx, Option.bind_some, hxname])
      refine find?_eq_none_iff.1 hnone ?_
      exact List.mem_map.2 ⟨y, List.mem_of_getElem? hy, hyname⟩
    cases hxname : x.name with
    | none =>
      cases hyname : y.name with
      | none =>
        rw [hxname, hyname] at hlabel
        exact indexLabel_inj.1 hlabel
      | some name =>
        rw [hxname, hyname] at hlabel
        exact absurd (hyname.trans (congrArg some hlabel.symm)) (hnot hx hxname hy)
    | some name =>
      cases hyname : y.name with
      | none =>
        rw [hxname, hyname] at hlabel
        exact absurd (hxname.trans (congrArg some hlabel)) (hnot hy hyname hx)
      | some other =>
        rw [hxname, hyname] at hlabel
        exact eq_of_name_eq h hx hy hxname (hyname.trans (congrArg some hlabel.symm))

/-- An element is called the same before and after the layout is resolved. -/
theorem labels_of_resolve [Scalar α] {r : Resolved α} (h : l.resolve = .ok r) :
    r.labels = l.labels := by
  have hnames := names_of_resolve h
  have hlength : r.elements.length = l.length := by
    simpa [length] using congrArg List.length hnames
  apply List.ext_getElem?
  intro id
  rw [Resolved.labels, labels, ids, List.getElem?_map, List.getElem?_map, List.getElem?_zipIdx]
  by_cases hid : id < l.length
  · obtain ⟨x, hx⟩ := exists_element? hid
    have hname : r.elements[id]?.map (·.name) = some x.name := by
      rw [← List.getElem?_map, hnames, List.getElem?_map, ← element?, hx, Option.map_some]
    obtain ⟨placed, hplaced, hname⟩ := Option.map_eq_some_iff.1 hname
    rw [hplaced, List.getElem?_range hid, Option.map_some, Option.map_some, Option.map_some,
      label_eq hx, ← hname, Nat.zero_add]
  · rw [List.getElem?_eq_none (by rw [hlength]; exact not_lt.1 hid),
      List.getElem?_eq_none (by rw [List.length_range]; exact not_lt.1 hid)]
    rfl

/-- **When labels tell elements apart.** In a layout that was built by any calls, the labels of
different elements differ, before and after it is resolved, exactly if no element is named like the
number of an element that has no name. -/
theorem label_inj_run_iff [Scalar α] (hl : l.elements = []) (calls : List (Call α)) :
    ((∀ i < (l.run calls).length, ∀ j < (l.run calls).length,
      (l.run calls).label i = (l.run calls).label j → i = j) ↔ (l.run calls).Unmistakable) ∧
    ∀ r, (l.run calls).resolve = .ok r → (r.labels.Nodup ↔ (l.run calls).Unmistakable) := by
  have hlabels := label_inj_iff_unmistakable (nodup_givenNames_run hl calls)
  refine ⟨hlabels, fun r hr => ?_⟩
  rw [labels_of_resolve hr, nodup_labels_iff, hlabels]

end

/-- Elements whose names are no numbers have labels of their own. -/
theorem label_inj_run_iff_sampleCalls :
    let l : Layout Coord := .ofSize ⟨.clamp 80, .clamp 40⟩
    l.elements = [] ∧ (l.run sampleCalls).labels = ["title", "#1"] ∧
      ∀ i < (l.run sampleCalls).length, ∀ j < (l.run sampleCalls).length,
        (l.run sampleCalls).label i = (l.run sampleCalls).label j → i = j :=
  ⟨rfl, by decide +kernel, (label_inj_run_iff rfl sampleCalls).1.2 (by decide +kernel)⟩

/-- The second of two elements has a name that looks like the number of the first, which has none. -/
def mistakenCalls : List (Call Coord) :=
  [.add (.exact (.clamp 20)) (.exact (.clamp 5)) [],
   .addNamed "#0" (.exact (.clamp 4)) (.exact (.clamp 2)) []]

/-- A name that looks like a number gives two elements one label, and a tracker one entry for both. -/
theorem label_not_inj_mistakenCalls :
    let l : Layout Coord := .ofSize ⟨.clamp 80, .clamp 40⟩
    (l.run mistakenCalls).length = 2 ∧
      ¬ (∀ i < (l.run mistakenCalls).length, ∀ j < (l.run mistakenCalls).length,
        (l.run mistakenCalls).label i = (l.run mistakenCalls).label j → i = j) ∧
      ∃ r, (l.run mistakenCalls).resolve = .ok r ∧ r.length = 2 ∧
        (({} : Tracker).observe r).1.entries.length = 1 := by
  intro l
  have hlength : (l.run mistakenCalls).length = 2 := by decide +kernel
  have hlabel : (l.run mistakenCalls).label 0 = (l.run mistakenCalls).label 1 := by
    decide +kernel
  have hentries : ((l.run mistakenCalls).resolve.toOption.map fun r =>
      (r.length, (({} : Tracker).observe r).1.entries.length)) = some (2, 1) := by
    decide +kernel
  refine ⟨hlength, fun hinj => ?_, ?_⟩
  · rw [hlength] at hinj
    exact absurd (hinj 0 (by decide) 1 (by decide) hlabel) (by decide)
  · cases hr : (l.run mistakenCalls).resolve with
    | error err =>
      rw [hr] at hentries
      cases hentries
    | ok r =>
      rw [hr] at hentries
      exact ⟨r, rfl, Prod.mk.inj (Option.some.inj hentries)⟩

end AnchorLayout.Layout
