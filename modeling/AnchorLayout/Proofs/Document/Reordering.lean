import AnchorLayout.Proofs.Document.Loading
import AnchorLayout.Proofs.Placement.Counterparts

/-!
# The order of declaration

Elements of a document may be declared in any order: each order gives a layout that resolves if and
only if the others do, and under each name the same frame. Reordering renumbers the elements, so an
element is paired with the element that is loaded from the same entry.
-/

namespace AnchorLayout

/-- Paired rules are kept or dropped together. -/
theorem Rule.forall₂_lastOfEach {R : ElementId → ElementId → Prop} {rules rules' : List Rule}
    (h : List.Forall₂ (Matches R) rules rules') :
    List.Forall₂ (Matches R) (lastOfEach rules) (lastOfEach rules') := by
  induction h with
  | nil => exact .nil
  | @cons rule rule' rules rules' hrule hrules ih =>
    have hverbs : rules'.map (·.verb) = rules.map (·.verb) :=
      map_eq_of_forall₂ hrules fun _ _ h => h.verb_eq
    rw [lastOfEach, lastOfEach, hrule.verb_eq, hverbs]
    split
    · exact ih
    · exact .cons hrule ih

namespace Layout
variable {α : Type} [Scalar α] {l : Layout α} {r : Resolved α}

/-- A frame is found by name as the frame of the element with that name. -/
theorem frameByName?_of_resolve (h : l.resolve = .ok r) (name : String) :
    r.frameByName? name = (l.find? name).bind r.frame? := by
  have hfind : l.find? name = r.elements.findIdx? (·.name = some name) := by
    rw [find?_eq_findIdx?, ← names_of_resolve h, List.findIdx?_map]
    rfl
  rw [Resolved.frameByName?, List.find?_eq_bind_findIdx?_getElem?, hfind, Option.map_bind]
  rfl

end Layout

namespace Document
variable {d d' : Document}

/-- An entry of a document and an entry of another are the same. -/
def SameEntry (d d' : Document) (id id' : ElementId) : Prop :=
  ∃ e, d.elements[id]? = some e ∧ d'.elements[id']? = some e

theorem Anchors.of_perm (hperm : d'.elements.Perm d.elements) {r : RuleEntry} (h : d.Anchors r) :
    d'.Anchors r := by
  intro verb hverb
  obtain ⟨name, hname, hanchor⟩ := h verb hverb
  exact ⟨name, (hperm.map _).mem_iff.2 hname, hanchor⟩

/-- A document stays well named in another order. -/
theorem WellNamed.of_perm (hperm : d'.elements.Perm d.elements) (h : d.WellNamed) :
    d'.WellNamed where
  nodup := (hperm.map _).nodup_iff.2 h.nodup
  anchors := fun e he r hr => (h.anchors e (hperm.mem_iff.1 he) r hr).of_perm hperm

/-- The position of a name is that of an entry with this name. -/
theorem exists_entry {name : String} (h : name ∈ d.names) :
    ∃ e, d.elements[d.names.idxOf name]? = some e ∧ e.name = name := by
  have hget := List.getElem?_idxOf h
  rwa [names, List.getElem?_map, Option.map_eq_some_iff] at hget

section
variable (hperm : d'.elements.Perm d.elements) (hd : d.WellNamed)
include hperm

theorem exists_sameEntry {id : ElementId} (hid : id < d.loaded.length) :
    ∃ id', SameEntry d d' id id' := by
  have hid : id < d.elements.length := by simpa [loaded, filled, Layout.length] using hid
  have hmem : d.elements[id] ∈ d'.elements := hperm.mem_iff.2 (List.getElem_mem hid)
  obtain ⟨id', hid'⟩ := List.mem_iff_getElem?.1 hmem
  exact ⟨id', _, List.getElem?_eq_getElem hid, hid'⟩

include hd

theorem SameEntry.unique {id i j : ElementId} (hi : SameEntry d d' id i)
    (hj : SameEntry d d' id j) : i = j := by
  obtain ⟨e, he, hi⟩ := hi
  obtain ⟨e', he', hj⟩ := hj
  obtain rfl := Option.some.inj (he.symm.trans he')
  have hnodup : d'.elements.Nodup := hperm.nodup_iff.2 (hd.nodup.of_map _)
  exact (List.getElem?_inj (List.getElem?_eq_some_iff.1 hi).1 hnodup).1 (hi.trans hj.symm)

/-- A name stands for the same entry in both orders. -/
theorem sameEntry_idxOf {name : String} (h : name ∈ d.names) :
    SameEntry d d' (d.names.idxOf name) (d'.names.idxOf name) := by
  obtain ⟨e, he, hname⟩ := exists_entry h
  obtain ⟨e', he', hname'⟩ := exists_entry ((hperm.map (·.name)).mem_iff.2 h)
  have hmem : e ∈ d.elements := List.mem_of_getElem? he
  have hmem' : e' ∈ d.elements := hperm.mem_iff.1 (List.mem_of_getElem? he')
  obtain rfl := List.inj_on_of_nodup_map hd.nodup hmem hmem' (hname.trans hname'.symm)
  exact ⟨e, he, he'⟩

/-- The rules of an entry match in both orders. -/
theorem forall₂_rules {e : ElementEntry} (he : e ∈ d.elements) :
    List.Forall₂ (Rule.Matches (SameEntry d d')) (d.element e).params.rules
      (d'.element e).params.rules := by
  apply Rule.forall₂_lastOfEach
  refine List.rel_filterMap (R := fun r r' => r = r' ∧ d.Anchors r) ?_
    (List.forall₂_same.2 fun r hr => ⟨rfl, hd.anchors e he r hr⟩)
  rintro r _ ⟨rfl, hanchors⟩
  obtain ⟨verb, anchor⟩ := r
  cases verb with
  | parent verb => exact .some .parent
  | sibling verb =>
    obtain ⟨name, hname, rfl⟩ := hanchors verb rfl
    exact .some (.sibling (sameEntry_idxOf hperm hd hname))

theorem counterparts_loaded (hcontainer : d'.container = d.container) (a : Axis) :
    Layout.Counterparts (SameEntry d d') a d.loaded d'.loaded := by
  have hsize : d'.container.size = d.container.size := by rw [hcontainer]
  have hpadding : d'.container.padding = d.container.padding := by rw [hcontainer]
  have hdirection : d'.container.direction = d.container.direction := by rw [hcontainer]
  refine ⟨fun _ => hdirection, congrArg (·.along a) hsize,
    fun e _ => congrArg (·.on e) hpadding, ?_⟩
  rintro id id' ⟨e, he, he'⟩
  rw [element?_loaded, element?_loaded, he, he']
  have hrules := forall₂_rules hperm hd (List.mem_of_getElem? he)
  refine .some (Layout.alike_of_matchesAlong (fun _ => hdirection) Iff.rfl ?_)
  refine Params.matchesAlong_of_rules ?_ ?_ ?_ ?_ hrules a <;> rfl

theorem exists_dependsOn_loaded {id id' anchor : ElementId} (hid : SameEntry d d' id id')
    (hdep : d.loaded.DependsOn id anchor) :
    ∃ anchor', SameEntry d d' anchor anchor' ∧ d'.loaded.DependsOn id' anchor' := by
  obtain ⟨e, he, he'⟩ := hid
  obtain ⟨x, verb, hx, hrule⟩ := Layout.dependsOn_iff.1 hdep
  rw [element?_loaded, he, Option.map_some, Option.some.injEq] at hx
  subst hx
  obtain ⟨rule', hrule', hmatches⟩ :=
    exists_mem_of_forall₂ (forall₂_rules hperm hd (List.mem_of_getElem? he)) hrule
  cases hmatches with
  | sibling hanchor =>
    refine ⟨_, hanchor, Layout.dependsOn_iff.2 ⟨d'.element e, verb, ?_, hrule'⟩⟩
    rw [element?_loaded, he', Option.map_some]

/-- The layout of a document in another order resolves if its own does. -/
theorem exists_resolve_loaded (h : ∃ r, d.loaded.resolve = .ok r) :
    ∃ r, d'.loaded.resolve = .ok r := by
  obtain ⟨-, hcyclic⟩ := Layout.exists_resolve_iff.1 h
  have hd' := hd.of_perm hperm
  refine Layout.exists_resolve_iff.2 ⟨hd'.anchored_loaded, ?_⟩
  intro hcyclic'
  exact hcyclic (hcyclic'.of_paired
    (fun id id' anchor => exists_dependsOn_loaded hperm.symm hd')
    (fun id => exists_sameEntry hperm.symm) (fun id i j => SameEntry.unique hperm.symm hd'))

end

theorem names_loaded (d : Document) : d.Names d.loaded := by
  simp [Names, loaded, filled, names, element, Function.comp_def]

/-- A document resolves if and only if it is well named and its layout resolves. -/
theorem toLayout_bind_resolve_eq_ok_iff {r : Resolved Coord} :
    d.toLayout >>= Layout.resolve = .ok r ↔ d.WellNamed ∧ d.loaded.resolve = .ok r := by
  rw [bind_eq_ok_iff]
  constructor
  · rintro ⟨l, hl, hr⟩
    obtain ⟨hd, rfl⟩ := toLayout_eq_ok_iff.1 hl
    exact ⟨hd, hr⟩
  · rintro ⟨hd, hr⟩
    exact ⟨_, toLayout_eq_ok_iff.2 ⟨hd, rfl⟩, hr⟩

/-- The sample form as a document. -/
def sampleDocument : Document where
  width := .clamp 100
  height := .clamp 60
  padding := .uniform (.clamp 1)
  direction := .rtl
  elements :=
    [{ name := "button", width := .exact (.clamp 20), height := .exact (.clamp 10)
       alignWithParentIfMissing := true
       rules := [⟨.sibling .endOf, "hint"⟩, ⟨.sibling .below, "field"⟩,
         ⟨.parent .alignParentBottom, none⟩] },
     { name := "hint", width := .exact (.clamp 30), height := .exact (.clamp 10)
       visibility := .gone
       rules := [⟨.sibling .below, "title"⟩] },
     { name := "field", width := .matchParent, height := .exact (.clamp 10)
       margin := .uniform (.clamp 2)
       rules := [⟨.sibling .below, "hint"⟩, ⟨.parent .alignParentStart, none⟩] },
     { name := "title", width := .exact (.clamp 41), height := .exact (.clamp 10)
       rules := [⟨.parent .centerHorizontal, none⟩] }]

/-- **The order of declaration does not matter.** A document whose elements are declared in another
order is loaded and resolved if and only if the document itself is, and then every name has the same
frame. -/
theorem frameByName?_of_perm (d : Document) {elements : List ElementEntry}
    (h : elements.Perm d.elements) :
    ((∃ r, { d with elements }.toLayout >>= Layout.resolve = .ok r) ↔
      ∃ r, d.toLayout >>= Layout.resolve = .ok r) ∧
    ∀ r r', d.toLayout >>= Layout.resolve = .ok r →
      { d with elements }.toLayout >>= Layout.resolve = .ok r' →
      ∀ name, r'.frameByName? name = r.frameByName? name := by
  simp only [toLayout_bind_resolve_eq_ok_iff, exists_and_left]
  refine ⟨⟨?_, ?_⟩, ?_⟩
  · rintro ⟨hd', hr'⟩
    exact ⟨hd'.of_perm h.symm, exists_resolve_loaded h.symm hd' hr'⟩
  · rintro ⟨hd, hr⟩
    exact ⟨hd.of_perm h, exists_resolve_loaded h hd hr⟩
  · rintro r r' ⟨hd, hr⟩ ⟨-, hr'⟩ name
    rw [Layout.frameByName?_of_resolve hr, Layout.frameByName?_of_resolve hr',
      (names_loaded d).find?_eq, (names_loaded _).find?_eq]
    have hmem : name ∈ Document.names { d with elements } ↔ name ∈ d.names :=
      (h.map (·.name)).mem_iff
    rw [if_congr hmem rfl rfl]
    split
    · rename_i hname
      have hcontainer : Document.container { d with elements } = d.container := rfl
      exact Layout.frame?_eq_of_counterparts (counterparts_loaded h hd hcontainer) hr hr'
        (sameEntry_idxOf h hd hname)
    · rfl

/-- The sample form may be declared backwards. -/
theorem frameByName?_of_perm_sampleDocument :
    sampleDocument.elements.reverse.Perm sampleDocument.elements ∧
    ∃ r r', sampleDocument.toLayout >>= Layout.resolve = .ok r ∧
      { sampleDocument with elements := sampleDocument.elements.reverse }.toLayout >>=
        Layout.resolve = .ok r' ∧
      ∀ name, r'.frameByName? name = r.frameByName? name := by
  have hperm := List.reverse_perm sampleDocument.elements
  obtain ⟨hiff, hframes⟩ := frameByName?_of_perm sampleDocument hperm
  obtain ⟨r, hr⟩ : ∃ r, sampleDocument.toLayout >>= Layout.resolve = .ok r :=
    exists_eq_ok_of_isOk (by decide +kernel)
  obtain ⟨r', hr'⟩ := hiff.2 ⟨r, hr⟩
  exact ⟨hperm, r, r', hr, hr', hframes r r' hr hr'⟩

end Document
end AnchorLayout
