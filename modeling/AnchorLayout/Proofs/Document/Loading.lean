import AnchorLayout.Document
import AnchorLayout.Proofs.Dependency.Schedule
import Mathlib.Data.List.Nodup

/-!
# The layout of a document

A document has a layout if and only if its names are distinct and every sibling rule is anchored on
one of them. Element by element the layout is then the document, with names replaced by positions,
and of several rules for a verb only the last one is left.
-/

namespace AnchorLayout

/-- A step that goes on with a result succeeds if and only if both parts do. -/
theorem bind_eq_ok_iff {ε β γ : Type} {x : Except ε β} {f : β → Except ε γ} {c : γ} :
    x >>= f = .ok c ↔ ∃ b, x = .ok b ∧ f b = .ok c := by
  cases x <;> simp [bind, Except.bind]

/-! ## The last rule for each verb -/

/-- Of the rules for each verb the last one: a rule is dropped if a later one has its verb. -/
def Rule.lastOfEach : List Rule → List Rule
  | [] => []
  | rule :: rules =>
    if rule.verb ∈ rules.map (·.verb) then lastOfEach rules else rule :: lastOfEach rules

theorem Rule.lastOfEach_sublist (rules : List Rule) : (lastOfEach rules).Sublist rules := by
  induction rules with
  | nil => exact .slnil
  | cons rule rules ih =>
    rw [lastOfEach]
    split
    · exact ih.cons rule
    · exact ih.cons_cons rule

/-- One more rule takes the place of the rule for its verb. -/
theorem Rule.lastOfEach_concat (rules : List Rule) (rule : Rule) :
    lastOfEach (rules ++ [rule]) = (lastOfEach rules).eraseP (·.verb = rule.verb) ++ [rule] := by
  induction rules with
  | nil => rfl
  | cons first rules ih =>
    rw [List.cons_append, lastOfEach, lastOfEach, ih]
    by_cases hsame : first.verb = rule.verb
    · -- The first rule gives way to the new one, whether it was kept before or not.
      rw [if_pos (by simp [hsame])]
      split
      · rfl
      · rename_i hlater
        rw [List.eraseP_cons_of_pos (by simpa), List.eraseP_of_forall_not]
        intro other hother hverb
        refine hlater (List.mem_map.2 ⟨other, (lastOfEach_sublist rules).subset hother, ?_⟩)
        rw [hsame]
        simpa using hverb
    · have hlater : first.verb ∈ (rules ++ [rule]).map (·.verb) ↔
          first.verb ∈ rules.map (·.verb) := by
        simp [hsame]
      rw [if_congr hlater rfl rfl]
      split
      · rfl
      · rw [List.eraseP_cons_of_neg (by simpa), List.cons_append]

/-- Adding rules one after the other leaves the last one for each verb. -/
theorem Params.foldl_addRule {α : Type} {p : Params α} (hp : p.rules = []) (rules : List Rule) :
    rules.foldl addRule p = { p with rules := Rule.lastOfEach rules } := by
  induction rules using List.reverseRecOn with
  | nil => exact congrArg (fun rules => { p with rules }) hp
  | append_singleton rules rule ih =>
    rw [List.foldl_append, ih, Rule.lastOfEach_concat]
    rfl

namespace Layout
variable {α : Type} {l : Layout α} {id : ElementId}

/-- An element is found by the names alone. -/
theorem find?_eq_findIdx? (l : Layout α) (name : String) :
    l.find? name = (l.elements.map (·.name)).findIdx? (· = some name) := by
  rw [List.findIdx?_map]
  rfl

theorem find?_eq_none_iff {name : String} :
    l.find? name = none ↔ some name ∉ l.elements.map (·.name) := by
  simp [find?]

/-- Writing back the parameters that an element has changes nothing. -/
theorem setParams_self {x : Element α} (hx : l.element? id = some x) :
    l.setParams id x.params = l := by
  have hsame : (l.setParams id x.params).elements = l.elements := by
    apply List.ext_getElem?
    intro other
    change (l.setParams id x.params).element? other = l.element? other
    rw [element?_setParams]
    split
    · rename_i heq
      subst heq
      rw [hx, Option.map_some]
    · rfl
  calc l.setParams id x.params
      = { l with elements := (l.setParams id x.params).elements } := rfl
    _ = l := by rw [hsame]

/-- New parameters leave the names as they are. -/
theorem map_name_setParams (l : Layout α) (id : ElementId) (p : Params α) :
    (l.setParams id p).elements.map (·.name) = l.elements.map (·.name) := by
  apply List.ext_getElem?
  intro other
  have hother := l.element?_setParams id other p
  rw [element?, element?] at hother
  rw [List.getElem?_map, List.getElem?_map, hother]
  split
  · cases l.elements[other]? <;> rfl
  · rfl

/-- A rule can be added to any element. -/
theorem addRule_of_element? {x : Element α} (hx : l.element? id = some x) (rule : Rule) :
    l.addRule id rule = .ok (l.setParams id (x.params.addRule rule)) := by
  simp [addRule, params, hx, bind, Except.bind, pure, Except.pure]

/-- The parameters that are written last are left. -/
theorem setParams_setParams (l : Layout α) (id : ElementId) (p q : Params α) :
    (l.setParams id p).setParams id q = l.setParams id q := by
  simp [setParams, List.modify_modify_eq, Function.comp_def]

end Layout

namespace Document

/-! ## What a document says -/

/-- The names of the elements. -/
def names (d : Document) : List String := d.elements.map (·.name)

/-- A rule is anchored on an element of the document, if it needs an anchor. -/
def Anchors (d : Document) (r : RuleEntry) : Prop :=
  ∀ verb, r.verb = .sibling verb → ∃ name ∈ d.names, r.anchor = some name

/-- Names are distinct, and anchors are names. -/
structure WellNamed (d : Document) : Prop where
  nodup : d.names.Nodup
  anchors : ∀ e ∈ d.elements, ∀ r ∈ e.rules, d.Anchors r

/-- A rule with its anchor given by position. -/
def rule? (d : Document) (r : RuleEntry) : Option Rule :=
  match r.verb, r.anchor with
  | .sibling verb, some name => some (.sibling verb (d.names.idxOf name))
  | .sibling _, none => none
  | .parent verb, _ => some (.parent verb)

theorem Anchors.exists_rule {d : Document} {r : RuleEntry} (h : d.Anchors r) :
    ∃ rule, d.rule? r = some rule := by
  obtain ⟨verb, anchor⟩ := r
  cases verb with
  | parent verb => exact ⟨.parent verb, rfl⟩
  | sibling verb =>
    obtain ⟨name, -, rfl⟩ := h verb rfl
    exact ⟨_, rfl⟩

/-- An element with its rules. -/
def element (d : Document) (e : ElementEntry) : Element Coord where
  name := e.name
  params := { e.params with rules := Rule.lastOfEach (e.rules.filterMap d.rule?) }

/-- The container of a document with elements in it. -/
def filled (d : Document) (elements : List (Element Coord)) : Layout Coord :=
  { d.container with elements }

/-- The layout in which every element has its rules. -/
def loaded (d : Document) : Layout Coord := d.filled (d.elements.map d.element)

/-! ## Declaring the elements -/

/-- An element without its rules. -/
def bare (e : ElementEntry) : Element Coord := { name := e.name, params := e.params }

/-- An element is declared unless its name is taken. -/
theorem declare_eq_ok_iff {l l' : Layout Coord} {e : ElementEntry} :
    declare l e = .ok l' ↔
      some e.name ∉ l.elements.map (·.name) ∧
        l' = { l with elements := l.elements ++ [bare e] } := by
  rw [declare, Layout.addNamed, ← Layout.find?_eq_none_iff]
  cases l.find? e.name with
  | some id => simp [bind, Except.bind]
  | none =>
    simp only [true_and]
    exact ⟨fun h => (Except.ok.inj h).symm, fun h => congrArg Except.ok h.symm⟩

theorem foldlM_declare_eq_ok_iff {l l' : Layout Coord} {es : List ElementEntry} :
    es.foldlM declare l = .ok l' ↔
      (es.map (·.name)).Nodup ∧ (∀ e ∈ es, some e.name ∉ l.elements.map (·.name)) ∧
        l' = { l with elements := l.elements ++ es.map bare } := by
  induction es generalizing l with
  | nil =>
    simp [pure, Except.pure, eq_comm]
  | cons e es ih =>
    rw [List.foldlM_cons, bind_eq_ok_iff]
    simp only [declare_eq_ok_iff, ih]
    have hsplit : (∀ x ∈ es, some x.name ∉ (l.elements ++ [bare e]).map (·.name)) ↔
        (∀ x ∈ es, some x.name ∉ l.elements.map (·.name)) ∧ e.name ∉ es.map (·.name) := by
      simp only [List.map_append, List.mem_append, not_or, forall_and, bare, List.map_cons,
        List.map_nil, List.mem_singleton, Option.some.injEq, List.mem_map, not_exists, not_and]
    constructor
    · rintro ⟨_, ⟨he, rfl⟩, hnodup, hes, rfl⟩
      obtain ⟨hes, hnot⟩ := hsplit.1 hes
      refine ⟨?_, ?_, by simp⟩
      · rw [List.map_cons]
        exact List.nodup_cons.2 ⟨hnot, hnodup⟩
      · exact List.forall_mem_cons.2 ⟨he, hes⟩
    · rintro ⟨hnodup, hes, rfl⟩
      rw [List.map_cons] at hnodup
      obtain ⟨hnot, hnodup⟩ := List.nodup_cons.1 hnodup
      obtain ⟨he, hes⟩ := List.forall_mem_cons.1 hes
      exact ⟨_, ⟨he, rfl⟩, hnodup, hsplit.2 ⟨hes, hnot⟩, by simp⟩

/-! ## Adding the rules -/

variable {d : Document} {l l' : Layout Coord}

/-- The elements of a layout have the names of the document, in the same order. -/
def Names (d : Document) (l : Layout Coord) : Prop :=
  l.elements.map (·.name) = d.names.map some

/-- Names are found by their position. -/
theorem Names.find?_eq (h : d.Names l) (name : String) :
    l.find? name = if name ∈ d.names then some (d.names.idxOf name) else none := by
  have hfind : l.find? name = d.names.findIdx? (· = name) := by
    rw [Layout.find?_eq_findIdx?, h, List.findIdx?_map]
    simp [Function.comp_def]
  rw [hfind]
  split
  · rename_i hmem
    rw [List.findIdx?_eq_some_iff_findIdx_eq]
    exact ⟨List.idxOf_lt_length_of_mem hmem, rfl⟩
  · rename_i hmem
    rw [List.findIdx?_eq_none_iff]
    rintro other hother
    simpa using fun heq : other = name => hmem (heq ▸ hother)

/-- A rule is understood if and only if its anchor is in the document. -/
theorem Names.resolveRule_eq_ok_iff (h : d.Names l) {element : String} {r : RuleEntry}
    {rule : Rule} :
    resolveRule l element r = .ok rule ↔ d.Anchors r ∧ d.rule? r = some rule := by
  obtain ⟨verb, anchor⟩ := r
  cases verb with
  | parent verb => simp [resolveRule, Rule.ofVerb, Anchors, rule?]
  | sibling verb =>
    cases anchor with
    | none => simp [resolveRule, Rule.ofVerb, Anchors]
    | some name =>
      by_cases hmem : name ∈ d.names <;>
        simp [resolveRule, h.find?_eq, hmem, Rule.ofVerb, Anchors, rule?, throw, throwThe,
          MonadExceptOf.throw]

theorem Names.setParams (h : d.Names l) (id : ElementId) (p : Params Coord) :
    d.Names (l.setParams id p) := by
  rw [Names, Layout.map_name_setParams, h]

/-- The rules of an element are added if and only if all are anchored in the document. -/
theorem Names.foldlM_addRule_eq_ok_iff (h : d.Names l) {id : ElementId} {x : Element Coord}
    (hx : l.element? id = some x) (name : String) (rules : List RuleEntry) :
    rules.foldlM (fun l r => do l.addRule id (← resolveRule l name r)) l = .ok l' ↔
      (∀ r ∈ rules, d.Anchors r) ∧
        l' = l.setParams id ((rules.filterMap d.rule?).foldl Params.addRule x.params) := by
  induction rules generalizing l x with
  | nil => simp [pure, Except.pure, Layout.setParams_self hx, eq_comm]
  | cons r rules ih =>
    have hnext (rule : Rule) : (l.setParams id (x.params.addRule rule)).element? id =
        some { x with params := x.params.addRule rule } := by
      simp [Layout.element?_setParams, hx]
    rw [List.foldlM_cons, bind_eq_ok_iff]
    constructor
    · rintro ⟨l₁, hstep, hrest⟩
      obtain ⟨rule, hrule, hl₁⟩ := bind_eq_ok_iff.1 hstep
      obtain ⟨hanchors, hrule⟩ := h.resolveRule_eq_ok_iff.1 hrule
      rw [Layout.addRule_of_element? hx] at hl₁
      obtain rfl := Except.ok.inj hl₁
      obtain ⟨hall, rfl⟩ := (ih (h.setParams _ _) (hnext rule)).1 hrest
      refine ⟨List.forall_mem_cons.2 ⟨hanchors, hall⟩, ?_⟩
      rw [Layout.setParams_setParams, List.filterMap_cons_some hrule, List.foldl_cons]
    · rintro ⟨hall, rfl⟩
      obtain ⟨hanchors, hall⟩ := List.forall_mem_cons.1 hall
      obtain ⟨rule, hrule⟩ := hanchors.exists_rule
      have hresolved : resolveRule l name r = .ok rule :=
        h.resolveRule_eq_ok_iff.2 ⟨hanchors, hrule⟩
      refine ⟨_, bind_eq_ok_iff.2 ⟨rule, hresolved, Layout.addRule_of_element? hx rule⟩, ?_⟩
      refine (ih (h.setParams _ _) (hnext rule)).2 ⟨hall, ?_⟩
      rw [Layout.setParams_setParams, List.filterMap_cons_some hrule, List.foldl_cons]

theorem setParams_filled (done rest : List (Element Coord)) (x : Element Coord) (p : Params Coord) :
    (d.filled (done ++ x :: rest)).setParams done.length p =
      d.filled (done ++ { x with params := p } :: rest) := by
  simp [filled, Layout.setParams, List.modify_eq_take_cons_drop]

/-- The rules of an element are added if and only if all are anchored in the document. -/
theorem addRules_eq_ok_iff {done rest : List (Element Coord)} {e : ElementEntry}
    (h : d.Names (d.filled (done ++ bare e :: rest))) :
    addRules (d.filled (done ++ bare e :: rest)) e done.length = .ok l' ↔
      (∀ r ∈ e.rules, d.Anchors r) ∧ l' = d.filled (done ++ d.element e :: rest) := by
  have hx : (d.filled (done ++ bare e :: rest)).element? done.length = some (bare e) := by
    simp [filled, Layout.element?]
  rw [addRules, h.foldlM_addRule_eq_ok_iff hx, Params.foldl_addRule rfl, setParams_filled]
  rfl

/-- Rules are added to some elements if and only if all are anchored in the document. The elements
before these have their rules, and those after them keep what they have. -/
theorem foldlM_addRules_eq_ok_iff (done later : List (Element Coord)) (es : List ElementEntry)
    (h : d.Names (d.filled (done ++ es.map bare ++ later))) :
    (es.zipIdx done.length).foldlM (fun l (e, id) => addRules l e id)
        (d.filled (done ++ es.map bare ++ later)) = .ok l' ↔
      (∀ e ∈ es, ∀ r ∈ e.rules, d.Anchors r) ∧
        l' = d.filled (done ++ es.map d.element ++ later) := by
  induction es generalizing done with
  | nil => simp [pure, Except.pure, eq_comm]
  | cons e es ih =>
    have hnext : d.Names (d.filled (done ++ [d.element e] ++ es.map bare ++ later)) := by
      rw [Names, ← h]
      simp [filled, element, bare]
    have hrest := ih (done ++ [d.element e]) hnext
    simp only [List.length_append, List.length_singleton, List.append_assoc,
      List.singleton_append] at hrest
    simp only [List.map_cons, List.append_assoc, List.cons_append] at h ⊢
    rw [List.zipIdx_cons, List.foldlM_cons, bind_eq_ok_iff, List.forall_mem_cons]
    constructor
    · rintro ⟨l₁, hfirst, hall⟩
      obtain ⟨he, rfl⟩ := (addRules_eq_ok_iff h).1 hfirst
      obtain ⟨hes, rfl⟩ := hrest.1 hall
      exact ⟨⟨he, hes⟩, rfl⟩
    · rintro ⟨⟨he, hes⟩, rfl⟩
      exact ⟨_, (addRules_eq_ok_iff h).2 ⟨he, rfl⟩, hrest.2 ⟨hes, rfl⟩⟩

theorem names_bare (d : Document) : d.Names (d.filled (d.elements.map bare)) := by
  simp [Names, filled, names, bare]

/-- All elements are declared if and only if their names are distinct. -/
theorem foldlM_declare_container_eq_ok_iff :
    d.elements.foldlM declare d.container = .ok l ↔
      d.names.Nodup ∧ l = d.filled (d.elements.map bare) := by
  rw [foldlM_declare_eq_ok_iff]
  simp [container, filled, names]

/-- A document has a layout if and only if it is well named, and then this one. -/
theorem toLayout_eq_ok_iff : d.toLayout = .ok l ↔ d.WellNamed ∧ l = d.loaded := by
  have hrules : d.elements.zipIdx.foldlM (fun l (e, id) => addRules l e id)
        (d.filled (d.elements.map bare)) = .ok l ↔
      (∀ e ∈ d.elements, ∀ r ∈ e.rules, d.Anchors r) ∧
        l = d.filled (d.elements.map d.element) := by
    simpa using foldlM_addRules_eq_ok_iff [] [] d.elements (by simpa using names_bare d)
  rw [toLayout, bind_eq_ok_iff]
  constructor
  · rintro ⟨l₁, hdeclared, hadded⟩
    obtain ⟨hnodup, rfl⟩ := foldlM_declare_container_eq_ok_iff.1 hdeclared
    obtain ⟨hanchors, rfl⟩ := hrules.1 hadded
    exact ⟨⟨hnodup, hanchors⟩, rfl⟩
  · rintro ⟨⟨hnodup, hanchors⟩, rfl⟩
    exact ⟨_, foldlM_declare_container_eq_ok_iff.2 ⟨hnodup, rfl⟩, hrules.2 ⟨hanchors, rfl⟩⟩

theorem element?_loaded (d : Document) (id : ElementId) :
    d.loaded.element? id = d.elements[id]?.map d.element :=
  List.getElem?_map

/-- A rule that is loaded with an anchor is anchored on a name. -/
theorem exists_name_of_rule? {r : RuleEntry} {verb : SiblingVerb} {anchor : ElementId}
    (h : d.rule? r = some (.sibling verb anchor)) :
    ∃ name, r = ⟨.sibling verb, some name⟩ ∧ anchor = d.names.idxOf name := by
  obtain ⟨_ | _, _ | name⟩ := r <;> simp [rule?] at h
  obtain ⟨rfl, rfl⟩ := h
  exact ⟨name, rfl, rfl⟩

/-- The anchors of a well named document are elements of its layout. -/
theorem WellNamed.anchored_loaded (h : d.WellNamed) : d.loaded.Anchored := by
  intro id anchor hdep
  obtain ⟨x, verb, hx, hrule⟩ := Layout.dependsOn_iff.1 hdep
  rw [element?_loaded, Option.map_eq_some_iff] at hx
  obtain ⟨e, he, rfl⟩ := hx
  obtain ⟨r, hr, hr?⟩ := List.mem_filterMap.1 ((Rule.lastOfEach_sublist _).subset hrule)
  obtain ⟨name, rfl, rfl⟩ := exists_name_of_rule? hr?
  obtain ⟨name', hname, heq⟩ := h.anchors e (List.mem_of_getElem? he) _ hr verb rfl
  obtain rfl : name = name' := by simpa using heq
  simpa [loaded, filled, Layout.length, names] using List.idxOf_lt_length_of_mem hname

end Document
end AnchorLayout
