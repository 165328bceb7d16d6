import AnchorLayout.Proofs.Document.Loading
import AnchorLayout.Proofs.Resolution

/-!
# What becomes of a document

A document whose names are distinct and whose anchors are names is loaded element by element, and
its layout has no dangling anchor. Any other document is refused: for the first name that is declared
again, or, if there is none, for the first rule whose anchor is missing or is no name.
-/

namespace AnchorLayout

theorem bind_eq_error_iff {ε β γ : Type} {x : Except ε β} {f : β → Except ε γ} {e : ε} :
    x >>= f = .error e ↔ x = .error e ∨ ∃ b, x = .ok b ∧ f b = .error e := by
  cases x <;> simp [bind, Except.bind]

/-- A fold fails at the first step that fails. -/
theorem foldlM_eq_error_iff {ε σ β : Type} {f : σ → β → Except ε σ} {s : σ} {xs : List β} {e : ε} :
    xs.foldlM f s = .error e ↔ ∃ before x after t,
      xs = before ++ x :: after ∧ before.foldlM f s = .ok t ∧ f t x = .error e := by
  induction xs generalizing s with
  | nil => simp [pure, Except.pure]
  | cons first xs ih =>
    rw [List.foldlM_cons, bind_eq_error_iff]
    constructor
    · rintro (hfirst | ⟨t, ht, hrest⟩)
      · exact ⟨[], first, xs, s, rfl, rfl, hfirst⟩
      · obtain ⟨before, x, after, t', rfl, hbefore, hx⟩ := ih.1 hrest
        refine ⟨first :: before, x, after, t', rfl, ?_, hx⟩
        rw [List.foldlM_cons, bind_eq_ok_iff]
        exact ⟨t, ht, hbefore⟩
    · rintro ⟨before, x, after, t, heq, hbefore, hx⟩
      cases before with
      | nil =>
        obtain ⟨rfl, rfl⟩ := List.cons.inj heq
        obtain rfl : s = t := by simpa [pure, Except.pure] using hbefore
        exact .inl hx
      | cons other before =>
        obtain ⟨rfl, rfl⟩ := List.cons.inj heq
        rw [List.foldlM_cons, bind_eq_ok_iff] at hbefore
        obtain ⟨t', ht', hbefore⟩ := hbefore
        exact .inr ⟨t', ht', ih.2 ⟨before, x, after, t, rfl, hbefore, hx⟩⟩

namespace Document
variable {d : Document} {l : Layout Coord}

/-! ## Names that are declared again -/

/-- The first name, in the order of declaration, that stands before. -/
def FirstRepeated (d : Document) (name : String) : Prop :=
  ∃ before after, d.names = before ++ name :: after ∧ before.Nodup ∧ name ∈ before

theorem declare_eq_error_iff {e : ElementEntry} {err : LayoutError} :
    declare l e = .error err ↔
      some e.name ∈ l.elements.map (·.name) ∧ err = .duplicateElement e.name := by
  rw [declare, Layout.addNamed, bind_eq_error_iff]
  cases hfind : l.find? e.name with
  | none =>
    have hnot := Layout.find?_eq_none_iff.1 hfind
    simp [hnot, pure, Except.pure]
  | some id =>
    have hmem : some e.name ∈ l.elements.map (·.name) := by
      by_contra hnot
      simp [Layout.find?_eq_none_iff.2 hnot] at hfind
    simp [hmem, eq_comm]

/-- Declaring the elements fails at the first name that is declared again. -/
theorem foldlM_declare_eq_error_iff {err : LayoutError} :
    d.elements.foldlM declare d.container = .error err ↔
      ∃ name, d.FirstRepeated name ∧ err = .duplicateElement name := by
  rw [foldlM_eq_error_iff]
  constructor
  · rintro ⟨before, e, after, l, heq, hbefore, he⟩
    obtain ⟨hnodup, -, rfl⟩ := foldlM_declare_eq_ok_iff.1 hbefore
    obtain ⟨hmem, rfl⟩ := declare_eq_error_iff.1 he
    refine ⟨e.name, ⟨before.map (·.name), after.map (·.name), ?_, hnodup, ?_⟩, rfl⟩
    · simp [names, heq]
    · simpa [container, bare] using hmem
  · rintro ⟨name, ⟨names, names', heq, hnodup, hmem⟩, rfl⟩
    obtain ⟨before, rest, helements, rfl, hrest⟩ := List.map_eq_append_iff.1 heq
    obtain ⟨e, after, rfl, rfl, rfl⟩ := List.map_eq_cons_iff.1 hrest
    refine ⟨before, e, after, _, helements,
      foldlM_declare_eq_ok_iff.2 ⟨hnodup, by simp [container], rfl⟩, ?_⟩
    rw [declare_eq_error_iff]
    simpa [container, bare] using hmem

/-! ## Rules that are refused -/

/-- Why a rule of an element is refused. -/
inductive Refuses (d : Document) (element : String) : RuleEntry → LayoutError → Prop
  | unanchored (verb : SiblingVerb) :
    Refuses d element ⟨.sibling verb, none⟩ (.missingAnchor (.sibling verb))
  | dangling (verb : SiblingVerb) {name : String} (h : name ∉ d.names) :
    Refuses d element ⟨.sibling verb, some name⟩ (.danglingReference element name)

/-- The first rule, in the order of declaration, that is refused. -/
def FirstRefused (d : Document) (err : LayoutError) : Prop :=
  ∃ before e after, d.elements = before ++ e :: after ∧
    (∀ x ∈ before, ∀ r ∈ x.rules, d.Anchors r) ∧
    ∃ earlier r later, e.rules = earlier ++ r :: later ∧
      (∀ r' ∈ earlier, d.Anchors r') ∧ d.Refuses e.name r err

theorem Names.resolveRule_eq_error_iff (h : d.Names l) {element : String} {r : RuleEntry}
    {err : LayoutError} : resolveRule l element r = .error err ↔ d.Refuses element r err := by
  obtain ⟨verb, anchor⟩ := r
  constructor
  · intro herror
    cases verb with
    | parent verb => simp [resolveRule, Rule.ofVerb] at herror
    | sibling verb =>
      cases anchor with
      | none =>
        obtain rfl : LayoutError.missingAnchor (.sibling verb) = err := by
          simpa [resolveRule, Rule.ofVerb] using herror
        exact .unanchored verb
      | some name =>
        by_cases hmem : name ∈ d.names
        · simp [resolveRule, h.find?_eq, hmem, Rule.ofVerb] at herror
        · obtain rfl : LayoutError.danglingReference element name = err := by
            simpa [resolveRule, h.find?_eq, hmem, throw, throwThe, MonadExceptOf.throw]
              using herror
          exact .dangling verb hmem
  · rintro (verb | ⟨verb, hmem⟩)
    · rfl
    · simp [resolveRule, h.find?_eq, hmem, throw, throwThe, MonadExceptOf.throw]

/-- Adding the rules of an element fails at the first that is refused. -/
theorem Names.addRules_eq_error_iff (h : d.Names l) {e : ElementEntry} {id : ElementId}
    {x : Element Coord} (hx : l.element? id = some x) {err : LayoutError} :
    addRules l e id = .error err ↔
      ∃ earlier r later, e.rules = earlier ++ r :: later ∧
        (∀ r' ∈ earlier, d.Anchors r') ∧ d.Refuses e.name r err := by
  rw [addRules, foldlM_eq_error_iff]
  constructor
  · rintro ⟨earlier, r, later, l', heq, hearlier, hr⟩
    obtain ⟨hanchors, rfl⟩ := (h.foldlM_addRule_eq_ok_iff hx e.name earlier).1 hearlier
    rcases bind_eq_error_iff.1 hr with hr | ⟨rule, -, hadd⟩
    · exact ⟨earlier, r, later, heq, hanchors, (h.setParams id _).resolveRule_eq_error_iff.1 hr⟩
    · simp [Layout.addRule, Layout.params, Layout.element?_setParams, hx, bind, Except.bind,
        pure, Except.pure] at hadd
  · rintro ⟨earlier, r, later, heq, hanchors, hr⟩
    refine ⟨earlier, r, later, _, heq,
      (h.foldlM_addRule_eq_ok_iff hx e.name earlier).2 ⟨hanchors, rfl⟩, ?_⟩
    exact bind_eq_error_iff.2 (.inl ((h.setParams id _).resolveRule_eq_error_iff.2 hr))

/-- Rules are added to the first elements if and only if all of them are anchored in the document. -/
theorem foldlM_addRules_before_eq_ok_iff {before after : List ElementEntry}
    (h : d.elements = before ++ after) :
    before.zipIdx.foldlM (fun l (e, id) => addRules l e id) (d.filled (d.elements.map bare)) =
        .ok l ↔
      (∀ x ∈ before, ∀ r ∈ x.rules, d.Anchors r) ∧
        l = d.filled (before.map d.element ++ after.map bare) := by
  have hmap : d.elements.map bare = before.map bare ++ after.map bare := by simp [h]
  have hnames := names_bare d
  rw [hmap] at hnames ⊢
  simpa using foldlM_addRules_eq_ok_iff [] (after.map bare) before (by simpa using hnames)

/-- Adding all rules fails at the first that is refused. -/
theorem foldlM_addRules_eq_error_iff {err : LayoutError} :
    d.elements.zipIdx.foldlM (fun l (e, id) => addRules l e id)
        (d.filled (d.elements.map bare)) = .error err ↔ d.FirstRefused err := by
  -- When it comes to an element, those before it have their rules and it is still bare.
  have hadd (before : List ElementEntry) (e : ElementEntry) (after : List ElementEntry)
      (h : d.elements = before ++ e :: after) :
      addRules (d.filled (before.map d.element ++ (e :: after).map bare)) e before.length =
          .error err ↔
        ∃ earlier r later, e.rules = earlier ++ r :: later ∧
          (∀ r' ∈ earlier, d.Anchors r') ∧ d.Refuses e.name r err := by
    have hnames : d.Names (d.filled (before.map d.element ++ (e :: after).map bare)) := by
      simp [Names, filled, names, h, element, bare, Function.comp_def]
    refine hnames.addRules_eq_error_iff (x := bare e) ?_
    simp [filled, Layout.element?]
  rw [foldlM_eq_error_iff]
  constructor
  · rintro ⟨before, ⟨e, id⟩, after, l, heq, hbefore, he⟩
    obtain ⟨before, rest, helements, rfl, hrest⟩ := List.zipIdx_eq_append_iff.1 heq
    obtain ⟨_, after, rfl, hfirst, -⟩ := List.zipIdx_eq_cons_iff.1 hrest.symm
    obtain ⟨rfl, rfl⟩ := Prod.mk.inj hfirst
    obtain ⟨hanchors, rfl⟩ := (foldlM_addRules_before_eq_ok_iff helements).1 hbefore
    rw [Nat.zero_add] at he
    exact ⟨before, e, after, helements, hanchors, (hadd before e after helements).1 he⟩
  · rintro ⟨before, e, after, helements, hanchors, hrefused⟩
    refine ⟨before.zipIdx, (e, before.length), after.zipIdx (before.length + 1), _, ?_,
      (foldlM_addRules_before_eq_ok_iff helements).2 ⟨hanchors, rfl⟩,
      (hadd before e after helements).2 hrefused⟩
    simp [helements, List.zipIdx_append]

/-- A document is refused for its first name that is declared again, and otherwise for its first
rule that is refused. -/
theorem toLayout_eq_error_iff {err : LayoutError} :
    d.toLayout = .error err ↔
      (∃ name, d.FirstRepeated name ∧ err = .duplicateElement name) ∨
        (d.names.Nodup ∧ d.FirstRefused err) := by
  rw [toLayout, bind_eq_error_iff, foldlM_declare_eq_error_iff]
  refine or_congr_right ?_
  constructor
  · rintro ⟨l, hl, hrules⟩
    obtain ⟨hnodup, rfl⟩ := foldlM_declare_container_eq_ok_iff.1 hl
    exact ⟨hnodup, foldlM_addRules_eq_error_iff.1 hrules⟩
  · rintro ⟨hnodup, hrefused⟩
    exact ⟨_, foldlM_declare_container_eq_ok_iff.2 ⟨hnodup, rfl⟩,
      foldlM_addRules_eq_error_iff.2 hrefused⟩

/-! ## The outcomes -/

/-- Of rules that are all anchored in the document none is lost. -/
theorem map_rule?_eq_map_some {rules : List RuleEntry} (h : ∀ r ∈ rules, d.Anchors r) :
    rules.map d.rule? = (rules.filterMap d.rule?).map some := by
  induction rules with
  | nil => rfl
  | cons r rules ih =>
    obtain ⟨hr, hrules⟩ := List.forall_mem_cons.1 h
    obtain ⟨rule, hrule⟩ := hr.exists_rule
    rw [List.map_cons, List.filterMap_cons_some hrule, List.map_cons, ih hrules, hrule]

/-- **The layout of a document.** A document is loaded if and only if its names are distinct and
every sibling rule has an anchor that is a name of the document. Then the container and the elements
are those of the document, in the same order. The rules of an element are its rules with anchors
given by position, of which for each verb the last is left, and no anchor dangles. A document that
is not loaded is refused for the first name that is declared again, and if there is none for the
first rule that is refused. -/
theorem toLayout_outcomes (d : Document) :
    ((∃ l, d.toLayout = .ok l) ↔ d.names.Nodup ∧
      ∀ e ∈ d.elements, ∀ r ∈ e.rules, ∀ verb, r.verb = .sibling verb →
        ∃ name ∈ d.names, r.anchor = some name) ∧
    (∀ l, d.toLayout = .ok l →
      l.size = ⟨d.width, d.height⟩ ∧ l.padding = d.padding ∧ l.direction = d.direction ∧
      l.length = d.elements.length ∧
      (∀ id e, d.elements[id]? = some e → ∃ rules, e.rules.map d.rule? = rules.map some ∧
        l.element? id = some
          { name := some e.name
            params :=
              { width := e.width, height := e.height, margin := e.margin
                visibility := e.visibility
                alignWithParentIfMissing := e.alignWithParentIfMissing
                rules := Rule.lastOfEach rules } }) ∧
      ∀ element anchor, l.resolve ≠ .error (.danglingReference element anchor)) ∧
    ∀ err, d.toLayout = .error err ↔
      (∃ name, d.FirstRepeated name ∧ err = .duplicateElement name) ∨
        (d.names.Nodup ∧ d.FirstRefused err) := by
  refine ⟨?_, ?_, fun err => toLayout_eq_error_iff⟩
  · constructor
    · rintro ⟨l, hl⟩
      obtain ⟨hd, -⟩ := toLayout_eq_ok_iff.1 hl
      exact ⟨hd.nodup, hd.anchors⟩
    · rintro ⟨hnodup, hanchors⟩
      exact ⟨d.loaded, toLayout_eq_ok_iff.2 ⟨⟨hnodup, hanchors⟩, rfl⟩⟩
  · intro l hl
    obtain ⟨hd, rfl⟩ := toLayout_eq_ok_iff.1 hl
    refine ⟨rfl, rfl, rfl, by simp [loaded, filled, Layout.length], ?_, ?_⟩
    · intro id e he
      have hrules := map_rule?_eq_map_some (hd.anchors e (List.mem_of_getElem? he))
      refine ⟨e.rules.filterMap d.rule?, hrules, ?_⟩
      rw [element?_loaded, he]
      rfl
    · intro element anchor herror
      rcases d.loaded.resolve_cases with ⟨id, anchor', hfirst, -⟩ | ⟨-, -, members, h⟩ | ⟨r, h, -⟩
      · exact hfirst.not_anchored hd.anchored_loaded
      · simp [h] at herror
      · simp [h] at herror

end Document
end AnchorLayout
