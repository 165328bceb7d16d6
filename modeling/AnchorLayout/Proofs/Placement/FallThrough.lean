import AnchorLayout.Layout.Placement
import AnchorLayout.Proofs.Dependency.Schedule

/-!
# Falling through gone anchors

A verb that meets a gone element goes on to the anchor of the last rule of that element whose verb
comes to the same, until it meets an element that is laid out. The walk that follows such a chain
takes at most as many steps as there are elements; with a schedule it finds every end of a chain,
because positions in the schedule fall along it.
-/

namespace AnchorLayout

/-- A search from the end of a list finds the last entry that gives a result. -/
theorem findSome?_reverse_eq_some_iff {β γ : Type} {f : β → Option γ} {xs : List β} {c : γ} :
    xs.reverse.findSome? f = some c ↔
      ∃ before x after, xs = before ++ x :: after ∧ f x = some c ∧ ∀ y ∈ after, f y = none := by
  rw [List.findSome?_eq_some_iff]
  constructor
  · rintro ⟨after, x, before, heq, hx, hafter⟩
    refine ⟨before.reverse, x, after.reverse, ?_, hx, by simpa using hafter⟩
    rw [← List.reverse_reverse xs, heq]
    simp
  · rintro ⟨before, x, after, rfl, hx, hafter⟩
    exact ⟨after.reverse, x, before.reverse, by simp, hx, by simpa using hafter⟩

namespace Layout
variable {α : Type} {l : Layout α} {verb : SiblingVerb} {id next last : ElementId}

/-- The anchor of the last rule of an element whose verb comes to a given one. -/
def LastAnchor (l : Layout α) (verb : SiblingVerb) (e : Element α) (anchor : ElementId) : Prop :=
  ∃ before other after, e.params.rules = before ++ .sibling other anchor :: after ∧
    other.toward l.direction = verb ∧
    ∀ later a, .sibling later a ∈ after → later.toward l.direction ≠ verb

/-- From an anchor, a verb falls through gone elements to the first that is laid out. -/
inductive FallsTo (l : Layout α) (verb : SiblingVerb) : ElementId → ElementId → Prop
  | laidOut {id : ElementId} {e : Element α} (he : l.element? id = some e)
      (hvisible : e.params.visibility ≠ .gone) : FallsTo l verb id id
  | through {id next last : ElementId} {e : Element α} (he : l.element? id = some e)
      (hgone : e.params.visibility = .gone) (hnext : l.LastAnchor verb e next)
      (htail : FallsTo l verb next last) : FallsTo l verb id last

theorem fallThrough?_eq_some_iff {e : Element α} {anchor : ElementId} :
    l.fallThrough? verb e = some anchor ↔ l.LastAnchor verb e anchor := by
  rw [fallThrough?, findSome?_reverse_eq_some_iff]
  constructor
  · rintro ⟨before, rule, after, heq, hrule, hafter⟩
    obtain ⟨other, a⟩ | _ := rule
    · have hother : other.toward l.direction = verb ∧ a = anchor := by simpa using hrule
      refine ⟨before, other, after, hother.2 ▸ heq, hother.1, ?_⟩
      intro later a hmem
      simpa using hafter _ hmem
    · simp at hrule
  · rintro ⟨before, other, after, heq, hother, hafter⟩
    refine ⟨before, _, after, heq, by simp [hother], ?_⟩
    intro rule hmem
    cases rule with
    | sibling later a => simpa using hafter later a hmem
    | parent _ => rfl

theorem LastAnchor.unique {e : Element α} {a b : ElementId} (ha : l.LastAnchor verb e a)
    (hb : l.LastAnchor verb e b) : a = b := by
  rw [← fallThrough?_eq_some_iff] at ha hb
  exact Option.some.inj (ha.symm.trans hb)

theorem LastAnchor.dependsOn {e : Element α} (he : l.element? id = some e)
    (h : l.LastAnchor verb e next) : l.DependsOn id next := by
  obtain ⟨before, other, after, heq, -, -⟩ := h
  exact dependsOn_iff.2 ⟨e, other, he, by simp [heq]⟩

namespace FallsTo

/-- A chain ends at an element that is laid out. -/
theorem exists_element (h : l.FallsTo verb id last) :
    ∃ e, l.element? last = some e ∧ e.params.visibility ≠ .gone := by
  induction h with
  | laidOut he hvisible => exact ⟨_, he, hvisible⟩
  | through _ _ _ _ ih => exact ih

/-- A chain has one end. -/
theorem unique {other : ElementId} (h : l.FallsTo verb id last) (h' : l.FallsTo verb id other) :
    last = other := by
  induction h with
  | laidOut he hvisible =>
    cases h' with
    | laidOut => rfl
    | through he' hgone =>
      obtain rfl := Option.some.inj (he.symm.trans he')
      exact absurd hgone hvisible
  | through he hgone hnext _ ih =>
    cases h' with
    | laidOut he' hvisible =>
      obtain rfl := Option.some.inj (he.symm.trans he')
      exact absurd hgone hvisible
    | through he' _ hnext' htail' =>
      obtain rfl := Option.some.inj (he.symm.trans he')
      obtain rfl := hnext.unique hnext'
      exact ih htail'

/-- A chain follows dependencies. -/
theorem reflTransGen (h : l.FallsTo verb id last) : Relation.ReflTransGen l.DependsOn id last := by
  induction h with
  | laidOut => exact .refl
  | through he _ hnext _ ih => exact .head (hnext.dependsOn he) ih

/-- A chain stays among elements that hold the anchors of all of them. -/
theorem mem_of_closed {s : List ElementId} (h : l.FallsTo verb id last)
    (hs : ∀ id ∈ s, l.anchors id ⊆ s) (hid : id ∈ s) : last ∈ s := by
  induction h with
  | laidOut => exact hid
  | through he _ hnext _ ih => exact ih (hs _ hid (hnext.dependsOn he))

/-- A chain from an anchor of an element ends before the element. -/
theorem mem_before {anchor : ElementId} {before after : List ElementId}
    (h : l.FallsTo verb anchor last) (hfirst : AnchorsFirst l.anchors (before ++ id :: after))
    (hdep : l.DependsOn id anchor) : last ∈ before :=
  h.mem_of_closed (fun _ => hfirst.left.subset_of_mem) (hfirst before id after rfl hdep)

end FallsTo

/-- What the walk finds is the end of a chain. -/
theorem fallsTo_of_laidOutWithin? {n : Nat} (h : l.laidOutWithin? verb n id = some last) :
    l.FallsTo verb id last := by
  induction n generalizing id with
  | zero => simp [laidOutWithin?] at h
  | succ n ih =>
    rw [laidOutWithin?] at h
    cases he : l.element? id with
    | none => simp [he] at h
    | some e =>
      simp only [he] at h
      by_cases hgone : e.params.visibility = .gone
      · cases hnext : l.fallThrough? verb e with
        | none => simp [hgone, hnext] at h
        | some next =>
          simp only [hgone, hnext, ne_eq, not_true_eq_false, if_false] at h
          exact .through he hgone (fallThrough?_eq_some_iff.1 hnext) (ih h)
      · simp only [ne_eq, hgone, not_false_eq_true, if_true, Option.some.injEq] at h
        subst h
        exact .laidOut he hgone

/-- The walk finds the end of a chain in as many steps as the schedule leaves it. -/
theorem laidOutWithin?_of_fallsTo {order : List ElementId} (hs : l.Schedule order) {n : Nat}
    (hn : order.idxOf id < n) (h : l.FallsTo verb id last) :
    l.laidOutWithin? verb n id = some last := by
  induction h generalizing n with
  | laidOut he hvisible =>
    obtain ⟨m, rfl⟩ := Nat.exists_eq_add_of_lt hn
    simp [laidOutWithin?, he, hvisible]
  | @through id next last e he hgone hnext _ ih =>
    obtain ⟨m, rfl⟩ : ∃ m, n = m + 1 := ⟨n - 1, by omega⟩
    have hlt := hs.idxOf_lt (.single (hnext.dependsOn he))
    simp only [laidOutWithin?, he, hgone, fallThrough?_eq_some_iff.2 hnext, ne_eq,
      not_true_eq_false, if_false]
    exact ih (by omega)

theorem laidOutWithin?_eq_some_iff {order : List ElementId} (hs : l.Schedule order) {n : Nat}
    (hn : l.length < n) : l.laidOutWithin? verb n id = some last ↔ l.FallsTo verb id last := by
  refine ⟨fallsTo_of_laidOutWithin?, laidOutWithin?_of_fallsTo hs ?_⟩
  have hle : order.idxOf id ≤ order.length := List.idxOf_le_length
  rw [hs.perm.length_eq, ids, List.length_range] at hle
  omega

theorem laidOutAnchor?_eq_some_iff {order : List ElementId} (hs : l.Schedule order) :
    l.laidOutAnchor? verb id = some last ↔ l.FallsTo verb id last :=
  laidOutWithin?_eq_some_iff hs (Nat.lt_succ_self _)

/-- A larger bound finds nothing more. -/
theorem laidOutWithin?_eq_laidOutAnchor? {order : List ElementId} (hs : l.Schedule order) {n : Nat}
    (hn : l.length < n) : l.laidOutWithin? verb n id = l.laidOutAnchor? verb id := by
  ext last
  rw [laidOutWithin?_eq_some_iff hs hn, laidOutAnchor?_eq_some_iff hs]

theorem laidOutAnchor?_eq_none_iff {order : List ElementId} (hs : l.Schedule order) :
    l.laidOutAnchor? verb id = none ↔ ∀ last, ¬ l.FallsTo verb id last := by
  rw [Option.eq_none_iff_forall_ne_some]
  simp only [ne_eq, laidOutAnchor?_eq_some_iff hs]

/-- The elements against which the rules of an element are taken stand before it. -/
theorem idxOf_lt_of_laidOutAnchor? {order : List ElementId} (hs : l.Schedule order)
    {e : Element α} (he : l.element? id = some e) {other : SiblingVerb} {anchor : ElementId}
    (hrule : .sibling other anchor ∈ e.params.rules)
    (hlast : l.laidOutAnchor? verb anchor = some last) : order.idxOf last < order.idxOf id := by
  have hdep : l.DependsOn id anchor := dependsOn_iff.2 ⟨e, other, he, hrule⟩
  exact hs.idxOf_lt (.head' hdep (fallsTo_of_laidOutWithin? hlast).reflTransGen)

end Layout
end AnchorLayout
