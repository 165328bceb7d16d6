import AnchorLayout.Proofs.Resolution
import Mathlib.Data.List.Sort

/-!
# The cycle that is reported

The elements that are left when none is ready wait for each other. A walk among them along anchors
comes back to its own path, and what it has walked since then is a circuit: these elements are
reported, in the order of their declaration. An element that only depends on the circuit is not.
-/

namespace AnchorLayout

/-- Elements without repetition of which each leads to the next, and the last to the first. -/
def Circuit (r : ElementId → ElementId → Prop) : List ElementId → Prop
  | [] => False
  | first :: others => (first :: others).Nodup ∧ List.IsChain r (first :: others ++ [first])

namespace Circuit
variable {r s : ElementId → ElementId → Prop} {members : List ElementId}

theorem imp (hrs : ∀ id next, r id next → s id next) (h : Circuit r members) :
    Circuit s members := by
  cases members with
  | nil => exact h
  | cons first others => exact ⟨h.1, h.2.imp hrs⟩

theorem nodup (h : Circuit r members) : members.Nodup := by
  cases members with
  | nil => exact h.elim
  | cons first others => exact h.1

/-- On a circuit every element leads to itself. -/
theorem transGen_self (h : Circuit r members) :
    ∀ id ∈ members, Relation.TransGen r id id := by
  cases members with
  | nil => exact h.elim
  | cons first others =>
    have hchain := h.2.imp fun _ _ hstep => Relation.TransGen.single hstep
    obtain ⟨hpairs, -, hclosing⟩ := List.pairwise_append.1 (List.isChain_iff_pairwise.1 hchain)
    intro id hid
    have hback : Relation.TransGen r id first := hclosing id hid first (by simp)
    rcases List.mem_cons.1 hid with rfl | hother
    · exact hback
    · exact hback.trans ((List.pairwise_cons.1 hpairs).1 id hother)

end Circuit

/-! ## Walking back to the path -/

/-- A walk along `next?` that has come to an element. The elements that may be walked on are those
with a property, and they lie on the path once they are no longer unvisited. -/
structure Walking (next? : ElementId → Option ElementId) (p : ElementId → Prop)
    (unvisited path : List ElementId) (id : ElementId) : Prop where
  property : p id
  unvisited_nodup : unvisited.Nodup
  path_nodup : path.Nodup
  mem_path : ∀ other, p other → (other ∈ path ↔ other ∉ unvisited)
  chain : List.IsChain (fun later earlier => next? earlier = some later) (id :: path)

namespace Walking
variable {next? : ElementId → Option ElementId} {p : ElementId → Prop}
  {unvisited path : List ElementId} {id next : ElementId}

theorem step (h : Walking next? p unvisited path id) (hid : id ∈ unvisited)
    (hnext : next? id = some next) (hproperty : p next) :
    Walking next? p (unvisited.erase id) (id :: path) next where
  property := hproperty
  unvisited_nodup := h.unvisited_nodup.erase id
  path_nodup := by
    refine List.nodup_cons.2 ⟨?_, h.path_nodup⟩
    rw [h.mem_path id h.property]
    exact not_not_intro hid
  mem_path := by
    intro other hother
    rw [List.mem_cons, h.unvisited_nodup.mem_erase_iff, h.mem_path other hother]
    tauto
  chain := List.isChain_cons_cons.2 ⟨hnext, h.chain⟩

/-- Back on its path a walk has gone around a circuit. -/
theorem circuit (h : Walking next? p unvisited path id) (hid : id ∉ unvisited) :
    Circuit (fun earlier later => next? earlier = some later)
      (path.takeWhile (· ≠ id) ++ [id]).reverse := by
  obtain ⟨recent, older, rfl, hrecent⟩ :=
    List.eq_append_cons_of_mem ((h.mem_path id h.property).2 hid)
  have htake : (recent ++ id :: older).takeWhile (· ≠ id) = recent := by
    rw [List.takeWhile_append_of_pos]
    · simp
    · intro other hother
      simpa using fun heq : other = id => hrecent (heq ▸ hother)
  have hloop : recent ++ [id] <+: recent ++ id :: older :=
    ⟨older, by simp⟩
  rw [htake, List.reverse_append, List.reverse_singleton, List.singleton_append]
  refine ⟨?_, ?_⟩
  · have hnodup := h.path_nodup.sublist hloop.sublist
    rw [← List.nodup_reverse] at hnodup
    simpa using hnodup
  · have hchain := h.chain.prefix ((List.prefix_cons_inj id).2 hloop)
    rw [← List.isChain_reverse]
    simpa using hchain

end Walking

namespace Graph

/-- A walk that can always go on ends with a circuit. -/
theorem circuit_walk {next? : ElementId → Option ElementId} {p : ElementId → Prop}
    (hnext : ∀ id, p id → ∃ next, next? id = some next ∧ p next)
    {unvisited path : List ElementId} {id : ElementId} (h : Walking next? p unvisited path id) :
    Circuit (fun earlier later => next? earlier = some later)
      (walk next? unvisited path id).reverse := by
  fun_induction walk next? unvisited path id with
  | case1 unvisited path id hid next hsome ih =>
    obtain ⟨next', hsome', hproperty⟩ := hnext id h.property
    obtain rfl : next = next' := Option.some.inj (hsome.symm.trans hsome')
    exact ih (h.step hid hsome hproperty)
  | case2 unvisited path id hid hnone =>
    obtain ⟨next, hsome, -⟩ := hnext id h.property
    simp [hnone] at hsome
  | case3 unvisited path id hid => exact h.circuit hid

variable {g : Graph}

/-- When no element is ready any more, those wait that have not been taken. -/
theorem pending_run_pos_iff (hg : g.Coherent) {id : ElementId} (hid : id < g.length) :
    0 < (g.run g.start).pending[id]?.getD 0 ↔ id ∉ (g.run g.start).order := by
  obtain ⟨h, -⟩ := consistent_run hg g.consistent_start
  have hwaits : 0 < (g.run g.start).pending[id]?.getD 0 ↔
      ∃ anchor ∈ g.anchorsOf id, anchor ∉ (g.run g.start).order := by
    simp [h.pending id hid, List.countP_pos_iff]
  rw [hwaits]
  constructor
  · rintro ⟨anchor, hanchor, hleft⟩ htaken
    exact hleft (h.anchorsFirst.subset_of_mem htaken hanchor)
  · exact exists_anchor_notMem_run hg hid

/-- An element that waits has an anchor that waits, to which a walk goes on. -/
theorem exists_nextWaiting (hg : g.Coherent) {id : ElementId}
    (hid : id < g.length ∧ id ∉ (g.run g.start).order) :
    ∃ next, g.nextWaiting? (g.run g.start).pending id = some next ∧
      next < g.length ∧ next ∉ (g.run g.start).order := by
  obtain ⟨anchor, hanchor, hleft⟩ := exists_anchor_notMem_run hg hid.1 hid.2
  have hwaits := (pending_run_pos_iff hg (hg.anchorsOf_lt id anchor hanchor)).2 hleft
  cases hnext : g.nextWaiting? (g.run g.start).pending id with
  | none =>
    have hnot := List.find?_eq_none.1 hnext anchor hanchor
    simp [hwaits] at hnot
  | some next =>
    have hlt := hg.anchorsOf_lt id next (List.mem_of_find?_eq_some hnext)
    have hpos : 0 < (g.run g.start).pending[next]?.getD 0 := by
      simpa using List.find?_some hnext
    exact ⟨next, rfl, hlt, (pending_run_pos_iff hg hlt).1 hpos⟩

/-- If some elements are not taken, one is the first that waits. -/
theorem exists_first_waiting (hg : g.Coherent)
    (hlength : (g.run g.start).order.length ≠ g.length) :
    ∃ first, (g.run g.start).pending.findIdx? (0 < ·) = some first ∧
      first < g.length ∧ first ∉ (g.run g.start).order := by
  obtain ⟨h, -⟩ := consistent_run hg g.consistent_start
  obtain ⟨id, hid, hleft⟩ : ∃ id < g.length, id ∉ (g.run g.start).order := by
    by_contra! hall
    apply hlength
    have hperm : (g.run g.start).order.Perm (List.range g.length) := by
      refine (List.perm_ext_iff_of_nodup h.nodup List.nodup_range).2 fun id => ?_
      simpa using ⟨h.order_lt id, hall id⟩
    rw [hperm.length_eq, List.length_range]
  have hpos := (pending_run_pos_iff hg hid).2 hleft
  rw [h.pending id hid, Option.getD_some] at hpos
  obtain ⟨hidx, hcount⟩ := List.getElem?_eq_some_iff.1 (h.pending id hid)
  cases hfind : (g.run g.start).pending.findIdx? (0 < ·) with
  | none =>
    have hnot := List.findIdx?_eq_none_iff.1 hfind _ (List.getElem_mem hidx)
    simp only [hcount, decide_eq_false_iff_not] at hnot
    exact absurd hpos hnot
  | some first =>
    obtain ⟨hfirst, hwaits, hbefore⟩ := List.findIdx?_eq_some_iff_getElem.1 hfind
    have hle : first ≤ id := by
      by_contra! hlt
      have hnot := hbefore id hlt
      simp only [hcount, decide_eq_true_eq] at hnot
      exact hnot hpos
    have hlt : first < g.length := by omega
    refine ⟨first, rfl, hlt, (pending_run_pos_iff hg hlt).1 ?_⟩
    simpa [List.getElem?_eq_getElem hfirst] using hwaits

/-- A walk among the elements that are not taken can begin at each of them. -/
theorem walking_start (pending : List Nat) {first : ElementId}
    (hfirst : first < g.length ∧ first ∉ (g.run g.start).order) :
    Walking (g.nextWaiting? pending) (fun id => id < g.length ∧ id ∉ (g.run g.start).order)
      (List.range g.length) [] first := by
  refine ⟨hfirst, List.nodup_range, List.nodup_nil, ?_, List.isChain_singleton first⟩
  intro other hother
  simpa using hother.1

/-- What is reported in place of an order is a circuit, in ascending order. -/
theorem circuit_of_topologicalOrder (hg : g.Coherent) {members : List ElementId}
    (h : g.topologicalOrder = .error members) :
    members.Pairwise (· < ·) ∧ ∃ circuit,
      Circuit (fun id anchor => anchor ∈ g.anchorsOf id) circuit ∧ circuit.Perm members := by
  obtain ⟨hlength, rfl⟩ := topologicalOrder_eq_error_iff.1 h
  obtain ⟨first, hfirst, hwaits⟩ := exists_first_waiting hg hlength
  set pending := (g.run g.start).pending
  have hcircuit := circuit_walk (fun id hid => exists_nextWaiting hg hid)
    (walking_start pending hwaits)
  set walked := walk (g.nextWaiting? pending) (List.range g.length) [] first
  have hcycle : g.cycle pending = walked.mergeSort := by
    rw [cycle, hfirst]
  have hperm : walked.reverse.Perm (g.cycle pending) := by
    rw [hcycle]
    exact (List.reverse_perm walked).trans (List.mergeSort_perm walked _).symm
  refine ⟨?_, walked.reverse, hcircuit.imp ?_, hperm⟩
  · have hnodup : (g.cycle pending).Nodup := hperm.nodup_iff.1 hcircuit.nodup
    have hsorted : (g.cycle pending).SortedLE := by
      rw [hcycle]
      exact List.sortedLE_mergeSort
    exact (hsorted.sortedLT_of_nodup hnodup).pairwise
  · intro id next hnext
    exact List.mem_of_find?_eq_some hnext

end Graph
namespace Layout
variable {α : Type} {l : Layout α}

/-- If there is a cycle, a circuit is found. -/
theorem Anchored.exists_circuit (hanchored : l.Anchored) (hcyclic : l.Cyclic) :
    ∃ members, l.resolutionOrder = .error (.cyclicConstraint (members.map l.label)) ∧
      members.Pairwise (· < ·) ∧
      ∃ circuit, Circuit l.DependsOn circuit ∧ circuit.Perm members := by
  obtain ⟨g, hcoherent, -, hanchors, heq⟩ := hanchored.exists_resolutionOrder_eq
  cases htop : g.topologicalOrder with
  | ok order =>
    rcases hanchored.resolutionOrder_cases with ⟨hnot, -⟩ | ⟨-, members, herror⟩
    · exact absurd hcyclic hnot
    · simp [heq, htop, Except.mapError] at herror
  | error members =>
    have hcircuit := Graph.circuit_of_topologicalOrder hcoherent htop
    rw [hanchors] at hcircuit
    exact ⟨members, by simp [heq, htop, Except.mapError], hcircuit⟩

/-- A toolbar whose second and fourth element are anchored on each other; the first is anchored on
the fourth but not the other way round. -/
def sampleToolbar : Layout Coord where
  size := ⟨.clamp 40, .clamp 30⟩
  padding := .none
  elements :=
    [{ name := "hint"
       params :=
        { width := .exact (.clamp 8), height := .exact (.clamp 2), margin := .none
          rules := [.sibling .above 3, .sibling .alignLeft 1] } },
     { name := "open"
       params :=
        { width := .exact (.clamp 4), height := .exact (.clamp 4), margin := .none
          rules := [.sibling .rightOf 2, .sibling .leftOf 3] } },
     { name := "logo"
       params := { width := .exact (.clamp 2), height := .exact (.clamp 2), margin := .none } },
     { name := none
       params :=
        { width := .matchParent, height := .exact (.clamp 6), margin := .none
          rules := [.parent .alignParentTop, .sibling .rightOf 1] } }]

variable [Scalar α]

/-- **A cycle is reported by its members.** If all anchors are elements and some element depends on
itself, the error names a circuit: each of its elements has a rule that is anchored on the next, and
the last on the first. The members are in the order of declaration, none is named twice, and all of
them depend on themselves, so none stands outside and merely waits for the circuit. -/
theorem resolve_reports_circuit (hanchored : l.Anchored) (hcyclic : l.Cyclic) :
    ∃ members, l.resolve = .error (.cyclicConstraint (members.map l.label)) ∧
      members ≠ [] ∧ members.Pairwise (· < ·) ∧
      (∃ circuit, Circuit l.DependsOn circuit ∧ circuit.Perm members) ∧
      ∀ id ∈ members, Relation.TransGen l.DependsOn id id := by
  obtain ⟨members, heq, hsorted, circuit, hcircuit, hperm⟩ := hanchored.exists_circuit hcyclic
  refine ⟨members, ?_, ?_, hsorted, ⟨circuit, hcircuit, hperm⟩, ?_⟩
  · rw [resolve, heq]
    rfl
  · rintro rfl
    rw [List.perm_nil.1 hperm] at hcircuit
    exact hcircuit
  · intro id hid
    exact hcircuit.transGen_self id (hperm.mem_iff.2 hid)

/-- The toolbar is refused, but not for its first element. -/
theorem resolve_reports_circuit_sampleToolbar : sampleToolbar.Anchored ∧ sampleToolbar.Cyclic ∧
    ∃ members, sampleToolbar.resolve =
        .error (.cyclicConstraint (members.map sampleToolbar.label)) ∧
      members ≠ [] ∧ 0 ∉ members ∧ members.Pairwise (· < ·) ∧
      ∃ circuit, Circuit sampleToolbar.DependsOn circuit ∧ circuit.Perm members := by
  have hanchored : sampleToolbar.Anchored := by
    have hrules : ∀ x ∈ sampleToolbar.rules, ∀ a ∈ x.2.anchor?, a < sampleToolbar.length := by
      decide
    exact anchored_iff_rules.2 hrules
  have hcyclic : sampleToolbar.Cyclic := by
    have hthere : 3 ∈ sampleToolbar.anchors 1 := by decide
    have hback : 1 ∈ sampleToolbar.anchors 3 := by decide
    exact ⟨1, .tail (.single hthere) hback⟩
  obtain ⟨members, heq, hne, hsorted, hcircuit, hself⟩ := resolve_reports_circuit hanchored hcyclic
  refine ⟨hanchored, hcyclic, members, heq, hne, ?_, hsorted, hcircuit⟩
  intro hmem
  obtain ⟨last, -, hlast⟩ := Relation.TransGen.tail'_iff.1 (hself 0 hmem)
  have hnone : ∀ id < sampleToolbar.length, 0 ∉ sampleToolbar.anchors id := by decide
  exact hnone last hlast.lt_length hlast

end Layout
end AnchorLayout
