import AnchorLayout.Proofs.Dependency.Cycle
import AnchorLayout.Proofs.Dependency.Least

/-!
# Ordering with all accesses checked

Ordering the elements of a layout looks up and replaces entries of lists by their number, counts
counters down, cuts a path, and repeats two loops whose ends are not in sight: the one that takes
ready elements, and the walk that looks for a cycle. Here each of these is checked: a number that is
no place of its list, a counter that is to go below zero, and a loop that is not over after a given
number of rounds stop the computation. For the graph of a layout none of this occurs. Both lists of
the graph have an entry for each element, a counter counts the releases that are still to come, the
loop takes each element at most once, and the walk comes back to its path at the latest when all
elements lie on it.
-/

namespace AnchorLayout

/-- What stops a checked computation. -/
inductive Stop where
  /-- The layout is refused. -/
  | refused (e : LayoutError)
  /-- A list of a given length has no such place. -/
  | outOfBounds (place length : Nat)
  /-- A counter is zero and is to be counted down. -/
  | belowZero
  /-- A loop has used up its rounds and is not over. -/
  | endless
deriving DecidableEq

/-- A computation whose accesses are checked. -/
abbrev Checked (β : Type) := Except Stop β

namespace Checked
variable {β γ : Type}

/-- The entry of a list at a place. -/
def entry (xs : List β) (place : Nat) : Checked β :=
  match xs[place]? with
  | some x => .ok x
  | none => .error (.outOfBounds place xs.length)

/-- Replaces the entry of a list at a place. -/
def replace (xs : List β) (place : Nat) (x : β) : Checked (List β) :=
  if place < xs.length then .ok (xs.set place x) else .error (.outOfBounds place xs.length)

/-- The entries of a list from a place on, which may be its end. -/
def suffix (xs : List β) (place : Nat) : Checked (List β) :=
  if place ≤ xs.length then .ok (xs.drop place) else .error (.outOfBounds place xs.length)

/-- Counts a counter down. -/
def countDown : Nat → Checked Nat
  | 0 => .error .belowZero
  | n + 1 => .ok n

theorem entry_eq {xs : List β} {place : Nat} {x : β} (h : xs[place]? = some x) :
    entry xs place = .ok x := by
  rw [entry, h]

theorem replace_eq {xs : List β} {place : Nat} (h : place < xs.length) (x : β) :
    replace xs place x = .ok (xs.set place x) :=
  if_pos h

theorem suffix_eq {xs : List β} {place : Nat} (h : place ≤ xs.length) :
    suffix xs place = .ok (xs.drop place) :=
  if_pos h

/-- A fold whose steps do what others do, refusals included, as long as an invariant holds. -/
theorem foldlM_eq_mapError {p : β → Prop} {f : β → γ → Checked β}
    {f' : β → γ → Except LayoutError β} {xs : List γ} {b : β} (hb : p b)
    (hstep : ∀ b, p b → ∀ x ∈ xs, f b x = (f' b x).mapError .refused ∧ ∀ b', f' b x = .ok b' → p b') :
    xs.foldlM f b = (xs.foldlM f' b).mapError .refused := by
  induction xs generalizing b with
  | nil => rfl
  | cons x xs ih =>
    obtain ⟨heq, hkeeps⟩ := hstep b hb x List.mem_cons_self
    rw [List.foldlM_cons, List.foldlM_cons, heq]
    cases hx : f' b x with
    | error e => rfl
    | ok b' => exact ih (hkeeps b' hx) fun b hb x hx => hstep b hb x (List.mem_cons_of_mem _ hx)

/-- A fold whose steps do what plain ones do, as long as an invariant holds. -/
theorem foldlM_eq_foldl {p : β → Prop} {f : β → γ → Checked β} {f' : β → γ → β} {xs : List γ} {b : β}
    (hb : p b) (hstep : ∀ b, p b → ∀ x ∈ xs, f b x = .ok (f' b x) ∧ p (f' b x)) :
    xs.foldlM f b = .ok (xs.foldl f' b) := by
  induction xs generalizing b with
  | nil => rfl
  | cons x xs ih =>
    obtain ⟨heq, hkeeps⟩ := hstep b hb x List.mem_cons_self
    rw [List.foldlM_cons, List.foldl_cons, heq]
    exact ih hkeeps fun b hb x hx => hstep b hb x (List.mem_cons_of_mem _ hx)

theorem findM?_eq_find? {f : γ → Checked Bool} {q : γ → Bool} {xs : List γ}
    (h : ∀ x ∈ xs, f x = .ok (q x)) : xs.findM? f = .ok (xs.find? q) := by
  induction xs with
  | nil => rfl
  | cons x xs ih =>
    rw [List.findM?, h x List.mem_cons_self, List.find?_cons]
    cases q x with
    | true => rfl
    | false => exact ih fun y hy => h y (List.mem_cons_of_mem _ hy)

theorem filterM_eq_filter {f : γ → Checked Bool} {q : γ → Bool} {xs : List γ}
    (h : ∀ x ∈ xs, f x = .ok (q x)) : xs.filterM f = .ok (xs.filter q) := by
  have haux (found : List γ) :
      List.filterAuxM f xs found = .ok ((xs.filter q).reverse ++ found) := by
    induction xs generalizing found with
    | nil => rfl
    | cons x xs ih =>
      have hrest := ih fun y hy => h y (List.mem_cons_of_mem _ hy)
      rw [List.filterAuxM, h x List.mem_cons_self]
      cases hq : q x with
      | true => exact (hrest (x :: found)).trans (by simp [hq])
      | false => exact (hrest found).trans (by simp [hq])
  rw [List.filterM, haux]
  simp [bind, Except.bind, pure, Except.pure]

end Checked

open Checked

/-! ## The checked ordering -/

namespace Graph

/-- Notes that a rule of one element is anchored on another. -/
def linkChecked (g : Graph) (id anchor : ElementId) : Checked Graph := do
  let anchors ← replace g.anchors id ((← entry g.anchors id) ++ [anchor])
  let dependents ← replace g.dependents anchor ((← entry g.dependents anchor) ++ [id])
  return { anchors, dependents }

/-- Before the first element is taken, every rule waits, and the elements without are ready. -/
def startChecked (g : Graph) : Checked Progress := do
  let pending := g.anchors.map List.length
  let ready ← (List.range g.length).filterM fun id => do return (← entry pending id) = 0
  return { order := [], pending, ready }

end Graph

/-- One rule of an element no longer waits. -/
def Progress.releaseChecked (s : Progress) (id : ElementId) : Checked Progress := do
  let n ← countDown (← entry s.pending id)
  let pending ← replace s.pending id n
  return { s with pending, ready := if n = 0 then id :: s.ready else s.ready }

namespace Graph

/-- Takes an element that is ready; the rules anchored on it no longer wait. -/
def takeChecked (g : Graph) (s : Progress) (id : ElementId) : Checked Progress := do
  (← entry g.dependents id).foldlM Progress.releaseChecked
    { s with order := s.order ++ [id], ready := s.ready.erase id }

/-- Takes elements, each time the first declared of those that are ready, until none is. -/
def runChecked (g : Graph) : Nat → Progress → Checked Progress
  | 0, s => if s.ready.isEmpty then .ok s else .error .endless
  | rounds + 1, s =>
    match s.ready.min? with
    | none => .ok s
    | some id => do g.runChecked rounds (← g.takeChecked s id)

/-- The first anchor of an element that waits itself. -/
def nextWaitingChecked (g : Graph) (pending : List Nat) (id : ElementId) :
    Checked (Option ElementId) := do
  (← entry g.anchors id).findM? fun anchor => do return 0 < (← entry pending anchor)

/-- Walks from an element along its anchors until it comes back to an element of the path; the members
of the cycle are those of the path since then. The place of each element on the path is noted. -/
def walkChecked (g : Graph) (pending : List Nat) :
    Nat → List (Option Nat) → List ElementId → ElementId → Checked (List ElementId)
  | 0, _, _, _ => .error .endless
  | rounds + 1, places, path, id => do
    match ← entry places id with
    | some place => return (← suffix path place).mergeSort
    | none =>
      let places ← replace places id (some path.length)
      match ← g.nextWaitingChecked pending id with
      | some next => g.walkChecked pending rounds places (path ++ [id]) next
      | none => return path ++ [id]

/-- The members of a cycle among the elements that still wait, in ascending order. Each round of the
walk but the last comes to another element. -/
def cycleChecked (g : Graph) (pending : List Nat) : Checked (List ElementId) :=
  match pending.findIdx? (0 < ·) with
  | none => .ok []
  | some first => g.walkChecked pending (g.length + 1) (List.replicate g.length none) [] first

/-- All elements, each after its anchors, or else the members of a cycle. Each round takes an
element. -/
def topologicalOrderChecked (g : Graph) :
    Checked (Except (List ElementId) (List ElementId)) := do
  let s ← g.runChecked g.length (← g.startChecked)
  if s.order.length = g.length then return .ok s.order
  else return .error (← g.cycleChecked s.pending)

end Graph

/-- Notes the anchor of a rule, which has to be an element. -/
def Layout.linkRuleChecked {α : Type} (l : Layout α) (g : Graph) : ElementId × Rule → Checked Graph
  | (_, .parent _) => .ok g
  | (id, .sibling _ anchor) =>
    if anchor < l.length then g.linkChecked id anchor
    else .error (.refused (.danglingReference (l.label id) (indexLabel anchor)))

/-- The graph of all rules. -/
def Layout.graphChecked {α : Type} (l : Layout α) : Checked Graph :=
  l.rules.foldlM l.linkRuleChecked (.edgeless l.length)

/-! ## Building the graph -/

namespace Graph
variable {g : Graph} {id anchor : ElementId}

/-- A graph that has both entries for each of a number of elements. -/
structure Sized (g : Graph) (n : Nat) : Prop where
  anchors : g.anchors.length = n
  dependents : g.dependents.length = n

theorem sized_edgeless (n : Nat) : (edgeless n).Sized n :=
  ⟨List.length_replicate, List.length_replicate⟩

theorem Sized.link {n : Nat} (h : g.Sized n) (id anchor : ElementId) :
    (g.link id anchor).Sized n where
  anchors := (List.length_modify _ _ _).trans h.anchors
  dependents := (List.length_modify _ _ _).trans h.dependents

theorem Sized.linkChecked_eq {n : Nat} (h : g.Sized n) (hid : id < n) (hanchor : anchor < n) :
    g.linkChecked id anchor = .ok (g.link id anchor) := by
  rw [← h.anchors] at hid
  rw [← h.dependents] at hanchor
  rw [linkChecked, entry_eq (List.getElem?_eq_getElem hid),
    entry_eq (List.getElem?_eq_getElem hanchor)]
  simp only [bind, Except.bind, pure, Except.pure, replace_eq hid, replace_eq hanchor]
  rw [Graph.link, List.modify_eq_set_getElem?, List.modify_eq_set_getElem?]
  simp [hid, hanchor]

end Graph

namespace Layout
variable {α : Type} {l : Layout α}

/-- Noting a rule needs no place outside the graph. -/
theorem linkRuleChecked_eq {g : Graph} (h : g.Sized l.length) {x : ElementId × Rule}
    (hid : x.1 < l.length) :
    l.linkRuleChecked g x = (l.linkRule g x).mapError .refused ∧
      ∀ g', l.linkRule g x = .ok g' → g'.Sized l.length := by
  obtain ⟨id, rule⟩ := x
  cases rule with
  | parent verb =>
    refine ⟨rfl, ?_⟩
    rintro g' ⟨⟩
    exact h
  | sibling verb anchor =>
    rw [linkRuleChecked, linkRule]
    split
    case isTrue hanchor =>
      refine ⟨h.linkChecked_eq hid hanchor, ?_⟩
      rintro g' ⟨⟩
      exact h.link id anchor
    case isFalse => exact ⟨rfl, fun g' hg' => by cases hg'⟩

theorem graphChecked_eq (l : Layout α) : l.graphChecked = l.graph.mapError .refused :=
  foldlM_eq_mapError (Graph.sized_edgeless l.length) fun _ hg _ hx =>
    linkRuleChecked_eq hg (fst_lt_length hx)

/-- A graph that is built has both entries for each element. -/
theorem Anchored.exists_sized_graph (h : l.Anchored) :
    ∃ g, l.graph = .ok g ∧ g.Coherent ∧ g.length = l.length ∧ g.Sized g.length := by
  obtain ⟨g, hg, hcoherent, hlength, -⟩ := h.exists_graph
  obtain ⟨g', hg', hnotes⟩ := notes_foldlM (Graph.notes_edgeless l.length)
    (fun _ => fst_lt_length) (anchored_iff_rules.1 h)
  obtain rfl := Except.ok.inj (hg.symm.trans hg')
  exact ⟨g, hg, hcoherent, hlength, rfl, hnotes.length_dependents.trans hlength.symm⟩

end Layout

/-! ## Taking elements -/

namespace Progress
variable {g : Graph} {s : Progress} {id : ElementId} {owed : List ElementId}

/-- A release that is owed finds a counter above zero. -/
theorem Consistent.releaseChecked_eq (h : Consistent g (id :: owed) s) :
    s.releaseChecked id = .ok (s.release id) := by
  obtain ⟨hid, -⟩ := h.owed_left id List.mem_cons_self
  have hpending := h.pending id hid
  rw [List.count_cons_self, ← Nat.add_assoc] at hpending
  have hlt : id < s.pending.length := (List.getElem?_eq_some_iff.1 hpending).1
  rw [releaseChecked, entry_eq hpending, release_of_pending hpending]
  simp only [bind, Except.bind, pure, Except.pure, countDown, replace_eq hlt]

/-- So do all releases that are owed. -/
theorem Consistent.foldlM_releaseChecked_eq (h : Consistent g owed s) :
    owed.foldlM releaseChecked s = .ok (owed.foldl Progress.release s) := by
  induction owed generalizing s with
  | nil => rfl
  | cons id owed ih =>
    rw [List.foldlM_cons, h.releaseChecked_eq]
    exact ih h.release

/-- As long as an element is ready, not all are taken. -/
theorem Consistent.length_order_lt (h : Consistent g [] s) (hid : id ∈ s.ready) :
    s.order.length < g.length := by
  obtain ⟨hlt, hleft, -⟩ := h.mem_ready_iff.1 hid
  have hsub : id :: s.order ⊆ List.range g.length := by
    intro other hother
    rcases List.mem_cons.1 hother with rfl | hother
    · exact List.mem_range.2 hlt
    · exact List.mem_range.2 (h.order_lt other hother)
  have hle := ((List.nodup_cons.2 ⟨hleft, h.nodup⟩).subperm hsub).length_le
  rwa [List.length_cons, List.length_range] at hle

end Progress

namespace Graph
variable {g : Graph} {s : Progress} {id : ElementId}

theorem takeChecked_eq (hg : g.Coherent) (hsized : g.Sized g.length) (h : s.Consistent g [])
    (hid : id ∈ s.ready) : g.takeChecked s id = .ok (s.take (g.dependentsOf id) id) := by
  have hlt : id < g.dependents.length := by
    rw [hsized.dependents]
    exact ((h.mem_ready id).1 hid).1
  have hdependents : g.dependents[id]? = some (g.dependentsOf id) := by
    rw [dependentsOf, List.getElem?_eq_getElem hlt, Option.getD_some]
  rw [takeChecked, entry_eq hdependents]
  exact (h.append hg hid).foldlM_releaseChecked_eq

/-- The loop is over after as many rounds as there are elements left. -/
theorem runChecked_eq (hg : g.Coherent) (hsized : g.Sized g.length) (h : s.Consistent g [])
    {rounds : Nat} (hrounds : g.length ≤ s.order.length + rounds) :
    g.runChecked rounds s = .ok (g.run s) := by
  fun_induction g.run s generalizing rounds with
  | case1 s hnone =>
    cases rounds with
    | zero => simp [runChecked, List.min?_eq_none_iff.1 hnone]
    | succ rounds => simp [runChecked, hnone]
  | case2 s id hsome ih =>
    have hid := List.min?_mem hsome
    have hlength := h.length_order_lt hid
    cases rounds with
    | zero => omega
    | succ rounds =>
      rw [runChecked, hsome]
      simp only [takeChecked_eq hg hsized h hid]
      refine ih (h.take hg hid) ?_
      rw [Progress.order_take, List.length_append, List.length_singleton]
      omega

theorem startChecked_eq (g : Graph) : g.startChecked = .ok g.start := by
  have hready : ∀ id ∈ List.range g.length,
      (do return (← entry (g.anchors.map List.length) id) = 0 : Checked Bool) =
        .ok (g.anchorsOf id).isEmpty := by
    intro id hid
    have hlt : id < g.anchors.length := List.mem_range.1 hid
    have hcount : (g.anchors.map List.length)[id]? = some (g.anchorsOf id).length := by
      simp [anchorsOf, List.getElem?_eq_getElem hlt]
    rw [entry_eq hcount]
    cases g.anchorsOf id <;> rfl
  rw [startChecked, filterM_eq_filter hready]
  rfl

/-! ## Walking to a cycle -/

theorem nextWaitingChecked_eq (hg : g.Coherent) {pending : List Nat}
    (hpending : ∀ id < g.length, id < pending.length) (hid : id < g.length) :
    g.nextWaitingChecked pending id = .ok (g.nextWaiting? pending id) := by
  have hanchors : g.anchors[id]? = some (g.anchorsOf id) := by
    rw [anchorsOf, List.getElem?_eq_getElem hid, Option.getD_some]
  rw [nextWaitingChecked, entry_eq hanchors]
  refine findM?_eq_find? fun anchor hanchor => ?_
  have hlt := hpending anchor (hg.anchorsOf_lt id anchor hanchor)
  rw [entry_eq (List.getElem?_eq_getElem hlt), List.getElem?_eq_getElem hlt]
  rfl

/-- For each element its place on a path, if it lies there. -/
structure Places (g : Graph) (path : List ElementId) (places : List (Option Nat)) : Prop where
  length_eq : places.length = g.length
  getElem? : ∀ id < g.length,
    places[id]? = some (if id ∈ path then some (path.idxOf id) else none)

theorem places_nil (g : Graph) : g.Places [] (List.replicate g.length none) where
  length_eq := List.length_replicate
  getElem? id hid := by simp [hid]

theorem Places.concat {path : List ElementId} {places : List (Option Nat)}
    (h : g.Places path places) (hid : id ∉ path) (hlt : id < g.length) :
    g.Places (path ++ [id]) (places.set id (some path.length)) where
  length_eq := List.length_set.trans h.length_eq
  getElem? other hother := by
    by_cases heq : id = other
    · subst heq
      simp [h.length_eq, hlt, List.idxOf_append_of_notMem hid]
    · rw [List.getElem?_set_ne heq, h.getElem? other hother]
      by_cases hmem : other ∈ path
      · simp [hmem, List.idxOf_append_of_mem hmem]
      · simp [hmem, Ne.symm heq]

/-- Back on its path a walk reports the elements of the path from there on. -/
theorem mergeSort_drop_idxOf {path : List ElementId} (hnodup : path.Nodup) (hid : id ∈ path) :
    (path.drop (path.idxOf id)).mergeSort =
      (path.reverse.takeWhile (· ≠ id) ++ [id]).mergeSort := by
  obtain ⟨older, recent, rfl, hnot⟩ := List.eq_append_cons_of_mem hid
  have hrecent : ∀ other ∈ recent.reverse, decide (other ≠ id) = true := by
    intro other hother
    have := (List.nodup_cons.1 (List.nodup_append.1 hnodup).2.1).1
    simpa using fun heq : other = id => this (heq ▸ List.mem_reverse.1 hother)
  have hdrop : (older ++ id :: recent).drop ((older ++ id :: recent).idxOf id) = id :: recent := by
    rw [List.idxOf_append_of_notMem hnot, List.idxOf_cons_self, Nat.add_zero, List.drop_left]
  have htake : (older ++ id :: recent).reverse.takeWhile (· ≠ id) ++ [id] =
      (id :: recent).reverse := by
    rw [List.reverse_append, List.reverse_cons, List.append_assoc,
      List.takeWhile_append_of_pos hrecent]
    simp
  rw [hdrop, htake]
  refine List.Perm.eq_of_sortedLE List.sortedLE_mergeSort List.sortedLE_mergeSort ?_
  calc (id :: recent).mergeSort
    List.Perm _ (id :: recent) := List.mergeSort_perm _ _
    List.Perm _ (id :: recent).reverse := (List.reverse_perm _).symm
    List.Perm _ (id :: recent).reverse.mergeSort := (List.mergeSort_perm _ _).symm

/-- A walk that can always go on is over after one round more than there are elements to visit. -/
theorem walkChecked_eq (hg : g.Coherent) {pending : List Nat}
    (hpending : ∀ id < g.length, id < pending.length)
    {p : ElementId → Prop} (hlt : ∀ id, p id → id < g.length)
    (hnext : ∀ id, p id → ∃ next, g.nextWaiting? pending id = some next ∧ p next)
    {rounds : Nat} {unvisited path : List ElementId} {places : List (Option Nat)}
    (hplaces : g.Places path places)
    (h : Walking (g.nextWaiting? pending) p unvisited path.reverse id)
    (hrounds : unvisited.length < rounds) :
    g.walkChecked pending rounds places path id =
      .ok (walk (g.nextWaiting? pending) unvisited path.reverse id).mergeSort := by
  induction rounds generalizing unvisited path places id with
  | zero => omega
  | succ rounds ih =>
    have hid := hlt id h.property
    have hmem : id ∈ path ↔ id ∉ unvisited := by
      rw [← List.mem_reverse, h.mem_path id h.property]
    rw [walkChecked, entry_eq (hplaces.getElem? id hid), walk]
    by_cases hvisited : id ∈ path
    case pos =>
      have hplace : path.idxOf id ≤ path.length := List.idxOf_le_length
      have hnodup : path.Nodup := List.nodup_reverse.1 h.path_nodup
      simp only [hvisited, hmem.1 hvisited, if_true, dite_false, bind, Except.bind,
        suffix_eq hplace, mergeSort_drop_idxOf hnodup hvisited]
      rfl
    case neg =>
      have hunvisited : id ∈ unvisited := by simpa [hmem] using hvisited
      have hplace : id < places.length := hplaces.length_eq ▸ hid
      obtain ⟨next, hsome, hproperty⟩ := hnext id h.property
      have hstep := h.step hunvisited hsome hproperty
      rw [← List.reverse_concat] at hstep
      have hfewer : (unvisited.erase id).length < rounds := by
        have := List.length_pos_of_mem hunvisited
        rw [List.length_erase_of_mem hunvisited]
        omega
      simp only [hvisited, hunvisited, if_false, dite_true, bind, Except.bind, replace_eq hplace,
        nextWaitingChecked_eq hg hpending hid, hsome, ← List.reverse_concat]
      exact ih (hplaces.concat hvisited hid) hstep hfewer

/-- The members of a cycle are found when no element is ready and some are left. -/
theorem cycleChecked_eq (hg : g.Coherent) (hlength : (g.run g.start).order.length ≠ g.length) :
    g.cycleChecked (g.run g.start).pending = .ok (g.cycle (g.run g.start).pending) := by
  obtain ⟨first, hfirst, hwaits⟩ := exists_first_waiting hg hlength
  rw [cycleChecked, cycle, hfirst]
  refine walkChecked_eq hg ?_ (fun id hid => hid.1) (fun id hid => exists_nextWaiting hg hid)
    (places_nil g) (walking_start _ hwaits) ?_
  · intro id hid
    have h := (consistent_run hg g.consistent_start).1
    exact (List.getElem?_eq_some_iff.1 (h.pending id hid)).1
  · rw [List.length_range]
    exact Nat.lt_succ_self _

/-- Ordering the elements of a coherent graph is never stopped. -/
theorem topologicalOrderChecked_eq (hg : g.Coherent) (hsized : g.Sized g.length) :
    g.topologicalOrderChecked = .ok g.topologicalOrder := by
  have hrun : g.runChecked g.length g.start = .ok (g.run g.start) :=
    runChecked_eq hg hsized g.consistent_start (Nat.le_add_left _ _)
  rw [topologicalOrderChecked, topologicalOrder, startChecked_eq]
  simp only [bind, Except.bind, hrun]
  split
  case isTrue => rfl
  case isFalse hlength =>
    rw [cycleChecked_eq hg hlength]
    rfl

end Graph
end AnchorLayout
