import AnchorLayout.Layout

/-!
# Which element waits for which

An element depends on the anchors of its sibling rules and is resolved after all of them. For each
element the number of rules that still wait for their anchor is kept; the elements for which it is
zero are ready, and among them the first declared is taken. If some elements are never ready, a walk
along anchors among them returns to its own path, and the elements from there on form a cycle.
-/

namespace AnchorLayout

/-- Who waits for whom, by element number. -/
structure Graph where
  /-- The anchors of each element, one for each sibling rule. -/
  anchors : List (List ElementId)
  /-- The elements anchored on each element, one for each rule that is. -/
  dependents : List (List ElementId)
deriving DecidableEq

/-- How far an ordering has come. -/
structure Progress where
  /-- The elements taken so far. -/
  order : List ElementId
  /-- For each element, how many of its rules wait for an anchor that is not taken. -/
  pending : List Nat
  /-- The elements that are not taken and wait for nothing, as a bag. -/
  ready : List ElementId
deriving DecidableEq

namespace Progress

/-- One rule of an element no longer waits. -/
def release (s : Progress) (id : ElementId) : Progress :=
  match s.pending[id]? with
  | some 1 => { s with pending := s.pending.set id 0, ready := id :: s.ready }
  | some (n + 2) => { s with pending := s.pending.set id (n + 1) }
  | _ => s

/-- Takes an element that is ready; the rules anchored on it no longer wait. -/
def take (s : Progress) (dependents : List ElementId) (id : ElementId) : Progress :=
  dependents.foldl release { s with order := s.order ++ [id], ready := s.ready.erase id }

/-- How many elements can still be taken at most. -/
def remaining (s : Progress) : Nat := s.pending.countP (0 < ·) + s.ready.length

/-- An element that is released moves from those that wait to those that are ready, or stays. -/
theorem remaining_release (s : Progress) (id : ElementId) :
    (s.release id).remaining = s.remaining := by
  unfold release
  split
  · rename_i h
    obtain ⟨hid, h⟩ := List.getElem?_eq_some_iff.1 h
    have hpos : 0 < s.pending.countP (0 < ·) :=
      List.countP_pos_iff.2 ⟨_, List.getElem_mem hid, by simp [h]⟩
    simp [remaining, List.countP_set, hid, h]
    omega
  · rename_i h
    obtain ⟨hid, h⟩ := List.getElem?_eq_some_iff.1 h
    have hpos : 0 < s.pending.countP (0 < ·) :=
      List.countP_pos_iff.2 ⟨_, List.getElem_mem hid, by simp [h]⟩
    simp [remaining, List.countP_set, hid, h]
    omega
  · rfl

theorem remaining_foldl_release (ids : List ElementId) (s : Progress) :
    (ids.foldl release s).remaining = s.remaining := by
  induction ids generalizing s with
  | nil => rfl
  | cons id ids ih => rw [List.foldl_cons, ih, remaining_release]

theorem remaining_take_lt (s : Progress) (dependents : List ElementId) {id : ElementId}
    (h : id ∈ s.ready) : (s.take dependents id).remaining < s.remaining := by
  have hpos := List.length_pos_of_mem h
  rw [take, remaining_foldl_release]
  simp only [remaining, List.length_erase_of_mem h]
  omega

end Progress

namespace Graph

/-- The graph of `n` elements without anchors. -/
def edgeless (n : Nat) : Graph := ⟨List.replicate n [], List.replicate n []⟩

/-- Notes that a rule of one element is anchored on another. -/
def link (g : Graph) (id anchor : ElementId) : Graph where
  anchors := g.anchors.modify id (· ++ [anchor])
  dependents := g.dependents.modify anchor (· ++ [id])

/-- The number of elements. -/
def length (g : Graph) : Nat := g.anchors.length

/-- The anchors of an element. -/
def anchorsOf (g : Graph) (id : ElementId) : List ElementId := g.anchors[id]?.getD []

/-- The elements anchored on an element. -/
def dependentsOf (g : Graph) (id : ElementId) : List ElementId := g.dependents[id]?.getD []

/-- Before the first element is taken, every rule waits. -/
def start (g : Graph) : Progress where
  order := []
  pending := g.anchors.map List.length
  ready := (List.range g.length).filter fun id => (g.anchorsOf id).isEmpty

/-- Takes elements, each time the first declared of those that are ready, until none is. -/
def run (g : Graph) (s : Progress) : Progress :=
  match _h : s.ready.min? with
  | none => s
  | some id => g.run (s.take (g.dependentsOf id) id)
termination_by s.remaining
decreasing_by exact s.remaining_take_lt _ (List.min?_mem _h)

/-- The first anchor of an element that waits itself. -/
def nextWaiting? (g : Graph) (pending : List Nat) (id : ElementId) : Option ElementId :=
  (g.anchorsOf id).find? fun anchor => 0 < pending[anchor]?.getD 0

/-- Walks from an element along its anchors until an element occurs twice; the cycle consists of the
elements of the path since its first occurrence. The path is held backwards. -/
def walk (next? : ElementId → Option ElementId) (unvisited path : List ElementId)
    (id : ElementId) : List ElementId :=
  if _h : id ∈ unvisited then
    match next? id with
    | some next => walk next? (unvisited.erase id) (id :: path) next
    | none => id :: path
  else path.takeWhile (· ≠ id) ++ [id]
termination_by unvisited.length
decreasing_by
  have := List.length_pos_of_mem _h
  rw [List.length_erase_of_mem _h]
  omega

/-- The members of a cycle among the elements that still wait, in ascending order. -/
def cycle (g : Graph) (pending : List Nat) : List ElementId :=
  match pending.findIdx? (0 < ·) with
  | none => []
  | some first => (walk (g.nextWaiting? pending) (List.range g.length) [] first).mergeSort

/-- All elements, each after its anchors and as early as the elements declared before it allow; or
else the members of a cycle. -/
def topologicalOrder (g : Graph) : Except (List ElementId) (List ElementId) :=
  let s := g.run g.start
  if s.order.length = g.length then .ok s.order else .error (g.cycle s.pending)

end Graph

namespace Layout
variable {α : Type}

/-- The anchors of an element, one for each sibling rule. -/
def anchors (l : Layout α) (id : ElementId) : List ElementId :=
  match l.element? id with
  | some e => e.params.rules.filterMap Rule.anchor?
  | none => []

/-- All rules in the order of their declaration, each with the number of its element. -/
def rules (l : Layout α) : List (ElementId × Rule) :=
  l.elements.zipIdx.flatMap fun (e, id) => e.params.rules.map (id, ·)

/-- Notes the anchor of a rule, which has to be an element. -/
def linkRule (l : Layout α) (g : Graph) : ElementId × Rule → Except LayoutError Graph
  | (_, .parent _) => .ok g
  | (id, .sibling _ anchor) =>
    if anchor < l.length then .ok (g.link id anchor)
    else .error (.danglingReference (l.label id) (indexLabel anchor))

/-- The graph of all rules. It fails at the first rule whose anchor is no element. -/
def graph (l : Layout α) : Except LayoutError Graph :=
  l.rules.foldlM l.linkRule (.edgeless l.length)

/-- The order in which the elements are resolved. It fails at the first anchor that is no element
and, if there is none, at a cycle. -/
def resolutionOrder (l : Layout α) : Except LayoutError (List ElementId) := do
  match (← l.graph).topologicalOrder with
  | .ok order => return order
  | .error members => throw (.cyclicConstraint (members.map l.label))

end Layout
end AnchorLayout
