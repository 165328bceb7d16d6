import AnchorLayout.Proofs.Digest.Encoding
import AnchorLayout.Proofs.Json.Telling
import Mathlib.Data.List.Nodup
import Mathlib.Data.Set.Function

/-!
# What the outputs of a resolved layout tell

The JSON text of a resolved layout tells the names and frames of its elements, in their order: each
element is an object of plain members, and those with a name have one member more. The digest tells
the frames, as far as the hash tells its inputs apart.
-/

namespace AnchorLayout.Resolved
open Json

/-! ## Texts -/

/-- The member for a name, if there is one. -/
def nameMembers (name : Option String) : List (String × Json) :=
  match name with
  | some name => [("name", .string name)]
  | none => []

/-- The members for the edges of a frame. -/
def edgeMembers (f : Frame Coord) : List (String × Json) :=
  [("left", .ofInt f.left.val), ("top", .ofInt f.top.val), ("right", .ofInt f.right.val),
   ("bottom", .ofInt f.bottom.val)]

theorem elementJson_eq (e : Placed Coord) (id : ElementId) : elementJson e id =
    .object (("id", .ofInt id) :: (nameMembers e.name ++ edgeMembers e.frame)) :=
  rfl

theorem plain_nameMembers (name : Option String) : ∀ m ∈ nameMembers name, m.2.Plain := by
  cases name with
  | none => simp [nameMembers]
  | some name =>
    simp only [nameMembers, List.forall_mem_singleton]
    exact .string name

theorem plain_edgeMembers (f : Frame Coord) : ∀ m ∈ edgeMembers f, m.2.Plain := by
  simp only [edgeMembers, List.forall_mem_cons]
  exact ⟨.integer _, .integer _, .integer _, .integer _, by simp⟩

/-- The members for a name differ in number, and those for a frame do not. -/
theorem nameMembers_append_inj {name name' : Option String} {f f' : Frame Coord}
    (h : nameMembers name ++ edgeMembers f = nameMembers name' ++ edgeMembers f') :
    name = name' ∧ f = f' := by
  obtain ⟨hname, hedges⟩ := List.append_inj' h rfl
  constructor
  · cases name <;> cases name' <;> simp_all [nameMembers]
  · obtain ⟨left, top, right, bottom⟩ := f
    obtain ⟨left', top', right', bottom'⟩ := f'
    simpa [edgeMembers, ofInt, ← Coord.ext_iff] using hedges

/-- An element is described by its name and frame, and by nothing else. -/
theorem elementJson_inj {e e' : Placed Coord} {id : ElementId} :
    elementJson e id = elementJson e' id ↔ e.name = e'.name ∧ e.frame = e'.frame := by
  constructor
  · intro h
    rw [elementJson_eq, elementJson_eq, Json.object.injEq, List.cons.injEq] at h
    exact nameMembers_append_inj h.2
  · rintro ⟨hname, hframe⟩
    rw [elementJson, elementJson, hname, hframe]

/-- The objects for all elements, in their order. -/
def elementObjects (r : Resolved Coord) : List Json :=
  r.elements.zipIdx.map fun (e, id) => elementJson e id

theorem getElem?_elementObjects (r : Resolved Coord) (id : ElementId) :
    r.elementObjects[id]? = r.elements[id]?.map (elementJson · id) := by
  simp only [elementObjects, List.getElem?_map, List.getElem?_zipIdx, Option.map_map, Nat.zero_add]
  rfl

theorem toJson_inj_elementObjects {r s : Resolved Coord} :
    r.toJson = s.toJson ↔ r.elementObjects = s.elementObjects := by
  refine ⟨fun h => ?_, fun h => congrArg (fun items => (Json.array items).pretty) h⟩
  have hobjects (r : Resolved Coord) : ∀ v ∈ r.elementObjects,
      ∃ ms, v = .object ms ∧ ∀ m ∈ ms, m.2.Plain := by
    intro v hv
    obtain ⟨⟨e, id⟩, -, rfl⟩ := List.mem_map.1 hv
    refine ⟨_, elementJson_eq e id, List.forall_mem_cons.2 ⟨.integer _, ?_⟩⟩
    exact List.forall_mem_append.2 ⟨plain_nameMembers _, plain_edgeMembers _⟩
  have hstarts : ∀ v : Json, (∃ ms, v = .object ms ∧ ∀ m ∈ ms, m.2.Plain) → v.Starts := by
    rintro _ ⟨ms, rfl, -⟩
    exact starts_object ms
  have htelling := ((telling_plain_itemLine 2).object).array hstarts
  have hend : Delimited [] := by simp [Delimited]
  have htext : itemLine 0 (.array r.elementObjects) ++ [] =
      itemLine 0 (.array s.elementObjects) ++ [] := by
    rw [List.append_nil, List.append_nil]
    exact congrArg String.toList h
  have harray := htelling ⟨_, rfl, hobjects r⟩ ⟨_, rfl, hobjects s⟩ hend hend htext
  exact Json.array.inj harray.1

/-- Elements at one place have the same object if they agree in name and frame, or if there are none. -/
theorem map_elementJson_inj {e e' : Option (Placed Coord)} {id : ElementId} :
    e.map (elementJson · id) = e'.map (elementJson · id) ↔
      e.bind (·.name) = e'.bind (·.name) ∧ e.map (·.frame) = e'.map (·.frame) := by
  cases e <;> cases e' <;> simp [elementJson_inj]

theorem length_eq_of_frame?_eq {r s : Resolved Coord} (h : ∀ id, r.frame? id = s.frame? id) :
    r.length = s.length := by
  have hframes : r.frames = s.frames :=
    List.ext_getElem? fun id => by simpa [frames, frame?] using h id
  simpa [frames, length] using congrArg List.length hframes

/-- The text tells how many elements there are, and the name and the frame of each. -/
theorem toJson_inj {r s : Resolved Coord} :
    r.toJson = s.toJson ↔
      r.length = s.length ∧ ∀ id, r.name? id = s.name? id ∧ r.frame? id = s.frame? id := by
  rw [and_iff_right_of_imp fun hids => length_eq_of_frame?_eq fun id => (hids id).2,
    toJson_inj_elementObjects, List.ext_getElem?_iff]
  simp only [getElem?_elementObjects, map_elementJson_inj]
  rfl

/-! ## Digests -/

/-- The two inputs of which the digests of two layouts are taken have different hashes, if they
differ. -/
def Collisionless (r s : Resolved Coord) : Prop :=
  Set.InjOn Blake3.hash {r.digestInput, s.digestInput}

theorem digest_inj {r s : Resolved Coord} (h : Collisionless r s) :
    r.digest = s.digest ↔ r.frames = s.frames := by
  rw [← digestInput_inj]
  exact h.eq_iff (by simp) (by simp)

/-- **The outputs are faithful.** Two resolved layouts have the same JSON text exactly if they have as
many elements, with the same names and frames at each number; and, unless the hash collides, the
same digest exactly if they have the same frames in the same order. -/
theorem outputs_faithful (r s : Resolved Coord) :
    (r.toJson = s.toJson ↔
      r.length = s.length ∧ ∀ id, r.name? id = s.name? id ∧ r.frame? id = s.frame? id) ∧
    (Collisionless r s → (r.digest = s.digest ↔ r.frames = s.frames)) :=
  ⟨toJson_inj, digest_inj⟩

/-- Two layouts of a dialog: the second lacks a name, and has a frame moved to the left of the
container. -/
def sampleDialogs : Resolved Coord × Resolved Coord :=
  ({ elements :=
      [⟨⟨.clamp 0, .clamp 0, .clamp 40, .clamp 3⟩, "\"ti\ntle\"", .visible⟩,
       ⟨⟨.clamp 2, .clamp 4, .clamp 12, .clamp 6⟩, "\\ok", .visible⟩]
     order := [0, 1] },
   { elements :=
      [⟨⟨.clamp 0, .clamp 0, .clamp 40, .clamp 3⟩, "\"ti\ntle\"", .visible⟩,
       ⟨⟨.clamp (-2), .clamp 4, .clamp 8, .clamp 6⟩, none, .visible⟩]
     order := [0, 1] })

/-- The hash tells the two dialogs apart, so both outputs do. -/
theorem outputs_faithful_sampleDialogs :
    Collisionless sampleDialogs.1 sampleDialogs.2 ∧
      sampleDialogs.1.digest ≠ sampleDialogs.2.digest ∧
      sampleDialogs.1.toJson ≠ sampleDialogs.2.toJson := by
  have hnodup : ([sampleDialogs.1.digestInput, sampleDialogs.2.digestInput].map
      Blake3.hash).Nodup := by
    simp only [List.map_cons, List.map_nil]
    rw [Blake3.hash_of_length_le (by decide), Blake3.hash_of_length_le (by decide)]
    decide +kernel
  have hhash : Collisionless sampleDialogs.1 sampleDialogs.2 := by
    intro x hx y hy h
    exact List.inj_on_of_nodup_map hnodup (by simpa using hx) (by simpa using hy) h
  obtain ⟨htext, hdigest⟩ := outputs_faithful sampleDialogs.1 sampleDialogs.2
  refine ⟨hhash, fun h => ?_, fun h => ?_⟩
  · exact absurd ((hdigest hhash).1 h) (by decide +kernel)
  · exact absurd (((htext.1 h).2 1).1) (by decide +kernel)

end AnchorLayout.Resolved
