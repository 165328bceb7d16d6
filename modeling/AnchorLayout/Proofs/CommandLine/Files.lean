import AnchorLayout.CommandLine.FileSystem
import AnchorLayout.Proofs.Document.Loading

/-!
# Text at the end of a file

A file that is opened to append to it is there or is created empty, and nothing else changes. Text
then goes behind the bytes that the file had, and the same path reads all of it back. Only devices do
otherwise: they keep no text, and one of them takes none.
-/

namespace AnchorLayout.CommandLine.FileSystem
variable {fs fs₁ : FileSystem} {place : Place} {path name full : String} {bytes : ByteArray}

/-! ## Paths -/

/-- A part of a path is a name that no directory has. -/
structure Names (fs : FileSystem) (place : Place) (name : String) : Prop where
  ne_here : name ≠ "."
  ne_above : name ≠ ".."
  short : ¬ nameLimit < name.utf8ByteSize
  vacant : fs.directory? (place.path ++ name) = none

theorem Names.lookup_eq (h : fs.Names place name) :
    fs.lookup place name = .ok (if (fs.file? (place.path ++ name)).isSome
      then .file (place.path ++ name) else .free place name) := by
  simp [lookup, h.ne_here, h.ne_above, h.short, h.vacant]

/-- Files decide nothing about the parts of a path that lead to directories. -/
theorem lookup_eq_directory_iff {q : Place} : fs.lookup place name = .ok (.directory q) ↔
    name = "." ∧ place = q ∨ name = ".." ∧ place.parent = q ∨
      name ≠ "." ∧ name ≠ ".." ∧ ¬ nameLimit < name.utf8ByteSize ∧
        (fs.directory? (place.path ++ name)).isSome ∧ place.child name = q := by
  simp only [lookup]
  by_cases hhere : name = "."
  · simp [hhere]
  by_cases habove : name = ".."
  · simp [habove]
  rw [if_neg hhere, if_neg habove]
  split_ifs <;> simp [*]

/-- A part that does not lead to a directory is a name. -/
theorem names_of_lookup {node : Node} (h : fs.lookup place name = .ok node)
    (hnode : ∀ q, node ≠ .directory q) : fs.Names place name := by
  simp only [lookup] at h
  split_ifs at h with hhere habove hshort hplace hfile
  · cases h
    exact absurd rfl (hnode _)
  · cases h
    exact absurd rfl (hnode _)
  · cases h
    exact absurd rfl (hnode _)
  all_goals exact ⟨hhere, habove, hshort, by simpa using hplace⟩

/-- A path leads to a name in a directory, and has no slash behind that name. -/
structure Reaches (fs : FileSystem) (path : String) (place : Place) (name : String) : Prop
    extends fs.Names place name where
  short_path : ¬ pathLimit < path.utf8ByteSize
  last : (pathParts path).getLast? = some name
  entered : fs.enter { absolute := path.startsWith "/" } (pathParts path).dropLast = .ok place
  bare : path.endsWith "/" = false

theorem Reaches.follow_eq (h : fs.Reaches path place name) (writing : Bool) :
    fs.follow path writing = .ok (if (fs.file? (place.path ++ name)).isSome
      then .file (place.path ++ name) else .free place name) := by
  have hnode : fs.lookup place name = _ := h.lookup_eq
  rw [follow, if_neg h.short_path]
  simp only [h.last, h.entered, h.bare]
  simp only [bind, Except.bind, hnode, Bool.false_and, Bool.false_eq_true, if_false]
  split_ifs <;> rfl

theorem exists_reaches {node : Node} (h : fs.follow path true = .ok node)
    (hnode : ∀ place, node ≠ .directory place) : ∃ place name, fs.Reaches path place name := by
  rw [follow] at h
  by_cases hshort : pathLimit < path.utf8ByteSize
  · rw [if_pos hshort] at h
    cases h
  rw [if_neg hshort] at h
  cases hlast : (pathParts path).getLast? with
  | none =>
    simp only [hlast] at h
    cases h
    exact absurd rfl (hnode _)
  | some name =>
    simp only [hlast] at h
    obtain ⟨place, hplace, h⟩ := bind_eq_ok_iff.1 h
    -- A slash at the end asks for a directory, and a file that is written is none.
    split at h
    · cases h
    rename_i hbare
    obtain ⟨node', hlookup, h⟩ := bind_eq_ok_iff.1 h
    have hnames : fs.Names place name := by
      refine names_of_lookup hlookup ?_
      rintro q rfl
      cases h
      exact hnode q rfl
    exact ⟨place, name, hnames, hshort, hlast, hplace, by
      simpa [hnames.ne_here, hnames.ne_above] using hbare⟩

/-! ## Paths after a file has been written -/

theorem enter_write {q : Place} {parts : List String} (h : fs.enter place parts = .ok q) :
    (fs.write full bytes).enter place parts = .ok q := by
  induction parts generalizing place with
  | nil => exact h
  | cons part rest ih =>
    obtain ⟨node, hnode, hrest⟩ := bind_eq_ok_iff.1 h
    cases node with
    | directory next =>
      have hnode' : (fs.write full bytes).lookup place part = .ok (.directory next) := by
        rw [lookup_eq_directory_iff] at hnode ⊢
        exact hnode
      rw [enter, hnode']
      exact ih hrest
    | file _ => cases hrest
    | free _ _ => cases hrest

theorem Reaches.write (h : fs.Reaches path place name) :
    (fs.write full bytes).Reaches path place name :=
  { ne_here := h.ne_here
    ne_above := h.ne_above
    short := h.short
    vacant := h.vacant
    short_path := h.short_path
    last := h.last
    entered := enter_write h.entered
    bare := h.bare }

theorem Reaches.read_of_plain (h : fs.Reaches path place name)
    (hfile : fs.file? (place.path ++ name) = some (.plain bytes)) : fs.read path = .ok bytes := by
  rw [read, h.follow_eq, hfile]
  simp only [bind, Except.bind, Option.isSome_some, if_true, openFile, hfile]
  rfl

theorem Reaches.read_of_none (h : fs.Reaches path place name)
    (hfile : fs.file? (place.path ++ name) = none) : fs.read path = .error .notFound := by
  rw [read, h.follow_eq, hfile]
  rfl

/-- What has been written is read by the same path. -/
theorem Reaches.read_write (h : fs.Reaches path place name) (bytes : ByteArray) :
    (fs.write (place.path ++ name) bytes).read path = .ok bytes :=
  h.write.read_of_plain (file?_write_self fs _ bytes)

/-! ## Opening and appending -/

@[simp] theorem write_write (fs : FileSystem) (path : String) (bytes bytes' : ByteArray) :
    (fs.write path bytes).write path bytes' = fs.write path bytes' := by
  simp [write, List.filter_filter]

/-- The bytes of a file, or none if there is no file yet. -/
def Held (fs : FileSystem) (path : String) (bytes : ByteArray) : Prop :=
  fs.read path = .ok bytes ∨ fs.read path = .error .notFound ∧ bytes = .empty

/-- To know that a file is opened it is enough to know by which path. -/
theorem exists_openAppend_eq_ok {path full : String}
    (h : (fs.openAppend path).map (·.2) = .ok full) :
    ∃ fs₁, fs.openAppend path = .ok (fs₁, full) := by
  cases hopen : fs.openAppend path with
  | error fault =>
    rw [hopen] at h
    cases h
  | ok opened =>
    rw [hopen] at h
    cases h
    exact ⟨opened.1, rfl⟩

/-- A file that is opened to append to it was there or is created, and the path leads to it. -/
theorem openAppend_eq_ok (h : fs.openAppend path = .ok (fs₁, full)) :
    ∃ place name, fs.Reaches path place name ∧ full = place.path ++ name ∧
      ((fs₁ = fs ∧ ∃ file, fs.file? full = some file ∧ file.openFault? = none) ∨
        (fs₁ = fs.write full .empty ∧ fs.file? full = none)) := by
  obtain ⟨node, hnode, h⟩ := bind_eq_ok_iff.1 h
  -- A directory is not opened, so the path leads to a name.
  have hreaches : ∃ place name, fs.Reaches path place name := by
    refine exists_reaches hnode ?_
    rintro q rfl
    cases h
  obtain ⟨place, name, hreaches⟩ := hreaches
  rw [hreaches.follow_eq] at hnode
  cases hfile : fs.file? (place.path ++ name) with
  | some file =>
    rw [hfile, Option.isSome_some, if_pos rfl] at hnode
    cases hnode
    cases hfault : file.openFault? with
    | none =>
      simp only [openFile, hfile, hfault] at h
      cases h
      exact ⟨place, name, hreaches, rfl, .inl ⟨rfl, file, hfile, hfault⟩⟩
    | some fault =>
      simp only [openFile, hfile, hfault] at h
      cases h
  | none =>
    rw [hfile, Option.isSome_none, if_neg (by decide)] at hnode
    cases hnode
    obtain ⟨fs', hcreate, h⟩ := bind_eq_ok_iff.1 h
    cases h
    refine ⟨place, name, hreaches, rfl, .inr ⟨?_, hfile⟩⟩
    simp only [create] at hcreate
    split at hcreate
    · cases hcreate
    · cases hcreate
      rfl

/-- Text goes behind the bytes of a file that is no device, and all of it is read again. -/
theorem exists_append_eq_ok (h : fs.openAppend path = .ok (fs₁, full))
    (hplain : ∀ d, fs.file? full ≠ some (.device d)) (text : String) :
    ∃ before, fs.Held path before ∧
      fs₁.append full text = .ok (fs.write full (before ++ text.toUTF8)) ∧
      (fs.write full (before ++ text.toUTF8)).read path = .ok (before ++ text.toUTF8) := by
  obtain ⟨place, name, hreaches, rfl, ⟨rfl, file, hfile, -⟩ | ⟨rfl, hfile⟩⟩ := openAppend_eq_ok h
  · cases file with
    | plain bytes =>
      refine ⟨bytes, .inl (hreaches.read_of_plain hfile), ?_, hreaches.read_write _⟩
      rw [append, hfile]
    | device d => exact absurd hfile (hplain d)
  · refine ⟨.empty, .inr ⟨hreaches.read_of_none hfile, rfl⟩, ?_, hreaches.read_write _⟩
    simp only [append, file?_write_self, write_write]

/-- A device was there before, and keeps nothing of the text if it takes it. -/
theorem append_device_eq {d : Device} (h : fs.openAppend path = .ok (fs₁, full))
    (hd : fs.file? full = some (.device d)) (text : String) :
    fs₁ = fs ∧ fs₁.append full text = match d.writeFault? with
      | some fault => .error fault
      | none => .ok fs := by
  obtain ⟨place, name, -, rfl, ⟨rfl, -⟩ | ⟨-, hfile⟩⟩ := openAppend_eq_ok h
  · refine ⟨rfl, ?_⟩
    cases hfault : d.writeFault? <;> simp [append, hd, hfault]
  · rw [hd] at hfile
    cases hfile

end AnchorLayout.CommandLine.FileSystem
