import AnchorLayout.Resolved

/-!
# What moved between two passes

A tracker holds the last known frame of each label and marks the entries that changed, until they
are taken. Two passes with the same digest, which covers labels and frames, are taken for equal, and
the second changes nothing.
-/

namespace AnchorLayout

/-- The last known frame of a label, and whether its last change has been seen. -/
structure FrameState where
  frame : Frame Coord
  isMarked : Bool
deriving DecidableEq

/-- Frames by label, the labels that are marked, and the digest of the last pass. -/
structure Tracker where
  entries : List (String × FrameState) := []
  marked : List String := []
  lastFingerprint : Option (List UInt8) := none
deriving DecidableEq

namespace Tracker

/-- What the digest of a pass is taken of: the digest of the frames, then the labels, each ended by a
zero byte. -/
def fingerprintInput (r : Resolved Coord) : List UInt8 :=
  r.digest ++ r.labels.flatMap fun label => label.toUTF8.toList ++ [0]

/-- The digest of a pass. -/
def fingerprint (r : Resolved Coord) : List UInt8 := Blake3.hash (fingerprintInput r)

/-- The state of a label. -/
def find? (entries : List (String × FrameState)) (label : String) : Option FrameState :=
  (entries.find? (·.1 = label)).map (·.2)

/-- Sets the state of a label. -/
def set (entries : List (String × FrameState)) (label : String) (s : FrameState) :
    List (String × FrameState) :=
  match entries with
  | [] => [(label, s)]
  | (l, t) :: rest => if l = label then (l, s) :: rest else (l, t) :: set rest label s

/-- Setting a state changes what is found for its label, and nothing else. -/
theorem find?_set (entries : List (String × FrameState)) (label other : String) (s : FrameState) :
    find? (set entries label s) other = if label = other then some s else find? entries other := by
  induction entries with
  | nil => by_cases h : label = other <;> simp [set, find?, h]
  | cons e rest ih =>
    obtain ⟨l, t⟩ := e
    simp only [find?] at ih
    by_cases hl : l = label <;> by_cases ho : l = other <;> grind [set, find?]

/-- Records the frame of a label. A label that is new or has another frame is marked, and is added to
the labels that changed. -/
def record (state : List (String × FrameState) × List String) (label : String)
    (frame : Frame Coord) : List (String × FrameState) × List String :=
  let (entries, changed) := state
  if (find? entries label).map (·.frame) = some frame then (entries, changed)
  else (set entries label { frame, isMarked := true }, changed ++ [label])

/-- Labels in ascending order. -/
def sort (labels : List String) : List String := labels.mergeSort fun a b => decide (a ≤ b)

/-- Takes over a pass, and returns the labels that changed in ascending order. The entries of labels
that no longer occur are dropped. -/
def observe (t : Tracker) (r : Resolved Coord) : Tracker × List String :=
  let digest := fingerprint r
  if t.lastFingerprint = some digest then (t, [])
  else
    let labels := r.labels
    let (entries, changed) :=
      (labels.zip r.frames).foldl (fun state (label, frame) => record state label frame)
        (t.entries, [])
    let marked := (t.marked.filter labels.contains ++ changed).eraseDups
    ({ entries := entries.filter (labels.contains ·.1), marked, lastFingerprint := some digest },
     sort changed)

/-- Removes all marks, and returns the marked entries in ascending order of their labels. -/
def takeMarked (t : Tracker) : Tracker × List (String × FrameState) :=
  let unmark (s : FrameState) : FrameState := { s with isMarked := false }
  let entries := t.entries.map fun (label, s) =>
    (label, if t.marked.contains label then unmark s else s)
  ({ t with entries, marked := [] },
   (sort t.marked).filterMap fun label => (find? entries label).map (label, ·))

/-- The last known frame of a label. -/
def frame? (t : Tracker) (label : String) : Option (Frame Coord) :=
  (find? t.entries label).map (·.frame)

/-- Whether an entry is marked. -/
def hasMarked (t : Tracker) : Bool := !t.marked.isEmpty

/-- The number of entries. -/
def length (t : Tracker) : Nat := t.entries.length

end Tracker
end AnchorLayout
