import AnchorLayout.Document
import AnchorLayout.Json.Reader

/-!
# Reading documents

A document is read from JSON, as an object or as the list of its members, and so is each record in
it. Missing members take their default, if they have one. A dimension is a number of units or a
keyword; `-1` and both keywords fill the container.
-/

namespace AnchorLayout
open Json (Fault Reader)
open Json.Reader (Member RecordShape)

/-- Reads a coordinate. -/
def Coord.read : Reader Coord := Reader.integer "i32" Coord.ofInt?

/-- Reads the number of an element, which has up to 64 bits. -/
def ElementId.read : Reader ElementId :=
  Reader.integer "usize" fun n => if 0 ≤ n && n < 18446744073709551616 then some n.toNat else none

/-- Reads a direction. -/
def Direction.read : Reader Direction := Reader.choice Direction.all Direction.name

/-- Reads a visibility. -/
def Visibility.read : Reader Visibility := Reader.choice Visibility.all Visibility.name

/-- Reads a sibling verb. -/
def SiblingVerb.read : Reader SiblingVerb := Reader.choice SiblingVerb.all SiblingVerb.name

/-- Reads a parent verb. -/
def ParentVerb.read : Reader ParentVerb := Reader.choice ParentVerb.all ParentVerb.name

/-- The verb that a value names: by a string, or by the only key of an object with `null`. -/
def Verb.ofJson? : Json → Option Verb
  | .string name => ofName? name
  | .object [(name, .null)] => ofName? name
  | _ => none

/-- Reads a verb of either family. -/
def Verb.read : Reader Verb := do
  match ofJson? (← Reader.any) with
  | some verb => return verb
  | none => throw (.noVariant "Verb")

/-- The dimension of a value. -/
def Dimension.ofJson : Json → Except Fault (Dimension Coord)
  | .number (.integer n) =>
    match Coord.ofInt? n with
    | some c =>
      match ofUnits c with
      | .ok d => .ok d
      | .error _ => .error (.invalidDimension n)
    | none => .error (.noVariant "RawDimension")
  | .string word =>
    if word = "match_parent" || word = "fill_parent" then .ok .matchParent
    else .error (.unknownDimension word)
  | _ => .error (.noVariant "RawDimension")

/-- Reads a dimension. -/
def Dimension.read : Reader (Dimension Coord) := do
  match ofJson (← Reader.any) with
  | .ok d => return d
  | .error fault => throw fault

/-- A member that has been read, or else its name. -/
def required {α : Type} (name : String) : Option α → Except String α
  | some x => .ok x
  | none => .error name

/-! ## Sizes, insets and frames -/

/-- What has been read of a size. -/
structure SizeDraft where
  width : Option Coord := none
  height : Option Coord := none

/-- How a size is read. -/
def Size.shape : RecordShape SizeDraft (Size Coord) where
  title := "struct Size"
  members :=
    [⟨"width", (·.width.isSome), fun s => return { s with width := some (← Coord.read) }⟩,
     ⟨"height", (·.height.isSome), fun s => return { s with height := some (← Coord.read) }⟩]
  start := {}
  finish s := return ⟨← required "width" s.width, ← required "height" s.height⟩

/-- Reads a size. -/
def Size.read : Reader (Size Coord) := Reader.record Size.shape

/-- What has been read of four edges. -/
structure EdgesDraft where
  left : Option Coord := none
  top : Option Coord := none
  right : Option Coord := none
  bottom : Option Coord := none

/-- The members of a record of four edges. -/
def EdgesDraft.members : List (Member EdgesDraft) :=
  [⟨"left", (·.left.isSome), fun s => return { s with left := some (← Coord.read) }⟩,
   ⟨"top", (·.top.isSome), fun s => return { s with top := some (← Coord.read) }⟩,
   ⟨"right", (·.right.isSome), fun s => return { s with right := some (← Coord.read) }⟩,
   ⟨"bottom", (·.bottom.isSome), fun s => return { s with bottom := some (← Coord.read) }⟩]

/-- How insets are read; a side that is missing is zero. -/
def Insets.shape : RecordShape EdgesDraft (Insets Coord) where
  title := "struct Insets"
  members := EdgesDraft.members
  start := {}
  finish s := .ok ⟨s.left.getD 0, s.top.getD 0, s.right.getD 0, s.bottom.getD 0⟩

/-- Reads insets. -/
def Insets.read : Reader (Insets Coord) := Reader.record Insets.shape

/-- How a frame is read. -/
def Frame.shape : RecordShape EdgesDraft (Frame Coord) where
  title := "struct Frame"
  members := EdgesDraft.members
  start := {}
  finish s := return ⟨← required "left" s.left, ← required "top" s.top,
    ← required "right" s.right, ← required "bottom" s.bottom⟩

/-- Reads a frame. -/
def Frame.read : Reader (Frame Coord) := Reader.record Frame.shape

/-! ## Rules, elements and documents -/

/-- What has been read of a rule. -/
structure RuleDraft where
  verb : Option Verb := none
  anchor : Option (Option String) := none

/-- How a rule is read. -/
def RuleEntry.shape : RecordShape RuleDraft RuleEntry where
  title := "struct RuleDocument"
  members :=
    [⟨"verb", (·.verb.isSome), fun s => return { s with verb := some (← Verb.read) }⟩,
     ⟨"anchor", (·.anchor.isSome), fun s =>
       return { s with anchor := some (← Reader.optional (Reader.text "a string")) }⟩]
  start := {}
  finish s := return { verb := ← required "verb" s.verb, anchor := s.anchor.getD none }

/-- Reads a rule. -/
def RuleEntry.read : Reader RuleEntry := Reader.record RuleEntry.shape

/-- What has been read of an element. -/
structure ElementDraft where
  name : Option String := none
  width : Option (Dimension Coord) := none
  height : Option (Dimension Coord) := none
  margin : Option (Insets Coord) := none
  visibility : Option Visibility := none
  alignWithParentIfMissing : Option Bool := none
  rules : Option (List RuleEntry) := none

/-- How an element is read. -/
def ElementEntry.shape : RecordShape ElementDraft ElementEntry where
  title := "struct ElementDocument"
  members :=
    [⟨"name", (·.name.isSome), fun s => return { s with name := some (← Reader.text "a string") }⟩,
     ⟨"width", (·.width.isSome), fun s => return { s with width := some (← Dimension.read) }⟩,
     ⟨"height", (·.height.isSome), fun s => return { s with height := some (← Dimension.read) }⟩,
     ⟨"margin", (·.margin.isSome), fun s => return { s with margin := some (← Insets.read) }⟩,
     ⟨"visibility", (·.visibility.isSome), fun s =>
       return { s with visibility := some (← Visibility.read) }⟩,
     ⟨"align_with_parent_if_missing", (·.alignWithParentIfMissing.isSome), fun s =>
       return { s with alignWithParentIfMissing := some (← Reader.boolean) }⟩,
     ⟨"rules", (·.rules.isSome), fun s =>
       return { s with rules := some (← Reader.list RuleEntry.read) }⟩]
  start := {}
  finish s := do
    let name ← required "name" s.name
    let width ← required "width" s.width
    let height ← required "height" s.height
    return {
      name, width, height
      margin := s.margin.getD .none
      visibility := s.visibility.getD .visible
      alignWithParentIfMissing := s.alignWithParentIfMissing.getD false
      rules := s.rules.getD [] }

/-- Reads an element. -/
def ElementEntry.read : Reader ElementEntry := Reader.record ElementEntry.shape

/-- What has been read of a document. -/
structure DocumentDraft where
  width : Option Coord := none
  height : Option Coord := none
  padding : Option (Insets Coord) := none
  direction : Option Direction := none
  elements : Option (List ElementEntry) := none

/-- How a document is read. -/
def Document.shape : RecordShape DocumentDraft Document where
  title := "struct LayoutDocument"
  members :=
    [⟨"width", (·.width.isSome), fun s => return { s with width := some (← Coord.read) }⟩,
     ⟨"height", (·.height.isSome), fun s => return { s with height := some (← Coord.read) }⟩,
     ⟨"padding", (·.padding.isSome), fun s => return { s with padding := some (← Insets.read) }⟩,
     ⟨"direction", (·.direction.isSome), fun s =>
       return { s with direction := some (← Direction.read) }⟩,
     ⟨"elements", (·.elements.isSome), fun s =>
       return { s with elements := some (← Reader.list ElementEntry.read) }⟩]
  start := {}
  finish s := do
    let width ← required "width" s.width
    let height ← required "height" s.height
    return {
      width, height
      padding := s.padding.getD .none
      direction := s.direction.getD .ltr
      elements := s.elements.getD [] }

/-- Reads a document. -/
def Document.read : Reader Document := Reader.record Document.shape

/-- The document that a text describes. -/
def Document.ofText (s : String) : Except LayoutError Document :=
  (Document.read.run s).mapError .document

/-- The document in a file with the given bytes. -/
def Document.ofBytes (bytes : ByteArray) : Except LayoutError Document :=
  match String.fromUTF8? bytes with
  | some s => ofText s
  | none => .error (.file .invalidUtf8)

end AnchorLayout
