import AnchorLayout.Document.Printer
import AnchorLayout.Document.Reader
import AnchorLayout.Proofs.Json.Ensures
import AnchorLayout.Proofs.Json.Records

/-!
# Documents are read back

The text of a document is read as that document, whatever names it has, unless an exact size of it
is negative. Documents that are read from a text have no negative sizes, so the text of such a
document is a normal form: it is read as the same document, and written again it stays as it is.
-/

namespace AnchorLayout
open Json (Fault Reader)
open Json.Reader (Reads Ensures ensures_bind ensures_pure ensures_throw)

/-- An extent that has a text: a negative one would be read as the extent of the container, or not
at all. -/
def Dimension.Written : Dimension Coord → Prop
  | exact n => 0 ≤ n.val
  | matchParent => True

instance : (d : Dimension Coord) → Decidable d.Written
  | .exact n => inferInstanceAs (Decidable (0 ≤ n.val))
  | .matchParent => isTrue trivial

/-- Both sizes of an element have a text. -/
def ElementEntry.Written (e : ElementEntry) : Prop := e.width.Written ∧ e.height.Written

instance (e : ElementEntry) : Decidable e.Written := inferInstanceAs (Decidable (_ ∧ _))

/-- All sizes have a text: exact ones are at least zero. -/
def Document.Written (d : Document) : Prop := ∀ e ∈ d.elements, e.Written

instance (d : Document) : Decidable d.Written :=
  inferInstanceAs (Decidable (∀ e ∈ d.elements, e.Written))

theorem Coord.reads (c : Coord) : Reads Coord.read 0 (.ofInt c.val) c := by
  have hlower := c.lower
  have hupper := c.upper
  exact Json.Reader.reads_integer (ofInt?_eq_some_iff.2 rfl) (by omega) (by omega)

theorem Dimension.ofJson_toJson {d : Dimension Coord} (h : d.Written) :
    ofJson d.toJson = .ok d := by
  cases d with
  | matchParent => rfl
  | exact n =>
    have hunits : ofUnits n = .ok (.exact n) := by
      have hn : 0 ≤ n.val := h
      rw [ofUnits, if_neg (by omega), if_pos hn]
    simp only [toJson, Json.ofInt, ofJson, Coord.ofInt?_eq_some_iff.2 rfl, hunits]

theorem Dimension.reads {d : Dimension Coord} (h : d.Written) :
    Reads Dimension.read 0 d.toJson d := by
  have hany : Reads Reader.any 0 d.toJson d.toJson := by
    cases d with
    | matchParent => exact Json.Reader.reads_any_string _
    | exact n =>
      have hlower := n.lower
      have hupper := n.upper
      exact Json.Reader.reads_any_ofInt (by omega) (by omega)
  exact hany.bind fun _ _ => by
    rw [ofJson_toJson h]
    rfl

theorem Direction.reads (d : Direction) : Reads Direction.read 0 (.string d.name) d :=
  Json.Reader.reads_choice (by cases d <;> rfl)

theorem Visibility.reads (v : Visibility) : Reads Visibility.read 0 (.string v.name) v :=
  Json.Reader.reads_choice (by cases v <;> rfl)

theorem Insets.reads (m : Insets Coord) : Reads Insets.read 1 m.toJson m := by
  refine Json.Reader.reads_record
    (s := ⟨some m.left, some m.top, some m.right, some m.bottom⟩) ?_ rfl
  refine .cons rfl rfl (m.left.reads.bind fun _ _ => rfl) ?_
  refine .cons rfl rfl (m.top.reads.bind fun _ _ => rfl) ?_
  refine .cons rfl rfl (m.right.reads.bind fun _ _ => rfl) ?_
  exact .cons rfl rfl (m.bottom.reads.bind fun _ _ => rfl) .nil

theorem Verb.reads (verb : Verb) : Reads Verb.read 0 (.string verb.name) verb := by
  refine (Json.Reader.reads_any_string verb.name).bind fun _ _ => ?_
  have hname : ofJson? (.string verb.name) = some verb := by
    cases verb with
    | sibling verb => cases verb <;> rfl
    | parent verb => cases verb <;> rfl
  rw [hname]
  rfl

theorem RuleEntry.reads (r : RuleEntry) : Reads RuleEntry.read 1 r.toJson r := by
  obtain ⟨verb, anchor⟩ := r
  cases anchor with
  | none =>
    refine Json.Reader.reads_record (s := ⟨some verb, none⟩) ?_ rfl
    exact .cons rfl rfl (verb.reads.bind fun _ _ => rfl) .nil
  | some name =>
    have hname := Json.Reader.reads_optional (Json.Reader.reads_text "a string" name)
    refine Json.Reader.reads_record (s := ⟨some verb, some (some name)⟩) ?_ rfl
    refine .cons rfl rfl (verb.reads.bind fun _ _ => rfl) ?_
    exact .cons rfl rfl (hname.bind fun _ _ => rfl) .nil

theorem RuleEntry.list_reads (rules : List RuleEntry) :
    Reads (Reader.list RuleEntry.read) 2 (.array (rules.map RuleEntry.toJson)) rules :=
  Json.Reader.reads_list (fun r _ => r.reads) fun _ _ => Json.starts_object _

theorem ElementEntry.reads {e : ElementEntry} (h : e.Written) :
    Reads ElementEntry.read 3 e.toJson e := by
  refine Json.Reader.reads_record (s := ⟨some e.name, some e.width, some e.height, some e.margin,
    some e.visibility, some e.alignWithParentIfMissing, some e.rules⟩) ?_ rfl
  refine .cons rfl rfl (((Json.Reader.reads_text _ e.name).mono (by omega)).bind fun _ _ => rfl) ?_
  refine .cons rfl rfl (((Dimension.reads h.1).mono (by omega)).bind fun _ _ => rfl) ?_
  refine .cons rfl rfl (((Dimension.reads h.2).mono (by omega)).bind fun _ _ => rfl) ?_
  refine .cons rfl rfl ((e.margin.reads.mono (by omega)).bind fun _ _ => rfl) ?_
  refine .cons rfl rfl ((e.visibility.reads.mono (by omega)).bind fun _ _ => rfl) ?_
  refine .cons rfl rfl (((Json.Reader.reads_boolean _).mono (by omega)).bind fun _ _ => rfl) ?_
  exact .cons rfl rfl ((RuleEntry.list_reads e.rules).bind fun _ _ => rfl) .nil

theorem Document.reads {d : Document} (h : d.Written) : Reads Document.read 5 d.toJson d := by
  have helements : Reads (Reader.list ElementEntry.read) 4
      (.array (d.elements.map ElementEntry.toJson)) d.elements :=
    Json.Reader.reads_list (fun e he => ElementEntry.reads (h e he))
      fun _ _ => Json.starts_object _
  refine Json.Reader.reads_record (s := ⟨some d.width, some d.height, some d.padding,
    some d.direction, some d.elements⟩) ?_ rfl
  refine .cons rfl rfl ((d.width.reads.mono (by omega)).bind fun _ _ => rfl) ?_
  refine .cons rfl rfl ((d.height.reads.mono (by omega)).bind fun _ _ => rfl) ?_
  refine .cons rfl rfl ((d.padding.reads.mono (by omega)).bind fun _ _ => rfl) ?_
  refine .cons rfl rfl ((d.direction.reads.mono (by omega)).bind fun _ _ => rfl) ?_
  exact .cons rfl rfl (helements.bind fun _ _ => rfl) .nil

/-! ## What documents that are read are like -/

theorem Dimension.written_of_ofUnits {n : Coord} {d : Dimension Coord} (h : ofUnits n = .ok d) :
    d.Written := by
  rw [ofUnits] at h
  split at h
  · cases h
    trivial
  split at h
  · cases h
    assumption
  · cases h

theorem Dimension.written_of_ofJson {v : Json} {d : Dimension Coord} (h : ofJson v = .ok d) :
    d.Written := by
  rw [ofJson.eq_def] at h
  split at h
  · split at h
    · split at h
      case h_1 hunits =>
        cases h
        exact written_of_ofUnits hunits
      case h_2 => cases h
    · cases h
  · split at h
    · cases h
      trivial
    · cases h
  · cases h

theorem Dimension.ensures_read : Ensures Dimension.read Written := by
  refine ensures_bind fun v => ?_
  split
  case h_1 d hd => exact ensures_pure (written_of_ofJson hd)
  case h_2 => exact ensures_throw _

/-- The sizes that have been read of an element have a text. -/
def ElementDraft.Written (s : ElementDraft) : Prop :=
  (∀ d ∈ s.width, d.Written) ∧ ∀ d ∈ s.height, d.Written

theorem ElementEntry.ensures_read : Ensures ElementEntry.read Written := by
  refine Json.Reader.ensures_record (I := ElementDraft.Written) ?_ ?_ ?_
  · exact ⟨by simp [shape], by simp [shape]⟩
  · intro m hm s hs
    simp only [shape, List.mem_cons, List.not_mem_nil, or_false] at hm
    obtain rfl | rfl | rfl | rfl | rfl | rfl | rfl := hm
    · exact ensures_bind fun _ => ensures_pure hs
    · exact Dimension.ensures_read.bind fun d hd => ensures_pure ⟨by simpa using hd, hs.2⟩
    · exact Dimension.ensures_read.bind fun d hd => ensures_pure ⟨hs.1, by simpa using hd⟩
    · exact ensures_bind fun _ => ensures_pure hs
    · exact ensures_bind fun _ => ensures_pure hs
    · exact ensures_bind fun _ => ensures_pure hs
    · exact ensures_bind fun _ => ensures_pure hs
  · intro s x hs hx
    obtain ⟨name, width, height, _⟩ := s
    cases name <;> cases width <;> cases height <;> cases hx
    exact ⟨hs.1 _ rfl, hs.2 _ rfl⟩

theorem Document.ensures_read : Ensures Document.read Written := by
  refine Json.Reader.ensures_record
    (I := fun s : DocumentDraft => ∀ elements ∈ s.elements, ∀ e ∈ elements, e.Written) ?_ ?_ ?_
  · simp [shape]
  · intro m hm s hs
    simp only [shape, List.mem_cons, List.not_mem_nil, or_false] at hm
    obtain rfl | rfl | rfl | rfl | rfl := hm
    · exact ensures_bind fun _ => ensures_pure hs
    · exact ensures_bind fun _ => ensures_pure hs
    · exact ensures_bind fun _ => ensures_pure hs
    · exact ensures_bind fun _ => ensures_pure hs
    · exact ElementEntry.ensures_read.list.bind fun elements helements =>
        ensures_pure (by simpa using helements)
  · intro s x hs hx
    obtain ⟨width, height, _, _, elements⟩ := s
    cases width <;> cases height <;> cases hx
    cases elements with
    | none => simp [Written]
    | some elements => exact hs elements rfl

/-! ## The round trip -/

/-- A text as it is written again after it has been read. -/
def Document.normalize (s : String) : Except LayoutError String := (ofText s).map text

/-- A negative size is read as the extent of the container or refused, so it comes from no text. -/
theorem Document.written_of_ofText {s : String} {d : Document} (h : ofText s = .ok d) :
    d.Written := by
  rw [ofText] at h
  cases hread : Document.read.run s with
  | error fault =>
    rw [hread] at h
    cases h
  | ok d' =>
    rw [hread] at h
    cases h
    exact ensures_read.run hread

theorem Document.ofText_text_of_written {d : Document} (h : d.Written) : ofText d.text = .ok d := by
  rw [ofText, text, Json.Reader.run_eq (reads h) (by decide)]
  rfl

/-- A form whose names need escapes of every kind, and characters of up to four bytes. It has sizes
of both kinds, an element without rules, and rules with and without an anchor. -/
def Document.sampleNames : Document where
  width := .clamp 100
  height := .clamp (-1)
  padding := ⟨.clamp 1, .clamp (-2), .clamp 2147483647, .clamp (-2147483648)⟩
  direction := .rtl
  elements :=
    [{ name := "ti\\tle \"1\"\n\x01\x1f", width := .exact 0, height := .matchParent
       margin := .uniform (.clamp (-7)), visibility := .gone },
     { name := "приклад 例 𝄞", width := .matchParent, height := .exact (.clamp 10)
       alignWithParentIfMissing := true
       rules := [⟨.sibling .startOf, some "ti\\tle \"1\"\n\x01\x1f"⟩, ⟨.sibling .below, none⟩,
         ⟨.parent .centerInParent, some ""⟩] }]

/-- **Documents make the round trip.** The text of a document is read as that document if and only
if no exact size of it is negative, which holds of all documents that are read from a text. Hence
reading a text and writing it again is idempotent. -/
theorem Document.round_trip :
    (∀ d : Document, ofText d.text = .ok d ↔ d.Written) ∧
    (∀ s d, ofText s = .ok d → d.Written ∧ ofText d.text = .ok d) ∧
    ∀ s t, normalize s = .ok t → normalize t = .ok t := by
  have hread (s : String) (d : Document) (h : ofText s = .ok d) : ofText d.text = .ok d :=
    ofText_text_of_written (written_of_ofText h)
  refine ⟨fun d => ⟨written_of_ofText, ofText_text_of_written⟩,
    fun s d h => ⟨written_of_ofText h, hread s d h⟩, fun s t ht => ?_⟩
  rw [normalize] at ht
  cases h : ofText s with
  | error fault =>
    rw [h] at ht
    cases ht
  | ok d =>
    rw [h] at ht
    cases ht
    rw [normalize, hread s d h]
    rfl

/-- The form with unusual names is read back, and its text is a normal form. -/
theorem Document.round_trip_sampleNames : sampleNames.Written ∧
    ofText sampleNames.text = .ok sampleNames ∧
    normalize sampleNames.text = .ok sampleNames.text := by
  obtain ⟨hiff, -, hnormal⟩ := round_trip
  have hwritten : sampleNames.Written := by decide
  have hread := (hiff sampleNames).2 hwritten
  exact ⟨hwritten, hread, hnormal sampleNames.text _ (by rw [normalize, hread]; rfl)⟩

end AnchorLayout
