import AnchorLayout.Proofs.Preview.Labels

/-!
# Where a label is written

A label belongs into the upper edge of its box, between the two corners. It stays there if the box has
rows and the text does not reach beyond the room between the corners, which a text of characters that
all take a column never does. Characters that take none are not counted when the text is cut, and a box
of one row of layout units can have no row of cells: then a label is written elsewhere.
-/

namespace AnchorLayout.Preview

open Text

/-- The cells of the upper edge of a box without its corners. A box without rows has no edge. -/
structure BetweenCorners (box : Frame Int) (x y : Int) : Prop where
  outlined : box.top < box.bottom
  row : y = box.top
  first : box.left + 1 ≤ x
  last : x ≤ box.right - 2

/-- Writing the label changes no cell of any grid but those between the corners of its box. -/
def Confined (box : Frame Int) (label : String) : Prop :=
  ∀ g i j, cell? (writeLabel g box label) i j ≠ cell? g i j → BetweenCorners box i j

/-- What is written of the label ends before the right corner of a box with rows, or lies outside of
every grid. -/
def EndsBetween (box : Frame Int) (label : String) : Prop :=
  labelText box label = [] ∨ box.top < 0 ∨ box.left + reach (labelText box label) < 0 ∨
    box.top < box.bottom ∧ box.left + reach (labelText box label) ≤ box.right - 2

instance (box : Frame Int) (label : String) : Decidable (EndsBetween box label) :=
  inferInstanceAs (Decidable (_ ∨ _))

section
variable {box : Frame Int} {label : String} {x y : Int}

/-- They are those of the upper row in which the outline shows a horizontal line. -/
theorem betweenCorners_iff :
    BetweenCorners box x y ↔ y = box.top ∧ outlineChar? box x y = some '-' := by
  constructor
  · rintro ⟨houtlined, rfl, hfirst, hlast⟩
    grind [outlineChar?]
  · rintro ⟨rfl, hline⟩
    have hcell : box.left ≤ x ∧ x < box.right ∧ box.top < box.bottom := by grind [outlineChar?]
    have hcorner : x ≠ box.left ∧ x ≠ box.right - 1 := by grind [outlineChar?]
    exact ⟨hcell.2.2, rfl, by omega, by omega⟩

theorem labelInk?_eq :
    labelInk? box label x y =
      if y = box.top then textInk? (box.left + 1) x (labelText box label) else none := by
  unfold labelInk? labelText
  by_cases hroom : labelRoom box = 0
  · simp [hroom, textInk?]
  · simp [hroom]

/-- A label is confined if it draws between the corners only. -/
theorem confined_iff_labelInk? :
    Confined box label ↔ ∀ i j : Nat, labelInk? box label i j ≠ none → BetweenCorners box i j := by
  constructor
  · intro h i j hink
    -- A grid that shows something else in the cell.
    obtain ⟨old, hold⟩ : ∃ old : Option Char, labelInk? box label i j ≠ some old :=
      if hcovered : labelInk? box label i j = some none then ⟨some ' ', by simp [hcovered]⟩
      else ⟨none, hcovered⟩
    have hcell : cell? (List.replicate (j + 1) (List.replicate (i + 1) old)) i j = some old := by
      simp [cell?]
    refine h (List.replicate (j + 1) (List.replicate (i + 1) old)) i j ?_
    rw [cell?_writeLabel, hcell, Option.map_some]
    obtain ⟨new, hnew⟩ := Option.ne_none_iff_exists'.1 hink
    rw [hnew] at hold ⊢
    simpa using hold
  · intro h g i j hne
    refine h i j fun hink => hne ?_
    rw [cell?_writeLabel, hink]
    simp

/-- Whether a label is confined, by what is written of it. -/
theorem confined_iff_endsBetween : Confined box label ↔ EndsBetween box label := by
  simp only [confined_iff_labelInk?, labelInk?_eq, EndsBetween]
  constructor
  · intro h
    by_cases htext : labelText box label = []
    case pos => exact .inl htext
    by_cases htop : box.top < 0
    case pos => exact .inr (.inl htop)
    by_cases hleft : box.left + reach (labelText box label) < 0
    case pos => exact .inr (.inr (.inl hleft))
    -- The last cell of the text is on some grid.
    obtain ⟨i, hi⟩ := Int.eq_ofNat_of_zero_le (Int.not_lt.1 hleft)
    obtain ⟨j, hj⟩ := Int.eq_ofNat_of_zero_le (Int.not_lt.1 htop)
    have hend : (i : Int) = box.left + 1 + reach (labelText box label) - 1 := by omega
    have hlast : textInk? (box.left + 1) i (labelText box label) ≠ none := by
      rw [hend]
      exact textInk?_last htext
    have hbetween := h i j (by rwa [if_pos hj.symm])
    exact .inr (.inr (.inr ⟨hbetween.outlined, hi ▸ hbetween.last⟩))
  · intro h i j hink
    split at hink
    case isFalse => exact absurd rfl hink
    case isTrue hrow =>
      obtain ⟨hfirst, hreach⟩ := lt_reach_of_textInk? hink
      obtain htext | htop | hleft | ⟨houtlined, hlast⟩ := h
      · exact absurd (by rw [htext]; rfl) hink
      · omega
      · omega
      · exact ⟨houtlined, hrow, hfirst, by omega⟩

/-- A label of characters that all take a column is confined, unless its box has no row of cells. -/
theorem confined_of_columns (h : ∀ c ∈ Escapes.strip label.toList, 1 ≤ Columns.ofChar c)
    (hbox : box.top < box.bottom) : Confined box label := by
  refine confined_iff_endsBetween.2 ?_
  by_cases htext : labelText box label = []
  · exact .inl htext
  · have hroom : labelRoom box ≠ 0 := mt labelText_of_labelRoom_eq_zero htext
    have hwithin : reach (labelText box label) ≤ labelRoom box :=
      (reach_le_advance _).trans (advance_labelText_le h)
    have hwidth := labelRoom_le hroom
    exact .inr (.inr (.inr ⟨hbox, by omega⟩))

end

/-! ## The labels of a preview -/

/-- **When labels are confined.** All labels of a preview are written between the corners of their boxes
only, whatever the grid, exactly if what is written of each ends there. -/
theorem labels_confined_iff (settings : Settings) (r : Resolved Coord) :
    (∀ box label, (box, label) ∈ drawnLabels settings r → Confined box label) ↔
      ∀ box label, (box, label) ∈ drawnLabels settings r → EndsBetween box label :=
  forall₃_congr fun _ _ _ => confined_iff_endsBetween

/-- A box whose label consists of accents, which take no column, and one of less height than a cell. -/
def accented : Layout Coord :=
  { Layout.ofSize ⟨.clamp 16, .clamp 8⟩ with
    elements :=
      [⟨"\u0301\u0301\u0301\u0301",
        { width := .exact (.clamp 8), height := .exact (.clamp 6), margin := .none }⟩,
       ⟨"ab", { width := .exact (.clamp 12), height := .exact (.clamp 1)
                margin := { Insets.none with top := .clamp 6 } }⟩] }

/-- The elements as they are placed. -/
def placedAccented : Resolved Coord where
  elements :=
    [⟨⟨.clamp 0, .clamp 0, .clamp 8, .clamp 6⟩, "\u0301\u0301\u0301\u0301", .visible⟩,
     ⟨⟨.clamp 0, .clamp 6, .clamp 12, .clamp 7⟩, "ab", .visible⟩]
  order := [0, 1]

/-- With two units for each cell the first label runs over the right corner of its box and a cell beyond,
and the second is written although its box has no outline. -/
theorem not_confined_accented :
    accented.resolve = .ok placedAccented ∧
      lines { scale := 2 } placedAccented accented.size =
        ["+\u0301\u0301\u0301\u0301", "|  |", "+--+", " ab"] ∧
      ((⟨0, 0, 4, 3⟩, "\u0301\u0301\u0301\u0301") ∈ drawnLabels { scale := 2 } placedAccented ∧
        ¬ Confined ⟨0, 0, 4, 3⟩ "\u0301\u0301\u0301\u0301") ∧
      (⟨0, 3, 6, 3⟩, "ab") ∈ drawnLabels { scale := 2 } placedAccented ∧
        ¬ Confined ⟨0, 3, 6, 3⟩ "ab" := by
  refine ⟨by decide +kernel, by decide +kernel, ⟨by decide +kernel, ?accents⟩,
    by decide +kernel, ?flat⟩
  case accents => exact mt confined_iff_endsBetween.1 (by decide +kernel)
  case flat => exact mt confined_iff_endsBetween.1 (by decide +kernel)

end AnchorLayout.Preview
