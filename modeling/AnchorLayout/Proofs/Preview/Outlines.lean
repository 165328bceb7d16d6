import AnchorLayout.Proofs.Preview.LineFeeds
import AnchorLayout.Proofs.Preview.Range

/-!
# Previews without labels

A box is outlined by the cells of its first and last column and row: a corner where two of these lines
meet, a line elsewhere. Without labels a preview always can be drawn. It has one line for each row of
cells, and a cell shows the outline of the last drawn element whose border passes there, however the
boxes overlap and wherever they leave the grid; the blanks at the end of a row are not printed.
-/

namespace AnchorLayout.Preview

open Text

/-! ## Outlines cell by cell -/

/-- The box of cells as which a frame is drawn: each of its edges is rounded down to a cell. -/
def boxOf (scale : Int) (f : Frame Coord) : Frame Int := f.map (·.val.fdiv scale)

/-- A cell belongs to a box. A collapsed box has no cells. -/
structure Covers (box : Frame Int) (x y : Int) : Prop where
  column : box.left ≤ x ∧ x < box.right
  row : box.top ≤ y ∧ y < box.bottom

/-- A cell lies on the left or the right border of a box. -/
def OnVerticalLine (box : Frame Int) (x y : Int) : Prop :=
  Covers box x y ∧ (x = box.left ∨ x = box.right - 1)

/-- A cell lies on the upper or the lower border of a box. -/
def OnHorizontalLine (box : Frame Int) (x y : Int) : Prop :=
  Covers box x y ∧ (y = box.top ∨ y = box.bottom - 1)

/-- The outline of a box has a character in a cell. -/
inductive Outlined (box : Frame Int) (x y : Int) : Char → Prop
  | corner (hvertical : OnVerticalLine box x y) (hhorizontal : OnHorizontalLine box x y) :
      Outlined box x y '+'
  | horizontal (hvertical : ¬ OnVerticalLine box x y) (hhorizontal : OnHorizontalLine box x y) :
      Outlined box x y '-'
  | vertical (hvertical : OnVerticalLine box x y) (hhorizontal : ¬ OnHorizontalLine box x y) :
      Outlined box x y '|'

/-- An element is drawn if it is visible and has area. -/
structure Drawn (e : Placed Coord) : Prop where
  visible : e.visibility = .visible
  area : e.frame.isEmpty = false

/-- The outline of an element has a character in a cell. -/
def Outlines (scale : Int) (r : Resolved Coord) (id : ElementId) (x y : Int) (c : Char) : Prop :=
  ∃ e, r.elements[id]? = some e ∧ Drawn e ∧ Outlined (boxOf (max scale 1) e.frame) x y c

/-- A cell shows the last outline that passes there, and is blank if none does. -/
inductive CellShows (scale : Int) (r : Resolved Coord) (x y : Int) : Char → Prop
  | outline {id : ElementId} {c : Char} (houtlines : Outlines scale r id x y c)
      (hlast : ∀ later, id < later → ∀ d, ¬ Outlines scale r later x y d) : CellShows scale r x y c
  | blank (hnone : ∀ id d, ¬ Outlines scale r id x y d) : CellShows scale r x y ' '

theorem cells_eq_boxOf (f : Frame Coord) {scale : Int} (h : 0 ≤ scale) :
    cells f scale = boxOf scale f := by
  simp only [cells, boxOf, Int.fdiv_eq_ediv_of_nonneg _ h]

section
variable {box : Frame Int} {x y : Int} {c : Char}

theorem Outlined.covers (h : Outlined box x y c) : Covers box x y := by
  cases h with
  | corner hvertical _ => exact hvertical.1
  | horizontal _ hhorizontal => exact hhorizontal.1
  | vertical hvertical _ => exact hvertical.1

theorem Outlined.ne_blank (h : Outlined box x y c) : c ≠ ' ' := by
  cases h <;> decide

theorem outlined_of_outlineChar? (h : outlineChar? box x y = some c) : Outlined box x y c := by
  have hcovers : Covers box x y := by constructor <;> grind [outlineChar?]
  by_cases hvertical : x = box.left ∨ x = box.right - 1
  · by_cases hhorizontal : y = box.top ∨ y = box.bottom - 1
    · obtain rfl : c = '+' := by grind [outlineChar?]
      exact .corner ⟨hcovers, hvertical⟩ ⟨hcovers, hhorizontal⟩
    · obtain rfl : c = '|' := by grind [outlineChar?]
      exact .vertical ⟨hcovers, hvertical⟩ fun h => hhorizontal h.2
  · have hhorizontal : y = box.top ∨ y = box.bottom - 1 := by grind [outlineChar?]
    obtain rfl : c = '-' := by grind [outlineChar?]
    exact .horizontal (fun h => hvertical h.2) ⟨hcovers, hhorizontal⟩

/-- What is drawn of a box in a cell is its outline. -/
theorem outlineChar?_eq_some_iff : outlineChar? box x y = some c ↔ Outlined box x y c := by
  refine ⟨outlined_of_outlineChar?, fun h => ?_⟩
  have hcovers := h.covers
  have hcolumn := hcovers.column
  have hrow := hcovers.row
  cases h with
  | corner hvertical hhorizontal =>
    have hx := hvertical.2
    have hy := hhorizontal.2
    grind [outlineChar?]
  | horizontal hvertical hhorizontal =>
    have hx : ¬ (x = box.left ∨ x = box.right - 1) := fun h => hvertical ⟨hcovers, h⟩
    have hy := hhorizontal.2
    grind [outlineChar?]
  | vertical hvertical hhorizontal =>
    have hx := hvertical.2
    have hy : ¬ (y = box.top ∨ y = box.bottom - 1) := fun h => hhorizontal ⟨hcovers, h⟩
    grind [outlineChar?]

/-- An outline has one character in a cell. -/
theorem Outlined.unique {d : Char} (h : Outlined box x y c) (h' : Outlined box x y d) : c = d :=
  Option.some.inj ((outlineChar?_eq_some_iff.2 h).symm.trans (outlineChar?_eq_some_iff.2 h'))

theorem Outlines.unique {scale : Int} {r : Resolved Coord} {id : ElementId} {d : Char}
    (h : Outlines scale r id x y c) (h' : Outlines scale r id x y d) : c = d := by
  obtain ⟨e, he, -, houtlined⟩ := h
  obtain ⟨e', he', -, houtlined'⟩ := h'
  obtain rfl := Option.some.inj (he.symm.trans he')
  exact houtlined.unique houtlined'

end

/-! ## Lines and the rows that they show -/

/-- A line is a row without the blanks at its end. -/
structure Trimmed (row : List Char) (line : String) : Prop where
  blanks : ∃ n, row = line.toList ++ List.replicate n ' '
  last : line.toList.getLast? ≠ some ' '

/-- The character at a place of printed lines, if the line goes that far. -/
def charAt? (ls : List String) (x y : Int) : Option Char :=
  if 0 ≤ x ∧ 0 ≤ y then ls[y.toNat]?.bind (·.toList[x.toNat]?) else none

/-- Where the only white space is the blank, trimming removes blanks. -/
theorem trimmed_trimEnd {row : List Char}
    (h : ∀ c ∈ row, whiteSpace.contains c = true → c = ' ') :
    Trimmed row (String.ofList (trimEnd row)) := by
  change Trimmed row (String.ofList (row.rdropWhile whiteSpace.contains))
  have hsplit : row.rdropWhile whiteSpace.contains ++ row.rtakeWhile whiteSpace.contains = row :=
    List.rdropWhile_append_rtakeWhile
  refine ⟨⟨(row.rtakeWhile whiteSpace.contains).length, ?_⟩, fun hlast => ?_⟩
  · have hblank (c : Char) (hc : c ∈ row.rtakeWhile whiteSpace.contains) : c = ' ' :=
      h c (hsplit ▸ List.mem_append_right _ hc) (List.mem_rtakeWhile_imp hc)
    rw [String.toList_ofList, ← List.eq_replicate_of_mem hblank, hsplit]
  · rw [String.toList_ofList] at hlast
    have hne : row.rdropWhile whiteSpace.contains ≠ [] := by
      intro hnil
      rw [hnil] at hlast
      cases hlast
    rw [List.getLast?_eq_some_getLast hne] at hlast
    refine List.rdropWhile_last_not _ _ hne ?_
    rw [Option.some.inj hlast]
    decide

/-- Read with a blank for what is not there, a line is the row. -/
theorem Trimmed.getD_getElem? {row : List Char} {line : String} (h : Trimmed row line) {x : Nat}
    (hx : x < row.length) : (line.toList[x]?).getD ' ' = row[x] := by
  obtain ⟨n, rfl⟩ := h.blanks
  by_cases hline : x < line.toList.length
  · rw [List.getElem_append_left hline, List.getElem?_eq_getElem hline, Option.getD_some]
  · rw [List.getElem_append_right (Nat.not_lt.1 hline), List.getElem_replicate,
      List.getElem?_eq_none (Nat.not_lt.1 hline), Option.getD_none]

theorem charAt?_natCast (ls : List String) (x y : Nat) :
    charAt? ls x y = ls[y]?.bind (·.toList[x]?) := by
  simp [charAt?]

/-- Before a character of a line there are characters. -/
theorem exists_charAt?_of_le {ls : List String} {x k y : Int} {d : Char}
    (h : charAt? ls k y = some d) (hx : 0 ≤ x) (hle : x ≤ k) : ∃ c, charAt? ls x y = some c := by
  unfold charAt? at h ⊢
  obtain ⟨⟨hk, hy⟩, h⟩ := Option.ite_none_right_eq_some.1 h
  obtain ⟨line, hline, hd⟩ := Option.bind_eq_some_iff.1 h
  obtain ⟨hlt, -⟩ := List.getElem?_eq_some_iff.1 hd
  rw [if_pos ⟨hx, hy⟩, hline, Option.bind_some]
  exact ⟨_, List.getElem?_eq_getElem (by omega)⟩

theorem map_some_rowChars {row : List (Option Char)} (h : none ∉ row) :
    (rowChars row).map some = row := by
  induction row with
  | nil => rfl
  | cons cell row ih =>
    cases cell with
    | none => exact absurd List.mem_cons_self h
    | some c => exact congrArg (some c :: ·) (ih fun hmem => h (List.mem_cons_of_mem _ hmem))

/-! ## A preview without labels -/

theorem CellShows.eq_blank_of_whiteSpace {scale : Int} {r : Resolved Coord} {x y : Int} {c : Char}
    (h : CellShows scale r x y c) (hspace : whiteSpace.contains c = true) : c = ' ' := by
  cases h with
  | outline houtlines _ =>
    obtain ⟨e, -, -, houtlined⟩ := houtlines
    cases houtlined <;> exact absurd hspace (by decide)
  | blank => rfl

section
variable (scale : Int) (r : Resolved Coord) (container : Size Coord)

/-- Without labels, what an element draws is its outline. -/
theorem ink?_unlabelled_eq_some_iff {e : Placed Coord} {id : ElementId} {x y : Int}
    {cell : Option Char} :
    ink? { scale, showLabels := false } e id x y = some cell ↔
      Drawn e ∧ ∃ c, Outlined (boxOf (max scale 1) e.frame) x y c ∧ some c = cell := by
  have hscale : 0 ≤ max scale 1 := by omega
  have hdrawn : Drawn e ↔ e.visibility = .visible ∧ e.frame.isEmpty = false :=
    ⟨fun h => ⟨h.visible, h.area⟩, fun h => ⟨h.1, h.2⟩⟩
  simp only [ink?, hdrawn, ← cells_eq_boxOf _ hscale, ← outlineChar?_eq_some_iff, Bool.false_eq_true,
    if_false, Option.none_or, Option.ite_none_left_eq_some, Option.map_eq_some_iff, Bool.or_eq_true,
    decide_eq_true_eq, ne_eq, not_or, not_not, Bool.not_eq_true]

theorem inkOf?_unlabelled_eq_some_iff {id : ElementId} {x y : Int} {cell : Option Char} :
    inkOf? { scale, showLabels := false } r id x y = some cell ↔
      ∃ c, Outlines scale r id x y c ∧ some c = cell := by
  simp only [inkOf?, Outlines, Option.bind_eq_some_iff, ink?_unlabelled_eq_some_iff]
  constructor
  · rintro ⟨e, he, hdrawn, c, houtlined, hcell⟩
    exact ⟨c, ⟨e, he, hdrawn, houtlined⟩, hcell⟩
  · rintro ⟨c, ⟨e, he, hdrawn, houtlined⟩, hcell⟩
    exact ⟨e, he, hdrawn, c, houtlined, hcell⟩

theorem inkOf?_unlabelled_eq_none_iff {id : ElementId} {x y : Int} :
    inkOf? { scale, showLabels := false } r id x y = none ↔ ∀ c, ¬ Outlines scale r id x y c := by
  simp only [Option.eq_none_iff_forall_ne_some, ne_eq, inkOf?_unlabelled_eq_some_iff]
  constructor
  · exact fun h c hc => h (some c) ⟨c, hc, rfl⟩
  · rintro h _ ⟨c, hc, rfl⟩
    exact h c hc

theorem exists_topInk?_eq (x y : Int) :
    ∃ c, (topInk? { scale, showLabels := false } r x y).getD (some ' ') = some c ∧
      CellShows scale r x y c := by
  cases htop : topInk? { scale, showLabels := false } r x y with
  | none =>
    refine ⟨' ', rfl, .blank fun id => (inkOf?_unlabelled_eq_none_iff scale r).1 ?_⟩
    exact (topInk?_eq_none_iff ..).1 htop id
  | some cell =>
    obtain ⟨id, hink, hlast⟩ := (topInk?_eq_some_iff ..).1 htop
    obtain ⟨c, houtlines, rfl⟩ := (inkOf?_unlabelled_eq_some_iff ..).1 hink
    exact ⟨c, rfl, .outline houtlines fun later hlater =>
      (inkOf?_unlabelled_eq_none_iff ..).1 (hlast later hlater)⟩

/-- Every cell of the grid holds a character. -/
theorem exists_char_of_cell?_grid {i j : Nat} {cell : Option Char}
    (h : cell? (grid { scale, showLabels := false } r container) i j = some cell) :
    ∃ c, cell = some c ∧ CellShows scale r i j c := by
  rw [cell?_grid] at h
  obtain ⟨-, h⟩ := Option.ite_none_right_eq_some.1 h
  obtain ⟨c, hc, hshows⟩ := exists_topInk?_eq scale r i j
  exact ⟨c, (Option.some.inj h).symm.trans hc, hshows⟩

/-- Every line is a row of the grid without the blanks at its end. -/
theorem exists_row_of_getElem?_lines {y : Nat} {line : String}
    (h : (lines { scale, showLabels := false } r container)[y]? = some line) :
    ∃ row : List Char, (row.length : Int) = max container.width.val 0 / max scale 1 ∧
      Trimmed row line ∧ ∀ (x : Nat) c, row[x]? = some c → CellShows scale r x y c := by
  rw [lines, List.getElem?_map, Option.map_eq_some_iff] at h
  obtain ⟨row, hrow, rfl⟩ := h
  have hcell (x : Nat) : row[x]? = cell? (grid { scale, showLabels := false } r container) x y := by
    rw [cell?, hrow, Option.bind_some]
  have hchars : (rowChars row).map some = row := by
    refine map_some_rowChars fun hcovered => ?_
    obtain ⟨x, hx⟩ := List.mem_iff_getElem?.1 hcovered
    obtain ⟨c, hc, -⟩ := exists_char_of_cell?_grid scale r container ((hcell x).symm.trans hx)
    cases hc
  have hshows (x : Nat) (c : Char) (hx : (rowChars row)[x]? = some c) : CellShows scale r x y c := by
    have hx' : row[x]? = some (some c) := by rw [← hchars, List.getElem?_map, hx, Option.map_some]
    obtain ⟨d, hd, hshows⟩ := exists_char_of_cell?_grid scale r container ((hcell x).symm.trans hx')
    exact Option.some.inj hd ▸ hshows
  refine ⟨rowChars row, ?length, trimmed_trimEnd fun c hc => ?blank, hshows⟩
  case length =>
    have hlength := congrArg List.length hchars
    rw [List.length_map, length_of_mem_grid _ _ _ (List.mem_of_getElem? hrow)] at hlength
    rw [hlength, natCast_columns]
  case blank =>
    obtain ⟨x, hx⟩ := List.mem_iff_getElem?.1 hc
    exact (hshows x c hx).eq_blank_of_whiteSpace

/-- Nothing but a label can leave the range of coordinates. -/
theorem lines?_unlabelled :
    lines? { scale, showLabels := false } r container =
      some (lines { scale, showLabels := false } r container) := by
  refine lines?_eq_some _ _ _ fun box label hdrawn => ?_
  obtain ⟨id, e, -, hlabel⟩ := mem_drawnLabels.1 hdrawn
  obtain ⟨⟨-, -, hshow⟩, -⟩ := drawnLabel?_eq_some_iff.1 hlabel
  cases hshow

/-- A place on the grid of a preview. -/
structure OnGrid (x y : Int) : Prop where
  column : 0 ≤ x ∧ x < max container.width.val 0 / max scale 1
  row : 0 ≤ y ∧ y < max container.height.val 0 / max scale 1

/-- What is read at a place on the grid, a blank behind the end of a line. -/
theorem cellShows_charAt? {x y : Int} (h : OnGrid scale container x y) :
    CellShows scale r x y
      ((charAt? (lines { scale, showLabels := false } r container) x y).getD ' ') := by
  obtain ⟨⟨hleft, hright⟩, htop, hbottom⟩ := h
  obtain ⟨x, rfl⟩ := Int.eq_ofNat_of_zero_le hleft
  obtain ⟨y, rfl⟩ := Int.eq_ofNat_of_zero_le htop
  have hy : y < (lines { scale, showLabels := false } r container).length := by
    rw [← Int.ofNat_lt, length_lines, natCast_rows]
    exact hbottom
  obtain ⟨row, hlength, htrimmed, hshows⟩ :=
    exists_row_of_getElem?_lines scale r container (List.getElem?_eq_getElem hy)
  have hx : x < row.length := by omega
  refine hshows x _ ?_
  rw [charAt?_natCast, List.getElem?_eq_getElem hy, Option.bind_some,
    htrimmed.getD_getElem? hx, List.getElem?_eq_getElem hx]

end

end AnchorLayout.Preview
