import AnchorLayout.Proofs.Preview.Cells
import Mathlib.Algebra.Ring.Nat

/-!
# Columns that stay in line

A row of a preview is printed without the cells that a character of two columns covers. It takes as
many columns as it has cells if such cells stand exactly behind the characters of two columns, and
all other characters take one.
-/

namespace AnchorLayout.Preview

/-- The columns that the characters of a row take when it is printed. -/
def printedColumns (row : List (Option Char)) : Nat := ((rowChars row).map charColumns).sum

@[simp] theorem printedColumns_cons_some (c : Char) (row : List (Option Char)) :
    printedColumns (some c :: row) = charColumns c + printedColumns row := by
  simp [printedColumns, rowChars]

@[simp] theorem printedColumns_cons_none (row : List (Option Char)) :
    printedColumns (none :: row) = printedColumns row := by
  simp [printedColumns, rowChars]

/-- Covered cells stand exactly behind the characters of two columns, and all others take one. -/
structure Aligned (row : List (Option Char)) : Prop where
  first : row[0]? ≠ some none
  covered_iff : ∀ x : Nat, row[x + 1]? = some none ↔ ∃ c, row[x]? = some (some c) ∧ charColumns c = 2
  one_or_two : ∀ (x : Nat) c, row[x]? = some (some c) → charColumns c = 1 ∨ charColumns c = 2

theorem Aligned.drop {row : List (Option Char)} (h : Aligned row) (n : Nat)
    (hfirst : row[n]? ≠ some none) : Aligned (row.drop n) where
  first := by rwa [List.getElem?_drop]
  covered_iff x := by
    simp only [List.getElem?_drop]
    exact h.covered_iff (n + x)
  one_or_two x c := by
    rw [List.getElem?_drop]
    exact h.one_or_two (n + x) c

/-- An aligned row takes as many columns as it has cells. -/
theorem Aligned.printedColumns_eq {row : List (Option Char)} (h : Aligned row) :
    printedColumns row = row.length := by
  match row, h with
  | [], _ => rfl
  | none :: _, h => exact absurd rfl h.first
  | some c :: row, h =>
    have hcovered : row[0]? = some none ↔ charColumns c = 2 := by
      simpa using h.covered_iff 0
    rcases h.one_or_two 0 c rfl with hone | htwo
    · have ih : printedColumns row = row.length :=
        (h.drop 1 fun hnone => by simp [hcovered.1 hnone] at hone).printedColumns_eq
      rw [printedColumns_cons_some, ih, hone, List.length_cons, Nat.add_comm]
    · match row, h, hcovered.2 htwo with
      | none :: row, h, _ =>
        have hnext : row[0]? ≠ some none := fun hnone => by
          simpa using (h.covered_iff 1).1 hnone
        have ih : printedColumns row = row.length := (h.drop 2 hnext).printedColumns_eq
        rw [printedColumns_cons_some, printedColumns_cons_none, ih, htwo, List.length_cons,
          List.length_cons, Nat.add_comm]
termination_by row.length

/-! ## Covered cells of one element -/

theorem charColumns_blank : charColumns ' ' = 1 := by decide +kernel

theorem charColumns_of_outlineChar? {box : Frame Int} {x y : Int} {c : Char}
    (h : outlineChar? box x y = some c) : charColumns c = 1 := by
  have hc : c = '+' ∨ c = '-' ∨ c = '|' := by
    unfold outlineChar? at h
    grind
  rcases hc with rfl | rfl | rfl <;> decide +kernel

/-- A text covers the cells behind its characters of two columns. -/
theorem textInk?_covered_iff {start x : Int} {cs : List Char} :
    textInk? start (x + 1) cs = some none ↔
      ∃ c, textInk? start x cs = some (some c) ∧ charColumns c = 2 := by
  induction cs generalizing start with
  | nil => simp [textInk?]
  | cons first cs ih =>
    simp only [textInk?_cons_eq_covered, textInk?_cons_eq_char, ih]
    grind

/-- So does the label of a box. -/
theorem labelInk?_covered_iff {box : Frame Int} {label : String} {x y : Int} :
    labelInk? box label (x + 1) y = some none ↔
      ∃ c, labelInk? box label x y = some (some c) ∧ charColumns c = 2 := by
  unfold labelInk?
  split
  · exact textInk?_covered_iff
  · simp

/-- So does an element, since the characters of an outline take one column. -/
theorem ink?_covered_iff {settings : Settings} {e : Placed Coord} {id : ElementId} {x y : Int} :
    ink? settings e id (x + 1) y = some none ↔
      ∃ c, ink? settings e id x y = some (some c) ∧ charColumns c = 2 := by
  unfold ink?
  split
  case isTrue => simp
  case isFalse =>
    cases settings.showLabels with
    | false =>
      have houtline (c : Char)
          (h : outlineChar? (cells e.frame (max settings.scale 1)) x y = some c) :
          charColumns c ≠ 2 := by
        rw [charColumns_of_outlineChar? h]
        omega
      simpa using houtline
    | true =>
      simp only [if_true, Option.or_eq_some_iff, Option.map_eq_some_iff, reduceCtorEq, and_false,
        exists_const, or_false, labelInk?_covered_iff]
      refine exists_congr fun c => and_congr_left fun hc => (or_iff_left ?_).symm
      rintro ⟨-, d, hd, hdc⟩
      obtain rfl := Option.some.inj hdc
      simp [charColumns_of_outlineChar? hd] at hc

section
variable {settings : Settings} {r : Resolved Coord} {container : Size Coord}
  {id id' : ElementId} {x y : Int} {cell : Option Char}

theorem inkOf?_covered_iff :
    inkOf? settings r id (x + 1) y = some none ↔
      ∃ c, inkOf? settings r id x y = some (some c) ∧ charColumns c = 2 := by
  unfold inkOf?
  cases r.elements[id]? with
  | none => simp
  | some e => exact ink?_covered_iff

/-! ## What is seen of an element -/

/-- What an element draws in a cell is seen there: the cell is on the grid, and no later element draws
in it. -/
structure Shows (settings : Settings) (r : Resolved Coord) (container : Size Coord)
    (id : ElementId) (x y : Int) (cell : Option Char) : Prop where
  column : 0 ≤ x ∧ x < columns settings container
  row : 0 ≤ y ∧ y < rows settings container
  drawn : inkOf? settings r id x y = some cell
  topmost : ∀ later, id < later → inkOf? settings r later x y = none

/-- Every character that is seen takes one column or two, and of a character that takes two, both
cells are seen or neither. -/
structure SeenWhole (settings : Settings) (r : Resolved Coord) (container : Size Coord) : Prop where
  one_or_two : ∀ id x y c, Shows settings r container id x y (some c) →
    charColumns c = 1 ∨ charColumns c = 2
  both_or_neither : ∀ id x y c, inkOf? settings r id x y = some (some c) → charColumns c = 2 →
    (Shows settings r container id x y (some c) ↔ Shows settings r container id (x + 1) y none)

/-- A cell that is not blank shows what some element draws there. -/
theorem shows_of_cell?_grid {i j : Nat} (h : cell? (grid settings r container) i j = some cell)
    (hblank : cell ≠ some ' ') : ∃ id, Shows settings r container id i j cell := by
  rw [cell?_grid] at h
  split at h
  case isFalse => cases h
  case isTrue hon =>
    cases htop : topInk? settings r i j with
    | none =>
      rw [htop] at h
      exact absurd (Option.some.inj h).symm hblank
    | some top =>
      rw [htop, Option.getD_some] at h
      obtain rfl := Option.some.inj h
      obtain ⟨id, hdrawn, htopmost⟩ := (topInk?_eq_some_iff ..).1 htop
      exact ⟨id, ⟨by omega, by omega⟩, ⟨by omega, by omega⟩, hdrawn, htopmost⟩

theorem shows_of_wide {i j : Nat} {c : Char}
    (h : cell? (grid settings r container) i j = some (some c)) (hc : charColumns c = 2) :
    ∃ id, Shows settings r container id i j (some c) := by
  refine shows_of_cell?_grid h fun hblank => ?_
  obtain rfl := Option.some.inj hblank
  simp [charColumns_blank] at hc

theorem Shows.cell?_grid {i j : Nat} (h : Shows settings r container id i j cell) :
    cell? (grid settings r container) i j = some cell := by
  have htop : topInk? settings r i j = some cell :=
    (topInk?_eq_some_iff ..).2 ⟨id, h.drawn, h.topmost⟩
  have hcolumn := h.column
  have hrow := h.row
  rw [Preview.cell?_grid, if_pos (by omega), htop, Option.getD_some]

/-- The two cells of a character that takes two columns are of one element. -/
theorem Shows.eq_of_covered {c : Char} (h : Shows settings r container id x y (some c))
    (hc : charColumns c = 2) (h' : Shows settings r container id' (x + 1) y none) : id = id' := by
  rcases Nat.lt_trichotomy id id' with hlt | heq | hgt
  · obtain ⟨d, hd, -⟩ := inkOf?_covered_iff.1 h'.drawn
    simp [h.topmost id' hlt] at hd
  · exact heq
  · have hcovered := inkOf?_covered_iff.2 ⟨c, h.drawn, hc⟩
    simp [h'.topmost id hgt] at hcovered

/-! ## Aligned previews -/

theorem cells_of_mem {g : Grid} {row : List (Option Char)} (h : row ∈ g) :
    ∃ j, ∀ i, row[i]? = cell? g i j := by
  obtain ⟨j, hj⟩ := List.mem_iff_getElem?.1 h
  exact ⟨j, fun i => by rw [cell?, hj, Option.bind_some]⟩

/-- The row in which something is seen. -/
theorem Shows.exists_row (h : Shows settings r container id x y cell) :
    ∃ i j : Nat, x = i ∧ y = j ∧ ∃ row ∈ grid settings r container,
      row[i]? = some cell ∧ ∀ i', row[i']? = cell? (grid settings r container) i' j := by
  obtain ⟨i, rfl⟩ := Int.eq_ofNat_of_zero_le h.column.1
  obtain ⟨j, rfl⟩ := Int.eq_ofNat_of_zero_le h.row.1
  obtain ⟨row, hrow, hcell⟩ := Option.bind_eq_some_iff.1 h.cell?_grid
  exact ⟨i, j, rfl, rfl, row, List.mem_of_getElem? hrow, hcell,
    fun i' => by rw [cell?, hrow, Option.bind_some]⟩

theorem seenWhole_of_aligned (h : ∀ row ∈ grid settings r container, Aligned row) :
    SeenWhole settings r container where
  one_or_two id x y c hseen := by
    obtain ⟨i, j, rfl, rfl, row, hrow, hcell, -⟩ := hseen.exists_row
    exact (h row hrow).one_or_two i c hcell
  both_or_neither id x y c hdrawn hwide := by
    constructor
    · intro hseen
      obtain ⟨i, j, rfl, rfl, row, hrow, hcell, hcells⟩ := hseen.exists_row
      have hsecond : row[i + 1]? = some none := ((h row hrow).covered_iff i).2 ⟨c, hcell, hwide⟩
      obtain ⟨id', hid'⟩ := shows_of_cell?_grid ((hcells (i + 1)).symm.trans hsecond) (by simp)
      exact hseen.eq_of_covered hwide hid' ▸ hid'
    · intro hseen
      obtain ⟨k, j, hk, rfl, row, hrow, hcell, hcells⟩ := hseen.exists_row
      cases k with
      | zero => exact absurd hcell (h row hrow).first
      | succ i =>
        obtain rfl : x = i := by omega
        obtain ⟨d, hd, hdwide⟩ := ((h row hrow).covered_iff i).1 hcell
        obtain ⟨id', hid'⟩ := shows_of_wide ((hcells i).symm.trans hd) hdwide
        obtain rfl := hid'.eq_of_covered hdwide hseen
        obtain rfl : c = d := by simpa [hdrawn] using hid'.drawn
        exact hid'

theorem aligned_of_seenWhole (h : SeenWhole settings r container) :
    ∀ row ∈ grid settings r container, Aligned row := by
  intro row hrow
  obtain ⟨j, hcells⟩ := cells_of_mem hrow
  -- A covered cell is seen with the character that covers it, which stands before it.
  have hcovered {x : Int} {k : Nat} (hx : k = x + 1)
      (hnone : cell? (grid settings r container) k j = some none) :
      ∃ id c, charColumns c = 2 ∧ Shows settings r container id x j (some c) := by
    obtain ⟨id, hid⟩ := shows_of_cell?_grid hnone (by simp)
    rw [hx] at hid
    obtain ⟨c, hc, hwide⟩ := inkOf?_covered_iff.1 hid.drawn
    exact ⟨id, c, hwide, (h.both_or_neither id x j c hc hwide).2 hid⟩
  refine ⟨?first, ?covered, ?widths⟩
  case first =>
    intro hnone
    obtain ⟨id, c, -, hid⟩ := hcovered (x := -1) (k := 0) rfl ((hcells 0).symm.trans hnone)
    exact absurd hid.column.1 (by omega)
  case covered =>
    intro i
    rw [hcells, hcells]
    constructor
    · intro hnone
      obtain ⟨id, c, hwide, hid⟩ := hcovered (x := i) rfl hnone
      exact ⟨c, hid.cell?_grid, hwide⟩
    · rintro ⟨c, hc, hwide⟩
      obtain ⟨id, hid⟩ := shows_of_wide hc hwide
      exact ((h.both_or_neither id i j c hid.drawn hwide).1 hid).cell?_grid
  case widths =>
    intro i c hc
    by_cases hblank : c = ' '
    · exact .inl (hblank ▸ charColumns_blank)
    · obtain ⟨id, hid⟩ := shows_of_cell?_grid ((hcells i).symm.trans hc) (by simpa using hblank)
      exact h.one_or_two id i j c hid

end

/-! ## Labels of narrow characters -/

/-- Without labels, and with labels whose characters all take one column, every row is aligned. -/
theorem aligned_of_narrow_labels {settings : Settings} {r : Resolved Coord} {container : Size Coord}
    (h : settings.showLabels = true →
      ∀ label ∈ r.labels, ∀ c ∈ Text.Escapes.strip label.toList, charColumns c = 1) :
    ∀ row ∈ grid settings r container, Aligned row := by
  have hone {id : ElementId} {x y : Int} {c : Char}
      (hdrawn : inkOf? settings r id x y = some (some c)) : charColumns c = 1 := by
    rcases char_of_inkOf? hdrawn with ⟨box, houtline⟩ | ⟨hshow, label, hlabel, hmem⟩
    · exact charColumns_of_outlineChar? houtline
    · exact h hshow label hlabel c hmem
  exact aligned_of_seenWhole
    { one_or_two := fun id x y c hseen => .inl (hone hseen.drawn)
      both_or_neither := fun id x y c hdrawn hwide => by simp [hone hdrawn] at hwide }

/-! ## The criterion -/

/-- **When columns stay in line.** The rows of a preview are aligned, and print with as many columns as
the grid has, exactly if what the elements draw is seen whole. -/
theorem aligned_iff_seenWhole (settings : Settings) (r : Resolved Coord) (container : Size Coord) :
    (∀ row ∈ grid settings r container,
        Aligned row ∧ printedColumns row = columns settings container) ↔
      SeenWhole settings r container := by
  refine ⟨fun h => seenWhole_of_aligned fun row hrow => (h row hrow).1, fun h row hrow => ?_⟩
  have haligned := aligned_of_seenWhole h row hrow
  exact ⟨haligned, haligned.printedColumns_eq.trans (length_of_mem_grid _ _ _ hrow)⟩

/-- A box whose label has a character of two columns, a dot on the first of its two cells, and a box
farther to the right. -/
def overdrawn : Layout Coord :=
  { Layout.ofSize ⟨.clamp 8, .clamp 2⟩ with
    elements :=
      [⟨"日", { width := .exact (.clamp 5), height := .exact (.clamp 2), margin := .none }⟩,
       ⟨none, { width := .exact (.clamp 1), height := .exact (.clamp 1)
                margin := { Insets.none with left := .clamp 1 } }⟩,
       ⟨none, { width := .exact (.clamp 2), height := .exact (.clamp 2), margin := .none
                rules := [.parent .alignParentRight] }⟩] }

/-- The elements as they are placed. -/
def placedOverdrawn : Resolved Coord where
  elements :=
    [⟨⟨.clamp 0, .clamp 0, .clamp 5, .clamp 2⟩, "日", .visible⟩,
     ⟨⟨.clamp 1, .clamp 0, .clamp 2, .clamp 1⟩, none, .visible⟩,
     ⟨⟨.clamp 6, .clamp 0, .clamp 8, .clamp 2⟩, none, .visible⟩]
  order := [0, 1, 2]

/-- The dot replaces the first cell of the character, and the second stays covered: the upper row takes
seven columns of eight, and the box to the right is shifted against its lower edge. -/
theorem not_aligned_overdrawn :
    overdrawn.resolve = .ok placedOverdrawn ∧
      lines {} placedOverdrawn overdrawn.size = ["++-+ ++", "+---+ ++"] ∧
      ∃ row ∈ grid {} placedOverdrawn overdrawn.size,
        ¬ Aligned row ∧ printedColumns row ≠ columns {} overdrawn.size := by
  have hcolumns : ∃ row ∈ grid {} placedOverdrawn overdrawn.size,
      printedColumns row ≠ columns {} overdrawn.size := by
    decide +kernel
  refine ⟨by decide +kernel, by decide +kernel, ?_⟩
  obtain ⟨row, hrow, hne⟩ := hcolumns
  refine ⟨row, hrow, fun haligned => hne ?_, hne⟩
  exact haligned.printedColumns_eq.trans (length_of_mem_grid _ _ _ hrow)

end AnchorLayout.Preview
