import AnchorLayout.Proofs.Preview.Cells
import AnchorLayout.Proofs.Text.Widening
import Mathlib.Algebra.Order.BigOperators.Group.List
import Mathlib.Algebra.Order.Group.Nat
import Mathlib.Algebra.Ring.Nat

/-!
# How far a label goes

A label is cut so that the widths of its characters fit between the corners of the box, but it is written
with at least one cell for each character. The position therefore moves on by more than the width of the
text as soon as a character has no width. `advance` is how far it moves in all, `reach` is the last cell
that is written into, and both stay within the room if every character takes a column.
-/

namespace AnchorLayout.Preview

open Text

/-- What is written of a label into the upper edge of a box. -/
def labelText (box : Frame Int) (label : String) : List Char :=
  if labelRoom box = 0 then [] else (cutToColumns label (labelRoom box)).toList

/-- The box of an element and the label that is written into it, if the element is drawn with its
label. -/
def drawnLabel? (settings : Settings) (e : Placed Coord) (id : ElementId) :
    Option (Frame Int × String) :=
  if e.visibility = .visible ∧ e.frame.isEmpty = false ∧ settings.showLabels = true then
    some (cells e.frame (max settings.scale 1), e.name.getD (Layout.indexLabel id))
  else none

/-- All boxes with the labels that are written into them. -/
def drawnLabels (settings : Settings) (r : Resolved Coord) : List (Frame Int × String) :=
  r.elements.zipIdx.filterMap fun (e, id) => drawnLabel? settings e id

/-- The cells by which the position moves on over a text. -/
def advance (cs : List Char) : Nat := (cs.map fun c => max (charColumns c) 1).sum

/-- The cells from the first of a text to the last that is written into. Behind the last character only
the second cell of a character of two columns is. -/
def reach : List Char → Nat
  | [] => 0
  | [c] => if charColumns c = 2 then 2 else 1
  | c :: d :: rest => max (charColumns c) 1 + reach (d :: rest)

section
variable {settings : Settings} {r : Resolved Coord} {e : Placed Coord} {id : ElementId}
  {box : Frame Int} {label : String}

theorem drawnLabel?_eq_some_iff :
    drawnLabel? settings e id = some (box, label) ↔
      (e.visibility = .visible ∧ e.frame.isEmpty = false ∧ settings.showLabels = true) ∧
        cells e.frame (max settings.scale 1) = box ∧
        e.name.getD (Layout.indexLabel id) = label := by
  rw [drawnLabel?, Option.ite_none_right_eq_some, Option.some.injEq, Prod.mk.injEq]

theorem mem_drawnLabels :
    (box, label) ∈ drawnLabels settings r ↔
      ∃ id e, r.elements[id]? = some e ∧ drawnLabel? settings e id = some (box, label) := by
  rw [drawnLabels, List.mem_filterMap]
  constructor
  · rintro ⟨⟨e, id⟩, hmem, hlabel⟩
    exact ⟨id, e, List.mk_mem_zipIdx_iff_getElem?.1 hmem, hlabel⟩
  · rintro ⟨id, e, he, hlabel⟩
    exact ⟨(e, id), List.mk_mem_zipIdx_iff_getElem?.2 he, hlabel⟩

/-- These labels are written, each after the outline of its box. -/
theorem drawElement_of_drawnLabel? (h : drawnLabel? settings e id = some (box, label)) (g : Grid) :
    drawElement settings g e id = writeLabel (drawBox g box) box label := by
  obtain ⟨⟨hvisible, harea, hshow⟩, rfl, rfl⟩ := drawnLabel?_eq_some_iff.1 h
  simp [drawElement, hvisible, harea, hshow]

/-- And no others are. -/
theorem drawElement_of_drawnLabel?_eq_none (h : drawnLabel? settings e id = none) (g : Grid) :
    drawElement settings g e id =
      if e.visibility ≠ .visible || e.frame.isEmpty then g
      else drawBox g (cells e.frame (max settings.scale 1)) := by
  have hshow : e.visibility = .visible → e.frame.isEmpty = false → settings.showLabels = false := by
    simpa [drawnLabel?] using h
  unfold drawElement
  split
  case isTrue => rfl
  case isFalse hdrawn =>
    simp only [ne_eq, Bool.or_eq_true, decide_eq_true_eq, not_or, not_not,
      Bool.not_eq_true] at hdrawn
    simp [hshow hdrawn.1 hdrawn.2]

/-- The label of a drawn element is one of the labels of the layout. -/
theorem label_mem_labels (h : (box, label) ∈ drawnLabels settings r) : label ∈ r.labels := by
  obtain ⟨id, e, he, hlabel⟩ := mem_drawnLabels.1 h
  obtain ⟨-, -, rfl⟩ := drawnLabel?_eq_some_iff.1 hlabel
  exact List.mem_map.2 ⟨(e, id), List.mk_mem_zipIdx_iff_getElem?.2 he, rfl⟩

theorem labelText_of_labelRoom_eq_zero (h : labelRoom box = 0) : labelText box label = [] := if_pos h

theorem writeLabel_eq (g : Grid) (box : Frame Int) (label : String) :
    writeLabel g box label = writeChars g (box.left + 1) box.top (labelText box label) := by
  unfold writeLabel labelText
  split <;> rfl

theorem labelRoom_le (h : labelRoom box ≠ 0) : (labelRoom box : Int) ≤ box.right - box.left - 2 := by
  rw [labelRoom, Coord.val_clamp] at h ⊢
  omega

/-! ## Where a text is written -/

theorem advance_cons (c : Char) (cs : List Char) :
    advance (c :: cs) = max (charColumns c) 1 + advance cs := by
  rw [advance, List.map_cons, List.sum_cons, advance]

theorem reach_le_advance (cs : List Char) : reach cs ≤ advance cs := by
  fun_induction reach cs with
  | case1 => exact Nat.le_refl 0
  | case2 c h => simp [advance, h]
  | case3 c h =>
    simp only [advance, List.map_cons, List.map_nil, List.sum_cons, List.sum_nil]
    omega
  | case4 c d rest ih =>
    rw [advance_cons]
    exact Nat.add_le_add_left ih _

theorem reach_cons_pos (c : Char) (cs : List Char) : 0 < reach (c :: cs) := by
  cases cs with
  | nil =>
    rw [reach]
    split <;> omega
  | cons d rest =>
    rw [reach]
    omega

/-- A text is written between its first cell and the last within its reach. -/
theorem lt_reach_of_textInk? {start x : Int} {cs : List Char} (h : textInk? start x cs ≠ none) :
    start ≤ x ∧ x < start + reach cs := by
  refine ⟨Int.not_lt.1 fun hlt => h (textInk?_of_lt cs hlt), ?_⟩
  fun_induction reach cs generalizing start with
  | case1 => exact absurd rfl h
  | case2 c hwide => grind [textInk?]
  | case3 c hwide => grind [textInk?]
  | case4 c d rest ih =>
    have hpos := reach_cons_pos d rest
    rw [textInk?] at h
    split at h
    case isTrue => omega
    case isFalse =>
      split at h
      case isTrue => omega
      case isFalse =>
        have hlt := ih h
        omega

/-- The last cell within its reach is written into. -/
theorem textInk?_last {start : Int} {cs : List Char} (h : cs ≠ []) :
    textInk? start (start + reach cs - 1) cs ≠ none := by
  fun_induction reach cs generalizing start with
  | case1 => exact absurd rfl h
  | case2 c hwide => grind [textInk?]
  | case3 c hwide => grind [textInk?]
  | case4 c d rest ih =>
    have hpos := reach_cons_pos d rest
    have hlast : start + (max (charColumns c) 1 + reach (d :: rest) : Nat) - 1 =
        start + max (charColumns c) 1 + reach (d :: rest) - 1 := by omega
    rw [textInk?, if_neg (by omega), if_neg (by omega), hlast]
    exact ih (List.cons_ne_nil d rest)

/-! ## Labels of characters that take columns -/

/-- A character that takes a column is written into no more cells than it is counted for. -/
theorem charColumns_le_ofChar {c : Char} (h : 1 ≤ Columns.ofChar c) :
    charColumns c ≤ Columns.ofChar c := by
  have hcontrol : ¬ (c.toNat < 0x20 ∨ 0x7F ≤ c.toNat ∧ c.toNat < 0xA0) := fun hcontrol => by
    simp [Columns.ofChar, hcontrol] at h
  have hdelete : c ≠ '\x7F' := by
    rintro rfl
    exact hcontrol (by decide)
  have hstays : ∀ d ∈ [c], Escapes.Stays d := by
    intro d hd
    obtain rfl := List.mem_singleton.1 hd
    right
    simp only [Escapes.isShown, Bool.not_eq_true', Bool.or_eq_false_iff, Bool.and_eq_false_iff,
      decide_eq_false_iff_not]
    omega
  have hwidth := Columns.ofChars_le hstays
  rw [charColumns, columnCount, Char.toString_eq_singleton, String.toList_singleton,
    Escapes.strip_eq_self hstays]
  simpa [Columns.widened, Columns.widening, hdelete] using hwidth

/-- If all characters take a column, the position stays within the room. -/
theorem advance_labelText_le (h : ∀ c ∈ Escapes.strip label.toList, 1 ≤ Columns.ofChar c) :
    advance (labelText box label) ≤ labelRoom box := by
  unfold labelText
  split
  case isTrue => exact Nat.zero_le _
  case isFalse =>
    rw [toList_cutToColumns]
    refine le_trans (List.sum_le_sum fun c hc => ?_) (sum_takeColumns_le _ _)
    have hcolumn := h c ((isPrefix_takeColumns _ _).subset hc)
    exact max_le (charColumns_le_ofChar hcolumn) hcolumn

end

end AnchorLayout.Preview
