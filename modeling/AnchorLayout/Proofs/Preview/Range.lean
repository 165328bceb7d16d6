import AnchorLayout.Preview.Bounded
import AnchorLayout.Proofs.Preview.Labels

/-!
# Previews that stay in range

Nothing that a preview computes of a drawn box leaves the range of coordinates, wherever the box lies:
dividing by a scale brings its edges closer to zero, and its last column and row are not before the
first. Only the position behind a label can leave it. The text is cut so that the widths of its
characters fit, but the position moves on by one for each character without a width as well.
-/

namespace AnchorLayout

namespace Coord

theorem shift?_eq_some_iff {a b : Coord} {distance : Int} :
    a.shift? distance = some b ↔ b.val = a.val + distance := ofInt?_eq_some_iff

theorem exists_shift? (a : Coord) (distance : Int) (hlower : -2147483648 ≤ a.val + distance)
    (hupper : a.val + distance ≤ 2147483647) :
    ∃ b, a.shift? distance = some b ∧ b.val = a.val + distance :=
  ⟨⟨_, hlower, hupper⟩, shift?_eq_some_iff.2 rfl, rfl⟩

/-- A quotient is no farther from zero than what is divided. -/
theorem exists_quotient? (a : Coord) {divisor : Int} (h : 1 ≤ divisor) :
    ∃ b, a.quotient? divisor = some b ∧ b.val = a.val / divisor := by
  have hlowerVal := a.lower
  have hupperVal := a.upper
  have hlower : -2147483648 ≤ a.val / divisor :=
    (Int.le_ediv_iff_mul_le (by omega)).2 (by omega)
  have hupper : a.val / divisor < 2147483647 + 1 :=
    (Int.ediv_lt_iff_lt_mul (by omega)).2 (by omega)
  refine ⟨⟨_, hlower, Int.lt_add_one_iff.1 hupper⟩, ?_, rfl⟩
  rw [quotient?, if_neg (by omega)]
  exact ofInt?_eq_some_iff.2 rfl

end Coord

namespace Preview

open Text

/-- The position behind what is written of a label is a coordinate. -/
def Fits (box : Frame Int) (label : String) : Prop :=
  labelText box label = [] ∨ box.left + 1 + advance (labelText box label) ≤ 2147483647

instance (box : Frame Int) (label : String) : Decidable (Fits box label) :=
  inferInstanceAs (Decidable (_ ∨ _))

section
variable {settings : Settings} {e : Placed Coord} {id : ElementId}

/-! ## Boxes -/

theorem exists_cells? (f : Frame Coord) (scale : Int) (h : 1 ≤ scale) :
    ∃ box, cells? f scale = some box ∧ box.map (·.val) = cells f scale := by
  obtain ⟨left, hleft, hleftVal⟩ := f.left.exists_quotient? h
  obtain ⟨top, htop, htopVal⟩ := f.top.exists_quotient? h
  obtain ⟨right, hright, hrightVal⟩ := f.right.exists_quotient? h
  obtain ⟨bottom, hbottom, hbottomVal⟩ := f.bottom.exists_quotient? h
  refine ⟨⟨left, top, right, bottom⟩, ?_, ?_⟩
  · simp [cells?, hleft, htop, hright, hbottom]
  · simp [cells, Frame.map, hleftVal, htopVal, hrightVal, hbottomVal]

/-- A box is outlined unless its right or bottom edge is the least coordinate. -/
theorem drawBox?_eq (g : Grid) {box : Frame Coord} (hright : -2147483648 < box.right.val)
    (hbottom : -2147483648 < box.bottom.val) :
    drawBox? g box = some (drawBox g (box.map (·.val))) := by
  have hright' := box.right.upper
  have hbottom' := box.bottom.upper
  obtain ⟨lastColumn, hcolumn, hcolumnVal⟩ := box.right.exists_shift? (-1) (by omega) (by omega)
  obtain ⟨lastRow, hrow, hrowVal⟩ := box.bottom.exists_shift? (-1) (by omega) (by omega)
  simp only [drawBox?, hcolumn, hrow, hcolumnVal, hrowVal, Option.bind_eq_bind, Option.bind_some]
  simp [Frame.map]

/-! ## Labels -/

theorem writeChars?_cons {g : Grid} {x y next : Coord} {c : Char} {cs : List Char}
    (h : x.shift? (max (charColumns c) 1 : Nat) = some next) :
    writeChars? g x y (c :: cs) = writeChars? (writeChar g x.val y.val c) next y cs := by
  have hcolumns : Text.columnCount c.toString = charColumns c := rfl
  have hnext := Coord.shift?_eq_some_iff.1 h
  simp only [writeChars?, hcolumns, h, Option.bind_eq_bind, Option.bind_some]
  rw [writeChar]
  split
  case isTrue hwide =>
    have hlower := x.lower
    have hupper := next.upper
    obtain ⟨second, hsecond, hsecondVal⟩ := x.exists_shift? 1 (by omega) (by omega)
    rw [hsecond, Option.map_some, hsecondVal]
    rfl
  case isFalse => rfl

/-- A text is written if the position behind it is a coordinate. -/
theorem writeChars?_eq_some (g : Grid) {x : Coord} (y : Coord) {cs : List Char}
    (h : x.val + advance cs ≤ 2147483647) :
    writeChars? g x y cs = some (writeChars g x.val y.val cs) := by
  induction cs generalizing g x with
  | nil => rfl
  | cons c cs ih =>
    rw [advance_cons] at h
    have hlower := x.lower
    obtain ⟨next, hnext, hnextVal⟩ :=
      x.exists_shift? (max (charColumns c) 1 : Nat) (by omega) (by omega)
    rw [writeChars?_cons hnext, writeChars_cons, ih _ (by omega), hnextVal]

/-- The room of a box whose edges are in order can be computed. -/
theorem exists_room {box : Frame Coord} (hbox : box.left.val ≤ box.right.val) :
    ∃ room, box.width.shift? (-2) = some room ∧
      room.val.toNat = labelRoom (box.map (·.val)) := by
  have hlower : 0 ≤ box.width.val := by
    rw [Frame.width, Coord.val_sub]
    omega
  have hupper := box.width.upper
  obtain ⟨room, hroom, hroomVal⟩ := box.width.exists_shift? (-2) (by omega) (by omega)
  exact ⟨room, hroom, congrArg Int.toNat hroomVal⟩

/-- Where there is no room, no label is written. -/
theorem writeLabel?_of_labelRoom_eq_zero (g : Grid) {box : Frame Coord} (label : String)
    (hbox : box.left.val ≤ box.right.val) (h : labelRoom (box.map (·.val)) = 0) :
    writeLabel? g box label = some g := by
  obtain ⟨room, hroom, hroomVal⟩ := exists_room hbox
  have hnone : room.val ≤ 0 := by omega
  simp only [writeLabel?, hroom, Option.bind_eq_bind, Option.bind_some, if_pos hnone]
  rfl

/-- Where there is room, the first cell of the label is a cell of the box. -/
theorem exists_writeLabel?_eq (g : Grid) {box : Frame Coord} (label : String)
    (hbox : box.left.val ≤ box.right.val) (h : labelRoom (box.map (·.val)) ≠ 0) :
    ∃ first : Coord, first.val = box.left.val + 1 ∧
      writeLabel? g box label = writeChars? g first box.top (labelText (box.map (·.val)) label) := by
  obtain ⟨room, hroom, hroomVal⟩ := exists_room hbox
  have hsome : ¬ room.val ≤ 0 := by omega
  have hwidth : (labelRoom (box.map (·.val)) : Int) ≤ box.right.val - box.left.val - 2 :=
    labelRoom_le h
  have hlower := box.left.lower
  have hupper := box.right.upper
  obtain ⟨first, hfirst, hfirstVal⟩ := box.left.exists_shift? 1 (by omega) (by omega)
  refine ⟨first, hfirstVal, ?_⟩
  simp only [writeLabel?, labelText, hroom, hfirst, Option.bind_eq_bind, Option.bind_some,
    if_neg hsome, if_neg h, hroomVal]

/-- The label of a box whose edges are in order is written if it fits. -/
theorem writeLabel?_eq_some (g : Grid) {box : Frame Coord} {label : String}
    (hbox : box.left.val ≤ box.right.val) (h : Fits (box.map (·.val)) label) :
    writeLabel? g box label = some (writeLabel g (box.map (·.val)) label) := by
  rw [writeLabel_eq]
  by_cases hroom : labelRoom (box.map (·.val)) = 0
  · rw [writeLabel?_of_labelRoom_eq_zero g label hbox hroom, labelText_of_labelRoom_eq_zero hroom]
    rfl
  · obtain ⟨first, hfirst, hwrite⟩ := exists_writeLabel?_eq g label hbox hroom
    have hend : first.val + advance (labelText (box.map (·.val)) label) ≤ 2147483647 := by
      rcases h with hempty | hfits
      · rw [hempty]
        exact (Int.add_zero first.val).le.trans first.upper
      · rwa [hfirst]
    rw [hwrite, writeChars?_eq_some g box.top hend, hfirst]
    rfl

/-- The cells of a frame with area: the left edge is not behind the right one, and there are columns and
rows before the right and the bottom edge. -/
theorem cells_of_isEmpty_eq_false {f : Frame Coord} (scale : Int) (hscale : 1 ≤ scale)
    (h : f.isEmpty = false) :
    (cells f scale).left ≤ (cells f scale).right ∧ -2147483648 < (cells f scale).right ∧
      -2147483648 < (cells f scale).bottom := by
  have hbehind {a b : Coord} (hlt : a.val < b.val) :
      a.val / scale ≤ b.val / scale ∧ -2147483648 < b.val / scale := by
    have hlower := a.lower
    have hquotient : -2147483647 ≤ b.val / scale :=
      (Int.le_ediv_iff_mul_le (by omega)).2 (by omega)
    exact ⟨Int.ediv_le_ediv (by omega) (by omega), by omega⟩
  obtain ⟨hwidth, hheight⟩ := Frame.isEmpty_eq_false_iff.1 h
  exact ⟨(hbehind hwidth).1, (hbehind hwidth).2, (hbehind hheight).2⟩

/-- What is drawn of an element with area before its label. -/
theorem drawElement?_eq (settings : Settings) (g : Grid) (id : ElementId)
    (hvisible : e.visibility = .visible) (harea : e.frame.isEmpty = false) :
    ∃ box : Frame Coord, box.map (·.val) = cells e.frame (max settings.scale 1) ∧
      box.left.val ≤ box.right.val ∧
      drawElement? settings g e id =
        if settings.showLabels then
          writeLabel? (drawBox g (box.map (·.val))) box (e.name.getD (Layout.indexLabel id))
        else some (drawBox g (box.map (·.val))) := by
  have hscale : 1 ≤ max settings.scale 1 := Int.le_max_right ..
  obtain ⟨box, hbox, hboxVal⟩ := exists_cells? e.frame _ hscale
  obtain ⟨horder, hright, hbottom⟩ := cells_of_isEmpty_eq_false _ hscale harea
  rw [← hboxVal] at horder hright hbottom
  refine ⟨box, hboxVal, horder, ?_⟩
  simp only [drawElement?, hvisible, harea, hbox, drawBox?_eq g hright hbottom, ne_eq, not_true,
    decide_false, Bool.or_false, Bool.false_eq_true, if_false, Option.bind_eq_bind, Option.bind_some]
  rfl

/-- Without a label, an element is drawn. -/
theorem drawElement?_of_drawnLabel?_eq_none (g : Grid) (h : drawnLabel? settings e id = none) :
    drawElement? settings g e id = some (drawElement settings g e id) := by
  by_cases hdrawn : e.visibility = .visible ∧ e.frame.isEmpty = false
  · obtain ⟨box, hbox, -, hdraw⟩ := drawElement?_eq settings g id hdrawn.1 hdrawn.2
    have hshow : settings.showLabels = false := by
      simpa [drawnLabel?, hdrawn.1, hdrawn.2] using h
    rw [hdraw, drawElement_of_drawnLabel?_eq_none h, hbox]
    simp [hshow, hdrawn.1, hdrawn.2]
  · have hskip : (decide (e.visibility ≠ .visible) || e.frame.isEmpty) = true := by
      simpa [imp_iff_not_or] using hdrawn
    rw [drawElement?, drawElement, if_pos hskip, if_pos hskip]

/-- With a label, its outline is drawn first. -/
theorem drawElement?_of_drawnLabel? (g : Grid) {box : Frame Int} {label : String}
    (h : drawnLabel? settings e id = some (box, label)) :
    ∃ box' : Frame Coord, box'.map (·.val) = box ∧ box'.left.val ≤ box'.right.val ∧
      drawElement? settings g e id = writeLabel? (drawBox g box) box' label := by
  obtain ⟨⟨hvisible, harea, hshow⟩, rfl, rfl⟩ := drawnLabel?_eq_some_iff.1 h
  obtain ⟨box, hbox, horder, hdraw⟩ := drawElement?_eq settings g id hvisible harea
  exact ⟨box, hbox, horder, by rw [hdraw, if_pos hshow, hbox]⟩

/-- An element is drawn if its label fits. -/
theorem drawElement?_eq_some (g : Grid)
    (h : ∀ box label, drawnLabel? settings e id = some (box, label) → Fits box label) :
    drawElement? settings g e id = some (drawElement settings g e id) := by
  cases hlabel : drawnLabel? settings e id with
  | none => exact drawElement?_of_drawnLabel?_eq_none g hlabel
  | some label =>
    obtain ⟨_, label⟩ := label
    obtain ⟨box, rfl, horder, hdraw⟩ := drawElement?_of_drawnLabel? g hlabel
    rw [hdraw, writeLabel?_eq_some _ horder (h _ _ hlabel), drawElement_of_drawnLabel? hlabel]

end

/-! ## Previews -/

section
variable {α β : Type} {f? : β → α → Option β}

theorem foldlM_eq_some_foldl {f : β → α → β} {xs : List α}
    (h : ∀ b, ∀ a ∈ xs, f? b a = some (f b a)) (b : β) :
    xs.foldlM f? b = some (xs.foldl f b) := by
  induction xs generalizing b with
  | nil => rfl
  | cons x xs ih =>
    rw [List.foldlM_cons, h b x List.mem_cons_self]
    exact ih (fun b a ha => h b a (List.mem_cons_of_mem x ha)) (f b x)

end

/-- Labels fit whose characters all take a column. -/
theorem fits_of_columns {settings : Settings} {r : Resolved Coord} {box : Frame Int} {label : String}
    (hdrawn : (box, label) ∈ drawnLabels settings r)
    (h : ∀ c ∈ Escapes.strip label.toList, 1 ≤ Columns.ofChar c) : Fits box label := by
  obtain ⟨id, e, -, hlabel⟩ := mem_drawnLabels.1 hdrawn
  obtain ⟨-, rfl, rfl⟩ := drawnLabel?_eq_some_iff.1 hlabel
  obtain ⟨box, -, hbox⟩ := exists_cells? e.frame (max settings.scale 1) (Int.le_max_right ..)
  rw [← hbox]
  by_cases hroom : labelRoom (box.map (·.val)) = 0
  · exact .inl (labelText_of_labelRoom_eq_zero hroom)
  · have hright : (box.map (·.val)).right ≤ 2147483647 := box.right.upper
    have hwidth := labelRoom_le hroom
    have hadvance : advance (labelText (box.map (·.val)) (e.name.getD (Layout.indexLabel id))) ≤
        labelRoom (box.map (·.val)) := advance_labelText_le h
    exact .inr (by omega)

section
variable (settings : Settings) (r : Resolved Coord) (container : Size Coord)

theorem lines?_eq_some
    (h : ∀ box label, (box, label) ∈ drawnLabels settings r → Fits box label) :
    lines? settings r container = some (lines settings r container) := by
  have hgrid : grid? settings r container = some (grid settings r container) := by
    refine foldlM_eq_some_foldl (fun g (e, id) hmem => ?_) _
    refine drawElement?_eq_some g fun box label hlabel => h box label ?_
    exact mem_drawnLabels.2 ⟨id, e, List.mk_mem_zipIdx_iff_getElem?.1 hmem, hlabel⟩
  rw [lines?, hgrid]
  rfl

/-- The lines are computed if all characters of labels take a column. -/
theorem lines?_eq_some_of_columns
    (h : ∀ label ∈ r.labels, ∀ c ∈ Escapes.strip label.toList, 1 ≤ Columns.ofChar c) :
    lines? settings r container = some (lines settings r container) :=
  lines?_eq_some settings r container fun _ label hdrawn =>
    fits_of_columns hdrawn (h label (label_mem_labels hdrawn))

/-- With the lines, the text is computed. -/
theorem text?_eq_some
    (h : ∀ box label, (box, label) ∈ drawnLabels settings r → Fits box label) :
    text? settings r container = some (text settings r container) := by
  rw [text?, lines?_eq_some settings r container h]
  rfl

end

end Preview
end AnchorLayout
