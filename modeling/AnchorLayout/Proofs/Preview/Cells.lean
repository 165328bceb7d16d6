import AnchorLayout.Preview
import Mathlib.Data.List.Induction

/-!
# Cell by cell

Drawing is described by what it puts into a cell. An element shows its label and, where the label
does not reach, its outline; a cell of the grid shows what the last element draws there, and is blank
where none draws. No drawing changes the number of rows or their length.
-/

namespace AnchorLayout.Preview

/-- What a cell of the grid holds. -/
def cell? (g : Grid) (x y : Nat) : Option (Option Char) := g[y]?.bind (·[x]?)

/-- The columns that a character takes when it is written alone. -/
def charColumns (c : Char) : Nat := Text.columnCount c.toString

/-- What a text that is written from column `start` on puts into column `x`. -/
def textInk? (start x : Int) : List Char → Option (Option Char)
  | [] => none
  | c :: rest =>
    if x = start then some (some c)
    else if charColumns c = 2 ∧ x = start + 1 then some none
    else textInk? (start + max (charColumns c) 1) x rest

/-- What the label of a box puts into a cell. -/
def labelInk? (box : Frame Int) (label : String) (x y : Int) : Option (Option Char) :=
  if y = box.top ∧ labelRoom box ≠ 0 then
    textInk? (box.left + 1) x (Text.cutToColumns label (labelRoom box)).toList
  else none

/-- What an element puts into a cell. -/
def ink? (settings : Settings) (e : Placed Coord) (id : ElementId) (x y : Int) :
    Option (Option Char) :=
  if e.visibility ≠ .visible || e.frame.isEmpty then none
  else
    let box := cells e.frame (max settings.scale 1)
    let label := e.name.getD (Layout.indexLabel id)
    (if settings.showLabels then labelInk? box label x y else none).or
      ((outlineChar? box x y).map some)

/-- What the element with a number puts into a cell. -/
def inkOf? (settings : Settings) (r : Resolved Coord) (id : ElementId) (x y : Int) :
    Option (Option Char) :=
  r.elements[id]?.bind fun e => ink? settings e id x y

/-- What the last of the elements that draw in a cell puts there. -/
def topInk? (settings : Settings) (r : Resolved Coord) (x y : Int) : Option (Option Char) :=
  r.elements.zipIdx.reverse.findSome? fun (e, id) => ink? settings e id x y

/-- The last entry of a list for which a function of entries and their places has a value. -/
theorem findSome?_reverse_zipIdx_eq_some_iff {α β : Type} {f : α → Nat → Option β} {xs : List α}
    {b : β} :
    (xs.zipIdx.reverse.findSome? fun (x, n) => f x n) = some b ↔
      ∃ n, xs[n]?.bind (f · n) = some b ∧
        ∀ later, n < later → xs[later]?.bind (f · later) = none := by
  induction xs using List.reverseRecOn with
  | nil => simp
  | append_singleton xs last ih =>
    have hend : (xs ++ [last])[xs.length]?.bind (f · xs.length) = f last xs.length := by simp
    have hbeyond {n : Nat} (h : xs.length < n) :
        (xs ++ [last])[n]?.bind (f · n) = none := by
      rw [List.getElem?_eq_none (by simp; omega), Option.bind_none]
    have hsplit : ((xs ++ [last]).zipIdx.reverse.findSome? fun (x, n) => f x n) =
        (f last xs.length).or (xs.zipIdx.reverse.findSome? fun (x, n) => f x n) := by
      rw [List.zipIdx_append, List.reverse_append, List.findSome?_append]
      simp
    rw [hsplit]
    cases hlast : f last xs.length with
    | some c =>
      rw [hlast] at hend
      rw [Option.some_or]
      refine ⟨fun hc => ⟨xs.length, hend.trans hc, fun later => hbeyond⟩, ?_⟩
      rintro ⟨n, hn, htop⟩
      rcases Nat.lt_trichotomy n xs.length with hlt | rfl | hgt
      · exact absurd (hend.symm.trans (htop _ hlt)) (by simp)
      · exact hend.symm.trans hn
      · exact absurd (hn.symm.trans (hbeyond hgt)) (by simp)
    | none =>
      have hsame (n : Nat) : (xs ++ [last])[n]?.bind (f · n) = xs[n]?.bind (f · n) := by
        rcases Nat.lt_trichotomy n xs.length with hlt | rfl | hgt
        · rw [List.getElem?_append_left hlt]
        · rw [hend, hlast, List.getElem?_eq_none (Nat.le_refl _), Option.bind_none]
        · rw [hbeyond hgt, List.getElem?_eq_none (Nat.le_of_lt hgt), Option.bind_none]
      simp only [Option.none_or, ih, hsame]

/-- A function of entries and their places has no value in a list. -/
theorem findSome?_reverse_zipIdx_eq_none_iff {α β : Type} {f : α → Nat → Option β} {xs : List α} :
    (xs.zipIdx.reverse.findSome? fun (x, n) => f x n) = none ↔ ∀ n, xs[n]?.bind (f · n) = none := by
  rw [List.findSome?_eq_none_iff]
  constructor
  · intro h n
    cases hx : xs[n]? with
    | none => rfl
    | some x => exact h (x, n) (List.mem_reverse.2 (List.mk_mem_zipIdx_iff_getElem?.2 hx))
  · rintro h ⟨x, n⟩ hmem
    have hx := List.mk_mem_zipIdx_iff_getElem?.1 (List.mem_reverse.1 hmem)
    simpa [hx] using h n

/-! ## One drawing step -/

section
variable (g : Grid) (i j : Nat)

theorem cell?_setCell (x y : Int) (cell : Option Char) :
    cell? (setCell g x y cell) i j =
      (cell? g i j).map fun old => if (i : Int) = x ∧ (j : Int) = y then cell else old := by
  unfold cell? setCell
  simp only [Bool.and_eq_true, decide_eq_true_eq]
  split
  case isTrue h =>
    have hx : x.toNat = i ↔ (i : Int) = x := by omega
    have hy : y.toNat = j ↔ (j : Int) = y := by omega
    rw [List.getElem?_modify]
    cases g[j]? with
    | none => rfl
    | some row =>
      by_cases hj : (j : Int) = y
      · simp only [Option.bind_some, if_pos (hy.2 hj), hj, and_true]
        change (row.set x.toNat cell)[i]? = _
        rw [List.getElem?_set]
        grind
      · simp [mt hy.1 hj, hj]
  case isFalse h =>
    have hout : ¬ ((i : Int) = x ∧ (j : Int) = y) := by omega
    simp [hout]

theorem cell?_drawBox (box : Frame Int) :
    cell? (drawBox g box) i j =
      (cell? g i j).map fun old => ((outlineChar? box i j).map some).getD old := by
  unfold cell? drawBox
  rw [List.getElem?_mapIdx]
  cases g[j]? with
  | none => rfl
  | some row =>
    rw [Option.map_some, Option.bind_some, List.getElem?_mapIdx, Option.bind_some]
    cases outlineChar? box i j <;> rfl

end

/-- A text puts nothing before the column in which it starts. -/
theorem textInk?_of_lt {start x : Int} (cs : List Char) (h : x < start) :
    textInk? start x cs = none := by
  induction cs generalizing start with
  | nil => rfl
  | cons c cs ih =>
    rw [textInk?, if_neg (by omega), if_neg (by omega), ih (by omega)]

theorem textInk?_cons_eq_char {start x : Int} {c d : Char} {cs : List Char} :
    textInk? start x (c :: cs) = some (some d) ↔
      x = start ∧ c = d ∨ textInk? (start + max (charColumns c) 1) x cs = some (some d) := by
  have hrest : x < start + max (charColumns c) 1 →
      textInk? (start + max (charColumns c) 1) x cs = none := textInk?_of_lt cs
  rw [textInk?]
  grind

theorem textInk?_cons_eq_covered {start x : Int} {c : Char} {cs : List Char} :
    textInk? start x (c :: cs) = some none ↔
      charColumns c = 2 ∧ x = start + 1 ∨
        textInk? (start + max (charColumns c) 1) x cs = some none := by
  have hrest : x < start + max (charColumns c) 1 →
      textInk? (start + max (charColumns c) 1) x cs = none := textInk?_of_lt cs
  rw [textInk?]
  grind

/-- The first character of a text, and the second cell that it covers if it takes two columns. -/
def writeChar (g : Grid) (x y : Int) (c : Char) : Grid :=
  if charColumns c = 2 then setCell (setCell g x y (some c)) (x + 1) y none
  else setCell g x y (some c)

theorem cell?_writeChar (g : Grid) (i j : Nat) (x y : Int) (c : Char) :
    cell? (writeChar g x y c) i j =
      (cell? g i j).map fun old =>
        if (j : Int) = y ∧ (i : Int) = x then some c
        else if (j : Int) = y ∧ charColumns c = 2 ∧ (i : Int) = x + 1 then none
        else old := by
  unfold writeChar
  split
  case isTrue hwide =>
    rw [cell?_setCell, cell?_setCell, Option.map_map]
    congr 1
    funext old
    simp only [Function.comp_apply, hwide]
    grind
  case isFalse hwide =>
    rw [cell?_setCell]
    congr 1
    funext old
    grind

theorem writeChars_cons (g : Grid) (x y : Int) (c : Char) (cs : List Char) :
    writeChars g x y (c :: cs) =
      writeChars (writeChar g x y c) (x + max (charColumns c) 1) y cs := rfl

theorem cell?_writeChars (g : Grid) (i j : Nat) (x y : Int) (cs : List Char) :
    cell? (writeChars g x y cs) i j =
      (cell? g i j).map fun old => (if (j : Int) = y then textInk? x i cs else none).getD old := by
  induction cs generalizing g x with
  | nil => simp [writeChars, textInk?]
  | cons c cs ih =>
    rw [writeChars_cons, ih, cell?_writeChar, Option.map_map]
    congr 1
    funext old
    by_cases hrow : (j : Int) = y
    case neg => simp [hrow]
    -- The rest of the text starts to the right of what the first character covers.
    have hrest : (i : Int) < x + max (charColumns c) 1 →
        textInk? (x + max (charColumns c) 1) i cs = none := textInk?_of_lt cs
    simp only [Function.comp_apply, hrow, if_true, true_and, textInk?]
    by_cases hfirst : (i : Int) = x
    · rw [hrest (by omega), if_pos hfirst, if_pos hfirst, Option.getD_none, Option.getD_some]
    · by_cases hsecond : charColumns c = 2 ∧ (i : Int) = x + 1
      · rw [hrest (by omega), if_neg hfirst, if_neg hfirst, if_pos hsecond, if_pos hsecond,
          Option.getD_none, Option.getD_some]
      · rw [if_neg hfirst, if_neg hfirst, if_neg hsecond, if_neg hsecond]

theorem cell?_writeLabel (g : Grid) (i j : Nat) (box : Frame Int) (label : String) :
    cell? (writeLabel g box label) i j =
      (cell? g i j).map fun old => (labelInk? box label i j).getD old := by
  unfold writeLabel labelInk?
  by_cases hroom : labelRoom box = 0
  · simp [hroom]
  · simp [hroom, cell?_writeChars]

/-! ## Where characters come from -/

theorem mem_of_mem_cutToColumns {s : String} {room : Nat} {c : Char}
    (h : c ∈ (Text.cutToColumns s room).toList) : c ∈ Text.Escapes.strip s.toList := by
  rw [Text.toList_cutToColumns] at h
  exact (Text.isPrefix_takeColumns room _).subset h

theorem mem_of_textInk? {start x : Int} {c : Char} {cs : List Char}
    (h : textInk? start x cs = some (some c)) : c ∈ cs := by
  induction cs generalizing start with
  | nil => cases h
  | cons first cs ih =>
    rcases textInk?_cons_eq_char.1 h with ⟨-, rfl⟩ | h
    · exact List.mem_cons_self
    · exact List.mem_cons_of_mem _ (ih h)

/-- A character that an element draws belongs to its outline or to its label. -/
theorem char_of_ink? {settings : Settings} {e : Placed Coord} {id : ElementId} {x y : Int} {c : Char}
    (h : ink? settings e id x y = some (some c)) :
    outlineChar? (cells e.frame (max settings.scale 1)) x y = some c ∨
      settings.showLabels = true ∧
        c ∈ Text.Escapes.strip (e.name.getD (Layout.indexLabel id)).toList := by
  unfold ink? at h
  split at h
  case isTrue => cases h
  case isFalse =>
    rcases Option.or_eq_some_iff.1 h with hlabel | ⟨-, houtline⟩
    · obtain ⟨hshow, hlabel⟩ := Option.ite_none_right_eq_some.1 hlabel
      obtain ⟨-, htext⟩ := Option.ite_none_right_eq_some.1 hlabel
      exact .inr ⟨hshow, mem_of_mem_cutToColumns (mem_of_textInk? htext)⟩
    · obtain ⟨d, hd, hdc⟩ := Option.map_eq_some_iff.1 houtline
      exact .inl (hdc ▸ hd)

/-- So does a character of a layout, and the label is one of the labels of the layout. -/
theorem char_of_inkOf? {settings : Settings} {r : Resolved Coord} {id : ElementId} {x y : Int}
    {c : Char} (h : inkOf? settings r id x y = some (some c)) :
    (∃ box, outlineChar? box x y = some c) ∨
      settings.showLabels = true ∧ ∃ label ∈ r.labels, c ∈ Text.Escapes.strip label.toList := by
  obtain ⟨e, he, hink⟩ := Option.bind_eq_some_iff.1 h
  rcases char_of_ink? hink with houtline | ⟨hshow, hlabel⟩
  · exact .inl ⟨_, houtline⟩
  · refine .inr ⟨hshow, _, List.mem_map.2 ⟨(e, id), ?_, rfl⟩, hlabel⟩
    exact List.mk_mem_zipIdx_iff_getElem?.2 he

/-! ## A whole drawing -/

/-- What one element changes. -/
theorem cell?_drawElement (settings : Settings) (g : Grid) (e : Placed Coord) (id : ElementId)
    (i j : Nat) :
    cell? (drawElement settings g e id) i j =
      (cell? g i j).map fun old => (ink? settings e id i j).getD old := by
  unfold drawElement ink?
  by_cases hskip : (decide (e.visibility ≠ .visible) || e.frame.isEmpty) = true
  · rw [if_pos hskip, if_pos hskip]
    simp
  · rw [if_neg hskip, if_neg hskip]
    cases settings.showLabels with
    | false => simp [cell?_drawBox]
    | true =>
      simp only [if_true, cell?_writeLabel, cell?_drawBox, Option.map_map]
      congr 1
      funext old
      rw [Function.comp_apply, Option.getD_or]

/-- What elements drawn one after the other change: each cell belongs to the last that draws in it. -/
theorem cell?_foldl_drawElement (settings : Settings) (drawn : List (Placed Coord × ElementId))
    (g : Grid) (i j : Nat) :
    cell? (drawn.foldl (fun g (e, id) => drawElement settings g e id) g) i j =
      (cell? g i j).map fun old =>
        (drawn.reverse.findSome? fun (e, id) => ink? settings e id i j).getD old := by
  induction drawn generalizing g with
  | nil => simp
  | cons first drawn ih =>
    rw [List.foldl_cons, ih, cell?_drawElement, Option.map_map, List.reverse_cons,
      List.findSome?_append]
    congr 1
    funext old
    rw [Function.comp_apply, Option.getD_or, List.findSome?_singleton]

theorem cell?_blank (columns rows i j : Nat) :
    cell? (blank columns rows) i j = if i < columns ∧ j < rows then some (some ' ') else none := by
  unfold cell? blank
  grind

/-- The number of columns of a preview. -/
def columns (settings : Settings) (container : Size Coord) : Nat :=
  cellsIn container.width (max settings.scale 1)

/-- The number of rows of a preview. -/
def rows (settings : Settings) (container : Size Coord) : Nat :=
  cellsIn container.height (max settings.scale 1)

section
variable (settings : Settings) (r : Resolved Coord) (container : Size Coord)

theorem natCast_columns :
    (columns settings container : Int) = max container.width.val 0 / max settings.scale 1 :=
  Int.toNat_of_nonneg (Int.ediv_nonneg (by omega) (by omega))

theorem natCast_rows :
    (rows settings container : Int) = max container.height.val 0 / max settings.scale 1 :=
  Int.toNat_of_nonneg (Int.ediv_nonneg (by omega) (by omega))

/-- A cell shows what the last element that draws in it puts there, and is blank if none does. -/
theorem cell?_grid (i j : Nat) :
    cell? (grid settings r container) i j =
      if i < columns settings container ∧ j < rows settings container then
        some ((topInk? settings r i j).getD (some ' '))
      else none := by
  rw [grid, cell?_foldl_drawElement, cell?_blank, topInk?]
  unfold columns rows
  split <;> rfl

/-- The last element that draws in a cell: what it puts there, and that no later one does. -/
theorem topInk?_eq_some_iff {x y : Int} {cell : Option Char} :
    topInk? settings r x y = some cell ↔
      ∃ id, inkOf? settings r id x y = some cell ∧
        ∀ later, id < later → inkOf? settings r later x y = none := by
  unfold topInk? inkOf?
  exact findSome?_reverse_zipIdx_eq_some_iff (f := fun e id => ink? settings e id x y)

theorem topInk?_eq_none_iff {x y : Int} :
    topInk? settings r x y = none ↔ ∀ id, inkOf? settings r id x y = none := by
  unfold topInk? inkOf?
  exact findSome?_reverse_zipIdx_eq_none_iff (f := fun e id => ink? settings e id x y)

/-! ## The shape of a grid -/

theorem map_length_setCell (g : Grid) (x y : Int) (cell : Option Char) :
    (setCell g x y cell).map List.length = g.map List.length := by
  unfold setCell
  split
  · refine List.ext_getElem? fun n => ?_
    rw [List.getElem?_map, List.getElem?_map, List.getElem?_modify]
    cases g[n]? with
    | none => rfl
    | some row => by_cases hn : y.toNat = n <;> simp [hn]
  · rfl

theorem map_length_writeChars (g : Grid) (x y : Int) (cs : List Char) :
    (writeChars g x y cs).map List.length = g.map List.length := by
  induction cs generalizing g x with
  | nil => rfl
  | cons c cs ih =>
    rw [writeChars_cons, ih, writeChar]
    split <;> simp only [map_length_setCell]

theorem map_length_drawElement (g : Grid) (e : Placed Coord) (id : ElementId) :
    (drawElement settings g e id).map List.length = g.map List.length := by
  have hbox (box : Frame Int) : (drawBox g box).map List.length = g.map List.length := by
    refine List.ext_getElem? fun n => ?_
    simp only [drawBox, List.getElem?_map, List.getElem?_mapIdx, Option.map_map]
    congr 1
    funext row
    simp
  have hlabel (g : Grid) (box : Frame Int) (label : String) :
      (writeLabel g box label).map List.length = g.map List.length := by
    unfold writeLabel
    split
    · rfl
    · exact map_length_writeChars ..
  unfold drawElement
  split
  · rfl
  · cases settings.showLabels with
    | false => exact hbox _
    | true => exact (hlabel _ _ _).trans (hbox _)

/-- Every row has as many cells as the grid has columns. -/
theorem map_length_grid :
    (grid settings r container).map List.length =
      List.replicate (rows settings container) (columns settings container) := by
  have hdrawn (drawn : List (Placed Coord × ElementId)) (g : Grid) :
      (drawn.foldl (fun g (e, id) => drawElement settings g e id) g).map List.length =
        g.map List.length := by
    induction drawn generalizing g with
    | nil => rfl
    | cons first drawn ih => rw [List.foldl_cons, ih, map_length_drawElement]
  rw [grid, hdrawn, blank, List.map_replicate, List.length_replicate]
  rfl

theorem length_of_mem_grid {row : List (Option Char)} (h : row ∈ grid settings r container) :
    row.length = columns settings container :=
  List.eq_of_mem_replicate (map_length_grid settings r container ▸ List.mem_map_of_mem h)

end

end AnchorLayout.Preview
