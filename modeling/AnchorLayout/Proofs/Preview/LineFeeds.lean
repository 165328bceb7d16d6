import AnchorLayout.Proofs.Preview.Alignment
import Mathlib.Data.List.DropRight

/-!
# One line for each row

The text of a preview ends each row with a line feed. Line feeds within a row come from labels only,
since removing the control sequences of a name keeps its line feeds, and they are trimmed with the other
white space at the end of the row. The text has as many line feeds as the preview has rows, unless one is
seen before a character that is not trimmed.
-/

namespace AnchorLayout

open Text

/-- White space is trimmed if only white space follows. -/
theorem notMem_trimEnd_iff {c : Char} (hc : whiteSpace.contains c = true) (cs : List Char) :
    c ∉ trimEnd cs ↔ cs.Pairwise fun a b => a = c → whiteSpace.contains b = true := by
  change c ∉ cs.rdropWhile whiteSpace.contains ↔ _
  induction cs using List.reverseRecOn with
  | nil => simp
  | append_singleton cs last ih =>
    have hpairwise : (cs ++ [last]).Pairwise (fun a b => a = c → whiteSpace.contains b = true) ↔
        cs.Pairwise (fun a b => a = c → whiteSpace.contains b = true) ∧
          (c ∈ cs → whiteSpace.contains last = true) := by
      rw [List.pairwise_append]
      refine and_congr_right fun _ => ⟨fun h hmem => ?_, ?_⟩
      · exact h.2 c hmem last List.mem_cons_self rfl
      · intro h
        refine ⟨List.pairwise_singleton _ _, ?_⟩
        rintro a ha b hb rfl
        exact List.mem_singleton.1 hb ▸ h ha
    rw [hpairwise]
    by_cases hlast : whiteSpace.contains last = true
    · rw [List.rdropWhile_concat_pos _ _ _ hlast, ih]
      exact (and_iff_left fun _ => hlast).symm
    · have hne : c ≠ last := fun heq => hlast (heq ▸ hc)
      have hpast : c ∉ cs → cs.Pairwise fun a b => a = c → whiteSpace.contains b = true :=
        fun hnot => List.pairwise_of_forall_mem_list fun a ha b _ hac => absurd (hac ▸ ha) hnot
      rw [List.rdropWhile_concat_neg _ _ _ hlast]
      simp only [List.mem_append, List.mem_singleton, hne, or_false, hlast, Bool.false_eq_true, imp_false]
      exact ⟨fun hnot => ⟨hpast hnot, hnot⟩, And.right⟩

namespace Preview

/-- A line feed is seen at the end of a row only, before white space. -/
def KeepsLines (settings : Settings) (r : Resolved Coord) (container : Size Coord) : Prop :=
  ∀ id id' x x' y d, Shows settings r container id x y (some '\n') →
    Shows settings r container id' x' y (some d) → x < x' → whiteSpace.contains d = true

/-- The line feeds of a text of lines: those behind the lines and those within. -/
theorem count_lineFeed_join (ls : List String) :
    (String.join (ls.map (· ++ "\n"))).toList.count '\n' =
      ls.length + (ls.map fun line => line.toList.count '\n').sum := by
  rw [String.toList_join, List.flatMap_map]
  induction ls with
  | nil => rfl
  | cons line ls ih =>
    have hend : (line ++ "\n").toList.count '\n' = line.toList.count '\n' + 1 := by
      simp
    rw [List.flatMap_cons, List.count_append, ih, hend, List.map_cons, List.sum_cons, List.length_cons]
    omega

theorem count_lineFeed_join_eq_length_iff (ls : List String) :
    (String.join (ls.map (· ++ "\n"))).toList.count '\n' = ls.length ↔
      ∀ line ∈ ls, '\n' ∉ line.toList := by
  rw [count_lineFeed_join, Nat.add_eq_left, List.sum_eq_zero_iff_forall_eq_nat, List.forall_mem_map]
  simp only [List.count_eq_zero]

section
variable {settings : Settings} {r : Resolved Coord} {container : Size Coord}

theorem length_lines : (lines settings r container).length = rows settings container := by
  have hshape := congrArg List.length (map_length_grid settings r container)
  simpa [lines] using hshape

/-- The characters of a row stand in the order of its cells. -/
theorem pairwise_rowChars_iff {R : Char → Char → Prop} {row : List (Option Char)} :
    (rowChars row).Pairwise R ↔
      ∀ (i k : Nat) c d, row[i]? = some (some c) → row[k]? = some (some d) → i < k → R c d := by
  rw [rowChars, List.pairwise_filterMap, List.pairwise_iff_getElem]
  constructor
  · intro h i k c d hc hd hik
    obtain ⟨hi, hc⟩ := List.getElem?_eq_some_iff.1 hc
    obtain ⟨hk, hd⟩ := List.getElem?_eq_some_iff.1 hd
    exact h i k hi hk hik c hc d hd
  · intro h i k hi hk hik c hc d hd
    exact h i k c d (List.getElem?_eq_some_iff.2 ⟨hi, hc⟩) (List.getElem?_eq_some_iff.2 ⟨hk, hd⟩) hik

/-- No line feed is left in a row exactly if those that are seen are at its end. -/
theorem notMem_trimEnd_rows_iff :
    (∀ row ∈ grid settings r container, '\n' ∉ trimEnd (rowChars row)) ↔
      KeepsLines settings r container := by
  simp only [notMem_trimEnd_iff (show whiteSpace.contains '\n' = true by decide),
    pairwise_rowChars_iff]
  constructor
  · intro h id id' x x' y d hfeed hafter hlt
    obtain ⟨i, j, rfl, rfl, row, hrow, hcell, hcells⟩ := hfeed.exists_row
    obtain ⟨k, rfl⟩ := Int.eq_ofNat_of_zero_le hafter.column.1
    have hcell' : row[k]? = some (some d) := (hcells k).trans hafter.cell?_grid
    exact h row hrow i k '\n' d hcell hcell' (by omega) rfl
  · rintro h row hrow i k _ d hfeed hafter hlt rfl
    obtain ⟨j, hcells⟩ := cells_of_mem hrow
    by_cases hblank : d = ' '
    · rw [hblank]
      decide
    obtain ⟨id, hid⟩ := shows_of_cell?_grid ((hcells i).symm.trans hfeed) (by decide)
    obtain ⟨id', hid'⟩ := shows_of_cell?_grid ((hcells k).symm.trans hafter) (by simpa using hblank)
    exact h id id' i k j d hid hid' (by omega)

/-- Lines are kept if no label holds a line feed outside of its control sequences. -/
theorem keepsLines_of_labels
    (h : settings.showLabels = true → ∀ label ∈ r.labels, '\n' ∉ Escapes.strip label.toList) :
    KeepsLines settings r container := by
  intro id id' x x' y d hfeed
  rcases char_of_inkOf? hfeed.drawn with ⟨box, houtline⟩ | ⟨hshow, label, hlabel, hmem⟩
  · grind [outlineChar?]
  · exact absurd hmem (h hshow label hlabel)

end

/-- **When a text has one line for each row.** A preview has as many lines as whole cells fit into the
height of the container, and its text as many line feeds, exactly if no line feed is seen before a
character that is not trimmed. -/
theorem count_lineFeed_text_iff (settings : Settings) (r : Resolved Coord) (container : Size Coord) :
    ((lines settings r container).length : Int) =
        max container.height.val 0 / max settings.scale 1 ∧
      (((text settings r container).toList.count '\n' : Int) =
          max container.height.val 0 / max settings.scale 1 ↔
        KeepsLines settings r container) := by
  have hlength : ((lines settings r container).length : Int) =
      max container.height.val 0 / max settings.scale 1 := by
    rw [length_lines]
    exact Int.toNat_of_nonneg (Int.ediv_nonneg (by omega) (by omega))
  refine ⟨hlength, ?_⟩
  rw [← hlength, Int.natCast_inj, text, count_lineFeed_join_eq_length_iff, ← notMem_trimEnd_rows_iff,
    lines, List.forall_mem_map]
  simp only [String.toList_ofList]

/-- A box whose label has a line feed. -/
def broken : Layout Coord :=
  { Layout.ofSize ⟨.clamp 6, .clamp 3⟩ with
    elements :=
      [⟨"a\nb", { width := .exact (.clamp 6), height := .exact (.clamp 3), margin := .none }⟩] }

/-- The element as it is placed. -/
def placedBroken : Resolved Coord where
  elements := [⟨⟨.clamp 0, .clamp 0, .clamp 6, .clamp 3⟩, "a\nb", .visible⟩]
  order := [0]

/-- The line feed of the label takes a cell of the upper edge, and breaks the first of three rows. -/
theorem text_broken :
    broken.resolve = .ok placedBroken ∧
      text {} placedBroken broken.size = "+a\nb-+\n|    |\n+----+\n" ∧
      (text {} placedBroken broken.size).toList.count '\n' = 4 ∧
      max broken.size.height.val 0 / max ({} : Settings).scale 1 = 3 :=
  ⟨by decide +kernel, by decide +kernel, by decide +kernel, by decide +kernel⟩

end Preview
end AnchorLayout
