import AnchorLayout.Text.Columns
import Mathlib.Algebra.BigOperators.Group.List.Basic
import Mathlib.Algebra.Order.Group.Nat
import Mathlib.Algebra.Ring.Nat
import Mathlib.Data.List.Infix
import Mathlib.Tactic.SplitIfs

/-!
# Texts that are wider than their characters

A text is cut by the widths of its characters, but its own width is not their sum: characters join to
narrower shapes, and two kinds of character are wider in a text than alone. The delete character is
counted for no column and takes one, and a character of one column takes two if the selector for emoji
stands behind it. Of all others a text is no wider than its characters together. So a text that was cut to
a width exceeds it by no more than such characters add, and the texts that fit whenever they are cut,
along with all their parts, are those without them.
-/

namespace AnchorLayout.Text

/-! ## Sets of characters -/

/-- Every range of a set lies within one of another set. -/
def Ranges.isWithin (a b : Ranges) : Bool :=
  a.all fun p => b.any fun q => q.1 ≤ p.1 && p.2 ≤ q.2

theorem Ranges.contains_of_isWithin {a b : Ranges} {c : Char} (h : a.isWithin b = true)
    (hc : a.contains c = true) : b.contains c = true := by
  obtain ⟨p, hp, hpc⟩ := List.any_eq_true.1 hc
  obtain ⟨q, hq, hpq⟩ := List.any_eq_true.1 (List.all_eq_true.1 h p hp)
  refine List.any_eq_true.2 ⟨q, hq, ?_⟩
  simp only [Bool.and_eq_true, decide_eq_true_eq] at hpc hpq ⊢
  omega

namespace Columns

/-! ## What characters are counted for -/

theorem ofChar_eq_alone {c : Char} (h : 0xA0 ≤ c.toNat) : ofChar c = (alone c).1 := by
  rw [ofChar, if_neg (by simp; omega), if_neg (by omega)]

/-- Halves of flags and emoji are never of zero width. -/
theorem one_le_alone {c : Char} (h : isFlagHalf c = true ∨ emojiPresentation.contains c = true) :
    1 ≤ (alone c).1 := by
  unfold alone
  rcases h with h | h
  all_goals
    rw [if_pos h]
    repeat
      refine iteInduction (motive := fun w : Nat × Following => 1 ≤ w.1)
        (fun _ => Nat.le_add_left 1 _) fun _ => ?_
    exact Nat.le_add_left 1 _

/-- The selector for text makes emoji narrower, and nothing else. -/
theorem textVariation_isWithin : textVariation.isWithin emojiPresentation = true := by
  decide +kernel

/-- The columns by which a character is wider than it is counted for, given the character behind it. -/
def widening (c : Char) (next : Option Char) : Nat :=
  if c = '\x7F' then 1
  else if next = some '\uFE0F' ∧ emojiVariation.contains c = true then 2 - ofChar c
  else 0

/-- The columns by which the characters of a text are wider than they are counted for. -/
def widened : List Char → Nat
  | [] => 0
  | c :: rest => widening c rest.head? + widened rest

/-- A character that is neither a control character nor wide is counted for a column, or is the delete
character. -/
theorem one_le_ofChar_add_widening {c : Char} (next : Option Char) (hlatin : c.toNat ≤ 0xA0)
    (hshown : Escapes.isShown c = true) : 1 ≤ ofChar c + widening c next := by
  have hprintable : 0x20 ≤ c.toNat ∧ (c.toNat ≤ 0x7F ∨ c.toNat = 0xA0) := by
    simp only [Escapes.isShown, Bool.not_eq_true', Bool.or_eq_false_iff, Bool.and_eq_false_iff,
      decide_eq_false_iff_not] at hshown
    omega
  obtain ⟨hlow, hascii | hspace⟩ := hprintable
  · by_cases hdelete : c.toNat = 0x7F
    · obtain rfl : c = '\x7F' := Char.toNat_inj.1 hdelete
      rw [widening, if_pos rfl]
      omega
    · have hcount : ofChar c = 1 := by
        rw [ofChar, if_neg (by simp; omega), if_pos (by omega)]
      omega
  · obtain rfl : c = '\u00A0' := Char.toNat_inj.1 hspace
    have hcount : ofChar '\u00A0' = 1 := by decide +kernel
    omega

/-! ## What a character adds to the text behind it -/

/-- Columns that the text behind has saved and the next character can take back: of three halves of
flags in front of a joiner the third brings the text back to the width of three characters. -/
def Following.saved : Following → Nat
  | joinerFlagEven => 2
  | _ => 0

theorem saved_alone (c : Char) : (alone c).2.saved = 0 := by
  unfold alone
  repeat
    refine iteInduction (motive := fun w : Nat × Following => w.2.saved = 0)
      (fun _ => rfl) fun _ => ?_
  rfl

theorem saved_withJoiner {f : Following} (h : f.spansMarks = true) : f.withJoiner.saved = 0 := by
  cases f <;> first | rfl | cases h

theorem saved_dropEmojiSelector_le (x : Context) :
    x.dropEmojiSelector.following.saved ≤ x.following.saved := by
  unfold Context.dropEmojiSelector
  split
  · exact Nat.le_refl _
  · exact Nat.zero_le _

theorem saved_selectEmoji_le (x : Context) : x.selectEmoji.following.saved ≤ x.following.saved := by
  unfold Context.selectEmoji
  split
  · exact Nat.le_refl _
  · exact Nat.zero_le _

theorem saved_selectText_le (x : Context) : x.selectText.following.saved ≤ x.following.saved := by
  unfold Context.selectText
  split
  · exact Nat.le_refl _
  · exact Nat.zero_le _

section
variable {f f' : Following} {c : Char} {w : Int}

/-- Letters that join take no column, but for the joiner of two consonants, which is counted for one. -/
theorem joinLetters_cases (h : joinLetters f c = some (w, f')) :
    f'.saved = 0 ∧ (w ≤ 0 ∨ w = 1 ∧ c.toNat = 0x2D7F) := by
  cases f <;> simp only [joinLetters, reduceCtorEq] at h
  all_goals
    split_ifs at h
    all_goals
      cases h
      first | exact ⟨rfl, .inl (by decide)⟩ | exact ⟨rfl, .inr ⟨rfl, ‹_›⟩⟩

theorem joinTags_cases (h : joinTags f c = some (w, f')) : f'.saved = 0 ∧ w = 0 := by
  cases f <;> simp only [joinTags, reduceCtorEq] at h
  all_goals
    split_ifs at h
    all_goals
      cases h
      exact ⟨rfl, rfl⟩

/-- Of the parts of emoji only halves of flags take columns. -/
theorem joinEmoji_cases (h : joinEmoji f c = some (w, f')) :
    w + f'.saved ≤ f.saved ∨ isFlagHalf c = true ∧ w + f'.saved ≤ 1 + f.saved := by
  cases f
  case skinTone | flagHalf | flagHalves | emoji | joinerEmoji | joinerFlagHalf | joinerFlagOdd |
      joinerFlagEven =>
    simp only [joinEmoji] at h
    split_ifs at h
    all_goals
      cases h
      first | exact .inl (by decide) | exact .inr ⟨‹_›, by decide⟩
  all_goals
    simp only [joinEmoji] at h
    obtain ⟨hsaved, rfl⟩ := joinTags_cases h
    rw [hsaved]
    exact .inl (Int.natCast_nonneg _)

theorem join_le (h : (joinLetters f c).or (joinEmoji f c) = some (w, f')) :
    w + f'.saved ≤ ofChar c + f.saved := by
  rcases Option.or_eq_some_iff.1 h with hletters | ⟨-, hemoji⟩
  · obtain ⟨hsaved, hle | ⟨rfl, hjoiner⟩⟩ := joinLetters_cases hletters
    · omega
    · obtain rfl : c = '\u2D7F' := Char.toNat_inj.1 hjoiner
      have hcount : ofChar '\u2D7F' = 1 := by decide +kernel
      omega
  · rcases joinEmoji_cases hemoji with hle | ⟨hflag, hle⟩
    · omega
    · have hhigh : 0x1F1E6 ≤ c.toNat := by
        simp only [isFlagHalf, between, Bool.and_eq_true, decide_eq_true_eq] at hflag
        exact hflag.1
      have hcount : 1 ≤ ofChar c := by
        rw [ofChar_eq_alone (by omega)]
        exact one_le_alone (.inl hflag)
      omega

/-- A character that the selector behind it makes an emoji takes two columns at most. -/
theorem step_selected_le {x : Context} {next : Option Char}
    (hnext : x.emojiSelector = true → next = some '\uFE0F')
    (hselected : (x.emojiSelector && emojiVariation.contains c) = true) :
    (step c x).1 + (step c x).2.following.saved ≤
      ofChar c + x.following.saved + widening c next := by
  rw [step, if_pos hselected]
  rw [Bool.and_eq_true] at hselected
  have hdelete : c ≠ '\x7F' := by
    rintro rfl
    exact absurd hselected.2 (by decide)
  have hwidening : 2 ≤ ofChar c + widening c next := by
    rw [widening, if_neg hdelete, if_pos ⟨hnext hselected.1, hselected.2⟩]
    omega
  have hsaved : Following.emoji.saved = 0 := rfl
  dsimp only
  split <;> omega

/-- Without such a selector, a character adds to a text and to what it has saved no more than it is
counted for, the delete character aside. -/
theorem step_not_selected_le (x : Context) (next : Option Char)
    (hc : Escapes.Stays c)
    (hselected : ¬ (x.emojiSelector && emojiVariation.contains c) = true) :
    (step c x).1 + (step c x).2.following.saved ≤
      ofChar c + x.following.saved + widening c next := by
  rw [step, if_neg hselected]
  have hdropped : (if x.emojiSelector = true then x.dropEmojiSelector else x).following.saved ≤
      x.following.saved := by
    split
    · exact saved_dropEmojiSelector_le x
    · exact Nat.le_refl _
  generalize (if x.emojiSelector = true then x.dropEmojiSelector else x) = y at hdropped
  have hplain : Following.plain.saved = 0 := rfl
  dsimp only
  -- The cases are those of the definition, in its order.
  by_cases hlatin : c.toNat ≤ 0xA0
  · rw [if_pos hlatin]
    dsimp only
    rcases hc with rfl | hshown
    · rw [if_pos rfl]
      omega
    · have hcount := one_le_ofChar_add_widening next hlatin hshown
      split <;> omega
  rw [if_neg hlatin]
  have hcount : ofChar c = (alone c).1 := ofChar_eq_alone (by omega)
  by_cases hemoji : c = '\uFE0F'
  · rw [if_pos hemoji]
    have hsaved := saved_selectEmoji_le y
    dsimp only
    omega
  rw [if_neg hemoji]
  by_cases htext : c = '\uFE0E'
  · rw [if_pos htext]
    have hsaved := saved_selectText_le y
    dsimp only
    omega
  rw [if_neg htext]
  by_cases hnarrow : (y.textSelector && textVariation.contains c) = true
  · rw [if_pos hnarrow]
    have hvariation : textVariation.contains c = true := (Bool.and_eq_true_iff.1 hnarrow).2
    have hwide : 1 ≤ (alone c).1 :=
      one_le_alone (.inr (Ranges.contains_of_isWithin textVariation_isWithin hvariation))
    dsimp only
    omega
  rw [if_neg hnarrow]
  by_cases hjoiner : (y.following.spansMarks && decide (c = '\u200D')) = true
  · rw [if_pos hjoiner]
    have hsaved := saved_withJoiner (Bool.and_eq_true_iff.1 hjoiner).1
    dsimp only
    omega
  rw [if_neg hjoiner]
  by_cases hmark : (y.following.spansMarks && ligatureTransparent.contains c) = true
  · rw [if_pos hmark]
    dsimp only
    omega
  rw [if_neg hmark]
  cases hjoin : (joinLetters y.following c).or (joinEmoji y.following c) with
  | some joined =>
    obtain ⟨width, following⟩ := joined
    have hle := join_le hjoin
    dsimp only
    omega
  | none =>
    have hsaved := saved_alone c
    dsimp only
    omega

theorem emojiSelector_dropEmojiSelector (x : Context) :
    x.dropEmojiSelector.emojiSelector = false := by
  unfold Context.dropEmojiSelector
  split <;> rfl

theorem emojiSelector_selectText {x : Context} (h : x.emojiSelector = false) :
    x.selectText.emojiSelector = false := by
  unfold Context.selectText
  split
  · exact h
  · rfl

/-- After a step a selector for emoji waits only if the step read one. -/
theorem eq_of_emojiSelector_step {x : Context} (h : (step c x).2.emojiSelector = true) :
    c = '\uFE0F' := by
  by_contra hemoji
  refine absurd h (Bool.not_eq_true _ ▸ ?_)
  have hdropped : (if x.emojiSelector = true then x.dropEmojiSelector else x).emojiSelector =
      false := by
    split
    · exact emojiSelector_dropEmojiSelector x
    · exact Bool.not_eq_true _ ▸ ‹_›
  unfold step
  generalize (if x.emojiSelector = true then x.dropEmojiSelector else x) = y at hdropped
  dsimp only
  split
  · rfl
  split
  · rfl
  split
  · exact emojiSelector_selectText hdropped
  split
  · rfl
  split
  · rfl
  split
  · rfl
  split <;> rfl

end

/-! ## The width of a text -/

/-- The columns of a text, not yet cut off at zero, and what it offers to the characters before it. -/
def measure (cs : List Char) : Int × Context :=
  cs.foldr (fun c (total, x) => ((step c x).1 + total, (step c x).2)) ((0 : Int), {})

theorem ofChars_eq (cs : List Char) : ofChars cs = (measure cs).1.toNat := rfl

theorem measure_cons (c : Char) (cs : List Char) :
    measure (c :: cs) = ((step c (measure cs).2).1 + (measure cs).1, (step c (measure cs).2).2) := rfl

theorem head?_eq_of_emojiSelector {cs : List Char} (h : (measure cs).2.emojiSelector = true) :
    cs.head? = some '\uFE0F' := by
  cases cs with
  | nil => cases h
  | cons c cs => rw [List.head?_cons, eq_of_emojiSelector_step h]

/-- A text is no wider than its characters and what they are wider by, less what it has saved. -/
theorem measure_fst_add_saved_le {cs : List Char} (h : ∀ c ∈ cs, Escapes.Stays c) :
    (measure cs).1 + (measure cs).2.following.saved ≤ (cs.map ofChar).sum + widened cs := by
  induction cs with
  | nil => exact Int.le_refl 0
  | cons c cs ih =>
    have hrest := ih fun d hd => h d (List.mem_cons_of_mem c hd)
    have hstep : (step c (measure cs).2).1 + (step c (measure cs).2).2.following.saved ≤
        ofChar c + (measure cs).2.following.saved + widening c cs.head? := by
      by_cases hselected : ((measure cs).2.emojiSelector && emojiVariation.contains c) = true
      · exact step_selected_le head?_eq_of_emojiSelector hselected
      · exact step_not_selected_le _ _ (h c List.mem_cons_self) hselected
    rw [measure_cons, List.map_cons, List.sum_cons, widened]
    dsimp only
    omega

theorem ofChars_le {cs : List Char} (h : ∀ c ∈ cs, Escapes.Stays c) :
    ofChars cs ≤ (cs.map ofChar).sum + widened cs := by
  have hmeasure := measure_fst_add_saved_le h
  rw [ofChars_eq]
  omega

/-- A character of one column with the selector for emoji behind it. -/
theorem ofChars_selected {c : Char} (h : emojiVariation.contains c = true) :
    ofChars [c, '\uFE0F'] = 2 := by
  have hselector : step '\uFE0F' {} = (0, { emojiSelector := true }) := by decide +kernel
  have hstep : step c { emojiSelector := true } = (2, { following := .emoji }) := by
    rw [step, if_pos (by rw [h]; rfl)]
    rfl
  change (((step c (step '\uFE0F' {}).2).1 + ((step '\uFE0F' {}).1 + 0) : Int)).toNat = 2
  rw [hselector, hstep]
  rfl

/-! ## Parts of a text -/

theorem widening_none_le (c : Char) (next : Option Char) : widening c none ≤ widening c next := by
  unfold widening
  split
  · exact Nat.le_refl 1
  · exact Nat.zero_le _

theorem widened_le_append (cs rest : List Char) : widened cs ≤ widened (cs ++ rest) := by
  induction cs with
  | nil => exact Nat.zero_le _
  | cons c cs ih =>
    have hnext : widening c cs.head? ≤ widening c (cs ++ rest).head? := by
      cases cs with
      | nil => exact widening_none_le c _
      | cons d cs => exact Nat.le_refl _
    exact Nat.add_le_add hnext ih

theorem widened_le_append_left (before cs : List Char) : widened cs ≤ widened (before ++ cs) := by
  induction before with
  | nil => exact Nat.le_refl _
  | cons c before ih => exact ih.trans (Nat.le_add_left _ _)

theorem widened_le_of_isInfix {part cs : List Char} (h : part <:+: cs) :
    widened part ≤ widened cs := by
  obtain ⟨before, behind, rfl⟩ := h
  calc widened part
    _ ≤ widened (before ++ part) := widened_le_append_left before part
    _ ≤ widened (before ++ part ++ behind) := widened_le_append _ behind

theorem exists_widening {cs : List Char} (h : widened cs ≠ 0) :
    ∃ c rest, c :: rest <:+ cs ∧ widening c rest.head? ≠ 0 := by
  induction cs with
  | nil => exact absurd rfl h
  | cons c cs ih =>
    by_cases hfirst : widening c cs.head? = 0
    · have hrest : widened cs ≠ 0 := fun hrest => h (by rw [widened, hfirst, hrest])
      obtain ⟨d, rest, hsuffix, hwide⟩ := ih hrest
      exact ⟨d, rest, hsuffix.trans (List.suffix_cons c cs), hwide⟩
    · exact ⟨c, cs, List.suffix_rfl, hfirst⟩

theorem widening_ne_zero {c : Char} {next : Option Char} (h : widening c next ≠ 0) :
    c = '\x7F' ∨
      next = some '\uFE0F' ∧ emojiVariation.contains c = true ∧ ofChar c < 2 := by
  unfold widening at h
  split at h
  case isTrue hdelete => exact .inl hdelete
  case isFalse =>
    split at h
    case isTrue hselected => exact .inr ⟨hselected.1, hselected.2, by omega⟩
    case isFalse => exact absurd rfl h

end Columns

/-! ## Texts that are cut -/

theorem sum_takeColumns_le (room : Nat) (cs : List Char) :
    ((takeColumns room cs).map Columns.ofChar).sum ≤ room := by
  induction cs generalizing room with
  | nil => exact Nat.zero_le room
  | cons c rest ih =>
    rw [takeColumns]
    split
    case isTrue hfits =>
      have hrest := ih (room - Columns.ofChar c)
      rw [List.map_cons, List.sum_cons]
      omega
    case isFalse => exact Nat.zero_le room

theorem columnCount_cutToColumns (s : String) (room : Nat) :
    columnCount (cutToColumns s room) =
      Columns.ofChars (takeColumns room (Escapes.strip s.toList)) := by
  have hstays : ∀ c ∈ takeColumns room (Escapes.strip s.toList), Escapes.Stays c := fun c hc =>
    Escapes.stays_of_mem_strip ((isPrefix_takeColumns room _).subset hc)
  rw [columnCount, toList_cutToColumns, Escapes.strip_eq_self hstays]

/-- A cut text is wider than the room by no more than its characters are wider than they are counted
for. -/
theorem columnCount_cutToColumns_le_add (s : String) (room : Nat) :
    columnCount (cutToColumns s room) ≤
      room + Columns.widened (takeColumns room (Escapes.strip s.toList)) := by
  have hsum := sum_takeColumns_le room (Escapes.strip s.toList)
  have hwidth := Columns.ofChars_le fun c hc =>
    Escapes.stays_of_mem_strip ((isPrefix_takeColumns room (Escapes.strip s.toList)).subset hc)
  rw [columnCount_cutToColumns]
  omega

/-- A character that is wider than it is counted for does not fit where there is room for what it is
counted for. -/
theorem exists_lt_columnCount {cs : List Char} (hstays : ∀ c ∈ cs, Escapes.Stays c)
    (h : Columns.widened cs ≠ 0) :
    ∃ t : String, Escapes.strip t.toList <:+: cs ∧
      ∃ room, room < columnCount (cutToColumns t room) := by
  obtain ⟨c, rest, hsuffix, hwide⟩ := Columns.exists_widening h
  have hstrip (part : List Char) (hfront : part <+: c :: rest) :
      part <:+: cs ∧ Escapes.strip (String.ofList part).toList = part := by
    have hpart := hfront.isInfix.trans hsuffix.isInfix
    rw [String.toList_ofList]
    exact ⟨hpart, Escapes.strip_eq_self fun d hd => hstays d (hpart.subset hd)⟩
  rcases Columns.widening_ne_zero hwide with rfl | ⟨hnext, hvariation, hnarrow⟩
  · obtain ⟨hpart, hself⟩ := hstrip ['\x7F'] ⟨rest, rfl⟩
    refine ⟨String.ofList ['\x7F'], hself.symm ▸ hpart, 0, ?_⟩
    rw [columnCount_cutToColumns, hself]
    decide
  · obtain ⟨behind, rfl⟩ := List.head?_eq_some_iff.1 hnext
    obtain ⟨hpart, hself⟩ := hstrip [c, '\uFE0F'] ⟨behind, rfl⟩
    have hselector : Columns.ofChar '\uFE0F' = 0 := by decide +kernel
    have htake : takeColumns (Columns.ofChar c) [c, '\uFE0F'] = [c, '\uFE0F'] := by
      rw [takeColumns, if_pos (Nat.le_refl _), takeColumns, hselector, if_pos (Nat.zero_le _),
        takeColumns]
    refine ⟨String.ofList [c, '\uFE0F'], hself.symm ▸ hpart, Columns.ofChar c, ?_⟩
    rw [columnCount_cutToColumns, hself, htake, Columns.ofChars_selected hvariation]
    exact hnarrow

/-- A text that is cut to a width is no wider than that, the delete character aside and characters of one
column with the selector for emoji behind them. For texts without those, and for no others, this is so of
all their parts. -/
theorem columnCount_cutToColumns_le_iff (s : String) :
    (∀ room, columnCount (cutToColumns s room) ≤
      room + Columns.widened (cutToColumns s room).toList) ∧
    ((∀ t : String, Escapes.strip t.toList <:+: Escapes.strip s.toList →
        ∀ room, columnCount (cutToColumns t room) ≤ room) ↔
      Columns.widened (Escapes.strip s.toList) = 0) := by
  refine ⟨fun room => ?_, fun hfits => ?_, fun hwidened t hpart room => ?_⟩
  · rw [toList_cutToColumns]
    exact columnCount_cutToColumns_le_add s room
  · by_contra hwidened
    obtain ⟨t, hpart, room, hlt⟩ :=
      exists_lt_columnCount (fun c hc => Escapes.stays_of_mem_strip hc) hwidened
    exact absurd (hfits t hpart room) (Nat.not_le.2 hlt)
  · have hcut := columnCount_cutToColumns_le_add t room
    have hwidenedCut := Columns.widened_le_of_isInfix
      ((isPrefix_takeColumns room (Escapes.strip t.toList)).isInfix.trans hpart)
    omega

/-- A heart is counted for one column and the selector for none, but together they take two. -/
theorem cutToColumns_heart :
    cutToColumns "\u2764\uFE0F" 1 = "\u2764\uFE0F" ∧
      ¬ columnCount (cutToColumns "\u2764\uFE0F" 1) ≤ 1 :=
  ⟨by decide +kernel, by decide +kernel⟩

end AnchorLayout.Text
