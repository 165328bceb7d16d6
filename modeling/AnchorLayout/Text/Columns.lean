import AnchorLayout.Text.Escapes
import AnchorLayout.Text.Columns.Table

/-!
# Terminal columns

The width of a text in terminal columns. A single character takes none, one, two or, once, three
columns. A text is read from right to left, since what stands after a character can change its
width: selectors make a character an emoji or plain text, and some letters, flags and emoji join to
one shape with what follows them. Both measures disregard terminal control sequences.
-/

namespace AnchorLayout.Text.Columns

/-- What the characters after a position can join with. -/
inductive Following where
  /-- Nothing that could join. -/
  | plain
  /-- An Arabic alef. -/
  | alef
  /-- A Hebrew lamed. -/
  | lamed
  | joinerLamed
  /-- A Khmer letter that can be stacked. -/
  | stackable
  /-- A Buginese ya. -/
  | ya
  | joinerYa
  | vowelJoinerYa
  /-- A Tifinagh consonant. -/
  | consonant
  | joinerConsonant
  | jointConsonant
  /-- One of the two Lisu tone letters that combine. -/
  | tone
  /-- An Old Turkic letter i. -/
  | orkhonI
  | joinerOrkhonI
  | skinTone
  /-- Half of a flag. -/
  | flagHalf
  | flagHalves
  | emoji
  /-- An emoji and the joiner before it. -/
  | joinerEmoji
  | joinerKeycap
  | joinerFlagHalf
  | joinerFlagEven
  | joinerFlagOdd
  /-- The tags of the flag of a region, ended, with a count of letters or of digits. -/
  | tagEnd
  | tagLetters (count : Nat)
  | tagDigits (count : Nat)
deriving DecidableEq

/-- What follows a position, and the variation selectors between. -/
structure Context where
  following : Following := .plain
  textSelector : Bool := false
  emojiSelector : Bool := false
deriving DecidableEq

/-- Whether a ligature is possible across marks that are ignored by default. -/
def Following.spansMarks : Following → Bool
  | lamed | joinerLamed | stackable | ya | joinerYa | vowelJoinerYa
  | consonant | joinerConsonant | jointConsonant | tone | orkhonI | joinerOrkhonI => true
  | _ => false

/-- Whether a ligature is possible across a variation selector. -/
def Following.spansSelectors (f : Following) : Bool := f = .alef || f.spansMarks

/-- Whether an emoji is joined to what follows. -/
def Following.isJoinerEmoji (f : Following) : Bool := f = .joinerEmoji || f = .joinerKeycap

/-- A joiner before a letter that ligates. -/
def Following.withJoiner : Following → Following
  | lamed => .joinerLamed
  | ya => .joinerYa
  | consonant => .joinerConsonant
  | orkhonI => .joinerOrkhonI
  | f => f

/-- A selector for emoji stands before what follows. -/
def Context.selectEmoji (x : Context) : Context :=
  if x.following.spansSelectors || x.following.isJoinerEmoji then { x with emojiSelector := true }
  else { emojiSelector := true }

/-- A selector for text stands before what follows. -/
def Context.selectText (x : Context) : Context :=
  if x.following.spansSelectors then { x with textSelector := true } else { textSelector := true }

/-- The selector for emoji found no emoji before it. -/
def Context.dropEmojiSelector (x : Context) : Context :=
  if x.following.spansSelectors then { x with emojiSelector := false } else {}

/-- Whether a code point lies between two others, both included. -/
def between (first last : Nat) (c : Char) : Bool := first ≤ c.toNat && c.toNat ≤ last

/-- A half of a flag: a regional indicator. -/
def isFlagHalf : Char → Bool := between 0x1F1E6 0x1F1FF

/-- A skin tone. -/
def isSkinTone : Char → Bool := between 0x1F3FB 0x1F3FF

/-- A Tifinagh consonant. -/
def isTifinaghConsonant (c : Char) : Bool := between 0x2D31 0x2D65 c || c.toNat = 0x2D6F

/-- An Arabic lam. -/
def isLam (c : Char) : Bool :=
  between 0x6B5 0x6B8 c || [0x644, 0x76A, 0x8A6, 0x8C7].contains c.toNat

/-- The width of a character that stands alone, and what it offers to the characters before it. -/
def alone (c : Char) : Nat × Following :=
  if c.toNat = 0x5DC then (1, .lamed)
  else if alefLetters.contains c then (1, .alef)
  else if coengLetters.contains c then (1, .stackable)
  else if c.toNat = 0x17D8 then (3, .plain)
  else if c.toNat = 0x1A10 then (1, .ya)
  else if isTifinaghConsonant c then (1, .consonant)
  else if between 0xA4FC 0xA4FD c then (1, .tone)
  else if c.toNat = 0x10C03 then (1, .orkhonI)
  else if isFlagHalf c then (1, .flagHalf)
  else if isSkinTone c then (2, .skinTone)
  else if emojiPresentation.contains c then (2, .emoji)
  else if zeroWidth.contains c then (0, .plain)
  else if wide.contains c then (2, .plain)
  else (1, .plain)

/-- Letters of the scripts in which a character joins with what follows it. -/
def joinLetters (f : Following) (c : Char) : Option (Int × Following) :=
  let n := c.toNat
  match f with
  | .alef =>
    if isLam c then some (0, .plain)
    else if zeroWidth.contains c && !opaqueZeroWidth.contains c then some (0, .alef)
    else none
  | .joinerLamed => if n = 0x5D0 then some (0, .plain) else none
  | .stackable => if n = 0x17D2 then some (-1, .plain) else none
  | .joinerYa => if n = 0x1A17 then some (0, .vowelJoinerYa) else none
  | .vowelJoinerYa => if n = 0x1A15 then some (0, .plain) else none
  | .consonant => if n = 0x2D7F then some (1, .jointConsonant) else none
  | .joinerConsonant =>
    if n = 0x2D7F then some (1, .jointConsonant)
    else if isTifinaghConsonant c then some (0, .plain)
    else none
  | .jointConsonant => if isTifinaghConsonant c then some (-1, .plain) else none
  | .tone => if between 0xA4F8 0xA4FB c then some (0, .plain) else none
  | .joinerOrkhonI => if n = 0x10C32 then some (0, .plain) else none
  | _ => none

/-- The tags of a region, read from their end: three to six letters, of which up to four stand after
three digits, belong to the black flag before them. -/
def joinTags (f : Following) (c : Char) : Option (Int × Following) :=
  let isLetter := between 0xE0061 0xE007A c
  let isDigit := between 0xE0030 0xE0039 c
  let isFlag := c.toNat = 0x1F3F4
  match f with
  | .tagEnd =>
    if isLetter then some (0, .tagLetters 1)
    else if isDigit then some (0, .tagDigits 1)
    else none
  | .tagLetters k =>
    if isLetter && k < 6 then some (0, .tagLetters (k + 1))
    else if isDigit && k ≤ 4 then some (0, .tagDigits 1)
    else if isFlag && 3 ≤ k then some (0, .emoji)
    else none
  | .tagDigits k =>
    if isDigit && k < 3 then some (0, .tagDigits (k + 1))
    else if isFlag && k = 3 then some (0, .emoji)
    else none
  | _ => none

/-- Emoji and the parts of emoji: skin tones, flags, and sequences held together by joiners. -/
def joinEmoji (f : Following) (c : Char) : Option (Int × Following) :=
  let isJoiner := c = '\u200D'
  match f with
  | .skinTone =>
    if modifierBase.contains c then some (0, .emoji)
    else if isJoiner then some (0, .joinerEmoji)
    else none
  | .flagHalf => if isFlagHalf c then some (1, .flagHalves) else none
  | .flagHalves =>
    if isFlagHalf c then some (1, .flagHalves)
    else if isJoiner then some (0, .joinerEmoji)
    else none
  | .emoji => if isJoiner then some (0, .joinerEmoji) else none
  | .joinerEmoji =>
    if c.toNat = 0x20E3 then some (0, .joinerKeycap)
    else if isFlagHalf c then some (1, .joinerFlagHalf)
    else if isSkinTone c then some (0, .skinTone)
    else if c.toNat = 0xE007F then some (0, .tagEnd)
    else if (alone c).2 = .emoji then some (0, .emoji)
    else none
  | .joinerFlagHalf => if isFlagHalf c then some (-1, .joinerFlagEven) else none
  | .joinerFlagOdd =>
    if isFlagHalf c then some (-1, .joinerFlagEven)
    else if isJoiner then some (0, .joinerEmoji)
    else none
  | .joinerFlagEven =>
    if isFlagHalf c then some (3, .joinerFlagOdd)
    else if isJoiner then some (0, .joinerEmoji)
    else none
  | f => joinTags f c

/-- The change of width that a character brings to the text after it, and the new context. -/
def step (c : Char) (x : Context) : Int × Context :=
  if x.emojiSelector && emojiVariation.contains c then
    (if x.following.isJoinerEmoji then 0 else 2, { following := .emoji })
  else
    let x := if x.emojiSelector then x.dropEmojiSelector else x
    if c.toNat ≤ 0xA0 then (if c = '\n' then 0 else 1, {})
    else if c = '\uFE0F' then (0, x.selectEmoji)
    else if c = '\uFE0E' then (0, x.selectText)
    else if x.textSelector && textVariation.contains c then (1, {})
    else
      let f := x.following
      if f.spansMarks && c = '\u200D' then (0, { following := f.withJoiner })
      else if f.spansMarks && ligatureTransparent.contains c then (0, { following := f })
      else match (joinLetters f c).or (joinEmoji f c) with
        | some (width, following) => (width, { following })
        | none => ((alone c).1, { following := (alone c).2 })

/-- The width of a text without control sequences. -/
def ofChars (cs : List Char) : Nat :=
  (cs.foldr (fun c (total, x) => ((step c x).1 + total, (step c x).2)) ((0 : Int), {})).1.toNat

/-- The width of a character; control characters take no column. -/
def ofChar (c : Char) : Nat :=
  if c.toNat < 0x20 || (0x7F ≤ c.toNat && c.toNat < 0xA0) then 0
  else if c.toNat < 0x7F then 1
  else (alone c).1

end Columns

/-- The number of terminal columns that a text takes, control sequences aside. -/
def columnCount (s : String) : Nat := Columns.ofChars (Escapes.strip s.toList)

/-- The characters up to the first that does not fit into the room that is left. -/
def takeColumns : Nat → List Char → List Char
  | _, [] => []
  | room, c :: rest =>
    if Columns.ofChar c ≤ room then c :: takeColumns (room - Columns.ofChar c) rest else []

theorem isPrefix_takeColumns (room : Nat) (cs : List Char) : takeColumns room cs <+: cs := by
  induction cs generalizing room with
  | nil => exact List.prefix_rfl
  | cons c rest ih =>
    rw [takeColumns]
    split
    · exact (List.prefix_cons_inj c).2 (ih _)
    · exact List.nil_prefix

/-- The text without control sequences, cut where the widths of its characters exceed `room`. -/
def cutToColumns (s : String) (room : Nat) : String :=
  String.ofList (takeColumns room (Escapes.strip s.toList))

@[simp] theorem toList_cutToColumns (s : String) (room : Nat) :
    (cutToColumns s room).toList = takeColumns room (Escapes.strip s.toList) := by
  rw [cutToColumns, String.toList_ofList]

end AnchorLayout.Text
