/-!
# Removing terminal control sequences

Names may carry the escape sequences with which terminals are styled. `strip` keeps the characters
that a terminal would show, and the line feeds. It follows the states of a terminal parser; a
sequence that never ends swallows the rest of the text. Control characters other than the line feed
are dropped, those of the upper range included; the delete character counts as shown.
-/

namespace AnchorLayout.Text.Escapes

/-- Where a terminal stands within a control sequence. -/
inductive State where
  | ground
  | escape
  | escapeIntermediate
  | controlEntry
  | controlParameter
  | controlIntermediate
  | controlIgnore
  | deviceEntry
  | deviceParameter
  | deviceIntermediate
  | deviceIgnore
  | deviceData
  | systemCommand
  | privateString
deriving DecidableEq

/-- Whether the control characters within a sequence still take effect in a state. -/
def State.executes : State → Bool
  | ground | escape | escapeIntermediate
  | controlEntry | controlParameter | controlIntermediate | controlIgnore => true
  | _ => false

/-- The state after a character that neither starts nor aborts a sequence. A printable character
either belongs to the sequence or ends it. -/
def State.next (s : State) (c : Char) : State :=
  let n := c.toNat
  let intermediate := 0x20 ≤ n && n ≤ 0x2F
  let parameter := 0x30 ≤ n && n ≤ 0x3B
  let marker := 0x3C ≤ n && n ≤ 0x3F
  let final := 0x40 ≤ n && n ≤ 0x7E
  match s with
  | ground => ground
  | escape =>
    if intermediate then escapeIntermediate
    else if c = 'P' then deviceEntry
    else if c = 'X' || c = '^' || c = '_' then privateString
    else if c = '[' then controlEntry
    else if c = ']' then systemCommand
    else if parameter || marker || final then ground
    else escape
  | escapeIntermediate => if parameter || marker || final then ground else escapeIntermediate
  | controlEntry =>
    if intermediate then controlIntermediate
    else if parameter || marker then controlParameter
    else if final then ground
    else controlEntry
  | controlParameter =>
    if intermediate then controlIntermediate
    else if marker then controlIgnore
    else if final then ground
    else controlParameter
  | controlIntermediate =>
    if parameter || marker then controlIgnore
    else if final then ground
    else controlIntermediate
  | controlIgnore => if final then ground else controlIgnore
  | deviceEntry =>
    if intermediate then deviceIntermediate
    else if parameter || marker then deviceParameter
    else if final then deviceData
    else deviceEntry
  | deviceParameter =>
    if intermediate then deviceIntermediate
    else if marker then deviceIgnore
    else if final then deviceData
    else deviceParameter
  | deviceIntermediate =>
    if parameter || marker then deviceIgnore
    else if final then deviceData
    else deviceIntermediate
  | deviceIgnore => deviceIgnore
  | deviceData => deviceData
  | systemCommand => if c = '\x07' then ground else systemCommand
  | privateString => privateString

/-- Whether a character is shown in the ground state: it is no control character of either range. -/
def isShown (c : Char) : Bool := !(c.toNat ≤ 0x1F || (0x80 ≤ c.toNat && c.toNat ≤ 0x9F))

/-- The byte that ends the data of a device ends it even within a character. The bytes of the
character that follow are no text: each is shown as a replacement character, unless it is a control
byte. `none` if the character holds no such byte. -/
def afterStringTerminator (c : Char) : Option (List Char) :=
  let rest := (String.utf8EncodeChar c).dropWhile (· ≠ 0x9C)
  match rest with
  | [] => none
  | _ :: stray => some ((stray.filter (0x9F < ·)).map fun _ => '\uFFFD')

/-- Reads one character: what is shown, and the state after it. -/
def step (s : State) (c : Char) : List Char × State :=
  if c = '\x1B' then ([], .escape)
  else if s = .ground then
    (if c = '\n' || isShown c then [c] else [], .ground)
  else if c = '\x18' || c = '\x1A' then ([], .ground)
  else if c.toNat < 0x20 && s.executes then (if c = '\n' then [c] else [], s)
  else if s = .deviceData then
    match afterStringTerminator c with
    | some stray => (stray, .ground)
    | none => ([], s)
  else ([], s.next c)

/-- What a terminal in a given state shows of a text. -/
def shown : State → List Char → List Char
  | _, [] => []
  | s, c :: rest => (step s c).1 ++ shown (step s c).2 rest

/-- The text without control sequences and control characters. -/
def strip (cs : List Char) : List Char := shown .ground cs

/-! ## What is left of a text -/

/-- Whether a character is left where it stands outside of a control sequence. -/
def Stays (c : Char) : Prop := c = '\n' ∨ isShown c = true

theorem stays_of_mem_stray {c d : Char} {stray : List Char}
    (h : afterStringTerminator c = some stray) (hd : d ∈ stray) : Stays d := by
  unfold afterStringTerminator at h
  dsimp only at h
  split at h
  · cases h
  · cases h
    obtain ⟨_, -, rfl⟩ := List.mem_map.1 hd
    exact .inr (by decide)

theorem stays_of_mem_step {s : State} {c d : Char} (h : d ∈ (step s c).1) : Stays d := by
  unfold step at h
  -- The cases are those of the definition, in its order.
  by_cases hescape : c = '\x1B'
  · rw [if_pos hescape] at h
    cases h
  rw [if_neg hescape] at h
  by_cases hground : s = .ground
  · rw [if_pos hground] at h
    obtain ⟨hc, hd⟩ := List.mem_ite_nil_right.1 h
    obtain rfl := List.mem_singleton.1 hd
    simpa [Stays] using hc
  rw [if_neg hground] at h
  by_cases hcancel : (c = '\x18' || c = '\x1A') = true
  · rw [if_pos hcancel] at h
    cases h
  rw [if_neg hcancel] at h
  by_cases hexecute : (c.toNat < 0x20 && s.executes) = true
  · rw [if_pos hexecute] at h
    obtain ⟨rfl, hd⟩ := List.mem_ite_nil_right.1 h
    exact .inl (List.mem_singleton.1 hd)
  rw [if_neg hexecute] at h
  by_cases hdata : s = .deviceData
  · rw [if_pos hdata] at h
    split at h
    case h_1 stray hstray => exact stays_of_mem_stray hstray h
    case h_2 => cases h
  · rw [if_neg hdata] at h
    cases h

theorem stays_of_mem_shown {s : State} {cs : List Char} {d : Char} (h : d ∈ shown s cs) :
    Stays d := by
  induction cs generalizing s with
  | nil => cases h
  | cons c rest ih =>
    rcases List.mem_append.1 h with h | h
    · exact stays_of_mem_step h
    · exact ih h

theorem stays_of_mem_strip {cs : List Char} {c : Char} (h : c ∈ strip cs) : Stays c :=
  stays_of_mem_shown h

theorem step_ground {c : Char} (h : Stays c) : step .ground c = ([c], .ground) := by
  have hescape : c ≠ '\x1B' := by
    rintro rfl
    exact absurd h (by simp [Stays, isShown])
  rw [step, if_neg hescape, if_pos rfl, if_pos (by simpa [Stays] using h)]

/-- Nothing is removed from a text without control characters. -/
theorem strip_eq_self {cs : List Char} (h : ∀ c ∈ cs, Stays c) : strip cs = cs := by
  unfold strip
  induction cs with
  | nil => rfl
  | cons c rest ih =>
    rw [shown, step_ground (h c List.mem_cons_self), ih fun d hd => h d (List.mem_cons_of_mem c hd)]
    rfl

end AnchorLayout.Text.Escapes
