import AnchorLayout.Proofs.Json.Reading

/-!
# Indented lists and records are read back

The items of a list stand on lines of their own, between commas, and so do the members of an object.
Going to the next item skips the comma and the new line; one induction along the items, or along the
members, reads all of them.
-/

namespace AnchorLayout.Json

/-! ## The text of items and members -/

theorem isBlank_newline (depth : Nat) : ∀ c ∈ (newline depth).toList, isBlank c = true := by
  intro c hc
  simp only [newline, String.toList_append, String.toList_ofList, List.mem_append,
    List.mem_replicate] at hc
  obtain hc | ⟨-, rfl⟩ := hc
  · have hline : "\n".toList = ['\n'] := by simp
    rw [hline, List.mem_singleton] at hc
    rw [hc]
    rfl
  · rfl

/-- What stands between an item and the one before it. -/
def comma (first : Bool) : List Char := if first then [] else [',']

/-- The text of items or members at a depth, with commas between them. -/
def linesText {α : Type} (depth : Nat) (line : α → List Char) : Bool → List α → List Char
  | _, [] => []
  | first, x :: xs =>
    comma first ++ ((newline depth).toList ++ (line x ++ linesText depth line false xs))

/-- The text of an item. -/
def itemLine (depth : Nat) (v : Json) : List Char := (v.indented depth).toList

/-- The text of a member. -/
def memberLine (depth : Nat) (m : String × Json) : List Char :=
  (quote m.1).toList ++ (':' :: ' ' :: (m.2.indented depth).toList)

theorem toList_indentedItems (depth : Nat) (vs : List Json) :
    (indentedItems depth vs).toList =
      linesText depth (itemLine depth) true vs := by
  induction vs with
  | nil => rfl
  | cons v vs ih =>
    cases vs with
    | nil => simp [indentedItems, linesText, itemLine, comma]
    | cons w vs =>
      rw [indentedItems, String.toList_append, String.toList_append, String.toList_append, ih]
      · simp [linesText, itemLine, comma]
      · simp

theorem toList_indentedMembers (depth : Nat) (ms : List (String × Json)) :
    (indentedMembers depth ms).toList = linesText depth (memberLine depth) true ms := by
  induction ms with
  | nil => rfl
  | cons m ms ih =>
    obtain ⟨k, v⟩ := m
    cases ms with
    | nil => simp [indentedMembers, linesText, comma, memberLine]
    | cons m ms =>
      rw [indentedMembers, String.toList_append, String.toList_append, ih]
      · simp [linesText, comma, memberLine]
      · simp

/-- Each line adds at least the character that begins it. -/
theorem length_le_linesText {α : Type} (depth : Nat) (line : α → List Char) (first : Bool)
    (xs : List α) : xs.length ≤ (linesText depth line first xs).length := by
  induction xs generalizing first with
  | nil => exact Nat.zero_le _
  | cons x xs ih =>
    have hline : 0 < (newline depth).toList.length := by simp [newline]
    have hrest := ih false
    simp only [linesText, List.length_append, List.length_cons]
    omega

/-- Hence the characters that are left suffice to count the steps. -/
theorem length_lt_linesText_append {α : Type} (depth : Nat) (line : α → List Char) (first : Bool)
    (xs : List α) (rest : List Char) :
    xs.length < (linesText depth line first xs ++ rest).length + 1 := by
  have hle := length_le_linesText depth line first xs
  rw [List.length_append]
  omega

/-- The items of a list stand between its brackets, with a new line at the end unless there are
none. -/
theorem toList_indented_array (indent : Nat) (vs : List Json) :
    ∃ blanks : List Char, (∀ c ∈ blanks, isBlank c = true) ∧
      ((array vs).indented indent).toList = '[' ::
        (linesText (indent + 1) (itemLine (indent + 1)) true vs ++
          (blanks ++ [']'])) := by
  cases vs with
  | nil => exact ⟨[], by simp, by simp [indented, linesText]⟩
  | cons v vs =>
    refine ⟨(newline indent).toList, isBlank_newline indent, ?_⟩
    simp [indented, toList_indentedItems]

/-- The members of an object stand between its brackets, with a new line at the end unless there are
none. -/
theorem toList_indented_object (indent : Nat) (ms : List (String × Json)) :
    ∃ blanks : List Char, (∀ c ∈ blanks, isBlank c = true) ∧
      ((object ms).indented indent).toList = '\x7b' ::
        (linesText (indent + 1) (memberLine (indent + 1)) true ms ++ (blanks ++ ['\x7d'])) := by
  cases ms with
  | nil => exact ⟨[], by simp, by simp [indented, linesText]⟩
  | cons m ms =>
    refine ⟨(newline indent).toList, isBlank_newline indent, ?_⟩
    simp [indented, toList_indentedMembers]

theorem delimited_of_isBlank {c : Char} (h : isBlank c = true) (rest : List Char) :
    Delimited (c :: rest) := by
  simp only [isBlank, Bool.or_eq_true, decide_eq_true_eq] at h
  obtain ((rfl | rfl) | rfl) | rfl := h <;> simp [Delimited]

/-- A closing bracket ends a number, and so do blanks before it. -/
theorem delimited_close {c : Char} (h : c = ']' ∨ c = '\x7d') {blanks : List Char}
    (hblanks : ∀ c ∈ blanks, isBlank c = true) (rest : List Char) :
    Delimited (blanks ++ c :: rest) := by
  cases blanks with
  | nil => obtain rfl | rfl := h <;> simp [Delimited]
  | cons b blanks => exact delimited_of_isBlank (hblanks b List.mem_cons_self) _

/-- A comma ends a number. -/
theorem Delimited.linesText {rest : List Char} (h : Delimited rest) {α : Type} (depth : Nat)
    (line : α → List Char) (xs : List α) :
    Delimited (linesText depth line false xs ++ rest) := by
  cases xs with
  | nil => exact h
  | cons x xs => simp [Json.linesText, comma, Delimited]

/-- A value that can be told from the end of a list. -/
def Starts (v : Json) : Prop :=
  ∀ indent, ∃ c cs, (v.indented indent).toList = c :: cs ∧ isBlank c = false ∧ c ≠ ']'

theorem starts_object (ms : List (String × Json)) : (object ms).Starts := by
  intro indent
  obtain ⟨_, -, htext⟩ := toList_indented_object indent ms
  exact ⟨_, _, htext, rfl, by decide⟩

namespace Reader
variable {α σ ρ : Type} {depth height n : Nat} {blanks cs rest : List Char}

/-! ## Lists -/

theorem nextItem_end (hblanks : ∀ c ∈ blanks, isBlank c = true) (first : Bool) :
    nextItem first depth (blanks ++ ']' :: rest) = .ok (false, ']' :: rest) := by
  rw [nextItem, bind_of_eq_ok (next_eq hblanks rfl .list), if_pos rfl]
  rfl

/-- The next item is found behind the comma and the new line. -/
theorem nextItem_line (first : Bool) (indent : Nat) {c : Char} (hc : isBlank c = false)
    (hne : c ≠ ']') :
    nextItem first depth (comma first ++ ((newline indent).toList ++ c :: cs)) =
      .ok (true, c :: cs) := by
  cases first with
  | true =>
    rw [nextItem, comma, if_pos rfl, List.nil_append,
      bind_of_eq_ok (next_eq (isBlank_newline indent) hc .list), if_neg hne, if_pos rfl]
    rfl
  | false =>
    rw [nextItem, comma, if_neg (by decide), List.singleton_append,
      bind_of_eq_ok (next_cons rfl .list), if_neg (by decide), if_neg (by decide), if_pos rfl,
      bind_of_eq_ok (drop_cons _),
      bind_of_eq_ok (next_eq (isBlank_newline indent) hc .value), if_neg hne]
    rfl

/-- All items are read, and the closing bracket is found. -/
theorem items_eq {read : Reader α} {write : α → Json} {xs : List α}
    (h : ∀ x ∈ xs, Reads read height (write x) x) (hstarts : ∀ x ∈ xs, (write x).Starts)
    (hdepth : height ≤ depth) (hn : xs.length < n) (first : Bool) (indent : Nat)
    (hblanks : ∀ c ∈ blanks, isBlank c = true) (rest : List Char) :
    items read n first depth
        (linesText indent (itemLine indent) first (xs.map write) ++ (blanks ++ ']' :: rest)) =
      .ok (xs, ']' :: rest) := by
  induction xs generalizing n first with
  | nil =>
    obtain ⟨n, rfl⟩ := Nat.exists_eq_succ_of_ne_zero (Nat.ne_of_gt hn)
    rw [items, List.map_nil, linesText, List.nil_append, bind_of_eq_ok (nextItem_end hblanks first)]
    rfl
  | cons x xs ih =>
    rw [List.forall_mem_cons] at h hstarts
    rw [List.length_cons] at hn
    obtain ⟨n, rfl⟩ := Nat.exists_eq_succ_of_ne_zero (Nat.ne_zero_of_lt hn)
    obtain ⟨c, cs, hcs, hc, hne⟩ := hstarts.1 indent
    have hafter : Delimited (linesText indent (itemLine indent) false (xs.map write) ++
        (blanks ++ ']' :: rest)) :=
      (delimited_close (.inl rfl) hblanks rest).linesText _ _ _
    have hitem := h.1 depth hdepth indent [] _ (by simp) hafter
    have hrest := ih h.2 hstarts.2 (Nat.lt_of_succ_lt_succ hn) false
    rw [hcs, List.nil_append, List.cons_append] at hitem
    rw [items, List.map_cons, linesText, itemLine, hcs]
    simp only [List.append_assoc, List.cons_append]
    rw [bind_of_eq_ok (nextItem_line first indent hc hne), if_pos rfl, bind_of_eq_ok hitem,
      bind_of_eq_ok hrest]
    rfl

theorem closeList_eq : closeList depth (']' :: rest) = .ok ((), rest) := by
  rw [closeList, bind_of_eq_ok (next_cons rfl .list), if_pos rfl]
  rfl

theorem nested_succ (read : Reader α) : nested read (depth + 1) cs = read depth cs := rfl

theorem steps_eq : steps depth cs = .ok (cs.length + 1, cs) := rfl

/-- A list is read if its items are. -/
theorem reads_list {read : Reader α} {write : α → Json} {xs : List α}
    (h : ∀ x ∈ xs, Reads read height (write x) x) (hstarts : ∀ x ∈ xs, (write x).Starts) :
    Reads (list read) (height + 1) (.array (xs.map write)) xs := by
  intro depth hdepth indent blanks rest hblanks _
  obtain ⟨depth, rfl⟩ := Nat.exists_eq_succ_of_ne_zero (Nat.ne_zero_of_lt hdepth)
  obtain ⟨closing, hclosing, htext⟩ := toList_indented_array indent (xs.map write)
  have hfuel := length_lt_linesText_append (indent + 1) (itemLine (indent + 1)) true (xs.map write)
    (closing ++ ']' :: rest)
  rw [List.length_map] at hfuel
  have hitems := items_eq h hstarts (Nat.le_of_succ_le_succ hdepth) hfuel true (indent + 1)
    hclosing rest
  rw [htext]
  simp only [List.cons_append, List.append_assoc, List.nil_append]
  rw [list, bind_of_eq_ok (next_eq hblanks rfl .value), if_pos rfl, nested_succ,
    bind_of_eq_ok (drop_cons _), bind_of_eq_ok steps_eq, bind_of_eq_ok hitems,
    bind_of_eq_ok closeList_eq]
  rfl

/-! ## Objects -/

theorem nextKey_end (hblanks : ∀ c ∈ blanks, isBlank c = true) (first : Bool) :
    nextKey first depth (blanks ++ '\x7d' :: rest) = .ok (none, '\x7d' :: rest) := by
  rw [nextKey, bind_of_eq_ok (next_eq hblanks rfl .object), if_pos rfl]
  rfl

/-- The next key is found behind the comma and the new line. -/
theorem nextKey_line (first : Bool) (indent : Nat) (k : String) :
    nextKey first depth (comma first ++ ((newline indent).toList ++ ((quote k).toList ++ cs))) =
      .ok (some k, cs) := by
  have hquote (part : Part) :
      next part depth ((newline indent).toList ++ ((quote k).toList ++ cs)) =
        .ok ('"', (quote k).toList ++ cs) :=
    next_quote (isBlank_newline indent) k part
  have hkey : key '"' depth ((quote k).toList ++ cs) = .ok (k, cs) := by
    rw [key, if_pos rfl, quoted_eq]
  cases first with
  | true =>
    rw [nextKey, comma, if_pos rfl, List.nil_append, bind_of_eq_ok (hquote .object),
      if_neg (by decide), if_neg (by decide)]
    dsimp only
    rw [bind_of_eq_ok hkey]
    rfl
  | false =>
    rw [nextKey, comma, if_neg (by decide), List.singleton_append,
      bind_of_eq_ok (next_cons rfl .object), if_neg (by decide), if_pos (by decide),
      if_neg (by decide)]
    dsimp only
    rw [bind_of_eq_ok (drop_cons _), bind_of_eq_ok (hquote .value), if_neg (by decide),
      bind_of_eq_ok hkey]
    rfl

/-- Members lead from one draft of a record to another, if each of them is known, is read for the
first time, and leads on from the draft before. -/
inductive Fills (known : List (Member σ)) (height : Nat) : List (String × Json) → σ → σ → Prop
  | nil {s : σ} : Fills known height [] s s
  | cons {k : String} {v : Json} {m : Member σ} {ms : List (String × Json)} {s s' s'' : σ}
      (hfind : known.find? (·.name = k) = some m) (hnew : m.isRead s = false)
      (hread : Reads (m.read s) height v s') (hrest : Fills known height ms s' s'') :
      Fills known height ((k, v) :: ms) s s''

theorem colon_eq : colon depth (':' :: cs) = .ok ((), cs) := by
  rw [colon, bind_of_eq_ok (next_cons rfl .object), if_pos rfl, drop_cons]

theorem keyed_eq {known : List (Member σ)} {k : String} {m : Member σ} {s s' : σ}
    (hfind : known.find? (·.name = k) = some m) (hnew : m.isRead s = false)
    (hread : m.read s depth cs = .ok (s', rest)) :
    keyed known s k depth (':' :: cs) = .ok (s', rest) := by
  rw [keyed, hfind]
  simp only [hnew]
  rw [if_neg (by decide), bind_of_eq_ok colon_eq, hread]

/-- All members are read, and the closing bracket is found. -/
theorem members_eq {known : List (Member σ)} {ms : List (String × Json)} {s s' : σ}
    (h : Fills known height ms s s') (hdepth : height ≤ depth) (hn : ms.length < n) (first : Bool)
    (indent : Nat) (hblanks : ∀ c ∈ blanks, isBlank c = true) (rest : List Char) :
    members (keyed known) n first s depth
        (linesText indent (memberLine indent) first ms ++ (blanks ++ '\x7d' :: rest)) =
      .ok (s', '\x7d' :: rest) := by
  induction h generalizing n first with
  | nil =>
    obtain ⟨n, rfl⟩ := Nat.exists_eq_succ_of_ne_zero (Nat.ne_of_gt hn)
    rw [members, linesText, List.nil_append, bind_of_eq_ok (nextKey_end hblanks first)]
    rfl
  | @cons k v m ms s s' s'' hfind hnew hread _ ih =>
    rw [List.length_cons] at hn
    obtain ⟨n, rfl⟩ := Nat.exists_eq_succ_of_ne_zero (Nat.ne_zero_of_lt hn)
    have hafter : Delimited (linesText indent (memberLine indent) false ms ++
        (blanks ++ '\x7d' :: rest)) :=
      (delimited_close (.inr rfl) hblanks rest).linesText _ _ _
    have hvalue := hread depth hdepth indent [' '] _ (by simp [isBlank]) hafter
    have hrest := ih (Nat.lt_of_succ_lt_succ hn) false
    rw [List.singleton_append] at hvalue
    rw [members, linesText, memberLine]
    simp only [List.append_assoc, List.cons_append]
    rw [bind_of_eq_ok (nextKey_line first indent k)]
    dsimp only
    rw [bind_of_eq_ok (keyed_eq hfind hnew hvalue), hrest]

theorem closeObject_eq : closeObject depth ('\x7d' :: rest) = .ok ((), rest) := by
  rw [closeObject, bind_of_eq_ok (next_cons rfl .object), if_pos rfl, drop_cons]

/-- A record is read if its members lead to it. -/
theorem reads_record {shape : RecordShape σ ρ} {ms : List (String × Json)} {s : σ} {x : ρ}
    (h : Fills shape.members height ms shape.start s) (hfinish : shape.finish s = .ok x) :
    Reads (record shape) (height + 1) (.object ms) x := by
  intro depth hdepth indent blanks rest hblanks _
  obtain ⟨depth, rfl⟩ := Nat.exists_eq_succ_of_ne_zero (Nat.ne_zero_of_lt hdepth)
  obtain ⟨closing, hclosing, htext⟩ := toList_indented_object indent ms
  have hfuel := length_lt_linesText_append (indent + 1) (memberLine (indent + 1)) true ms
    (closing ++ '\x7d' :: rest)
  have hmembers := members_eq h (Nat.le_of_succ_le_succ hdepth) hfuel true (indent + 1)
    hclosing rest
  rw [htext]
  simp only [List.cons_append, List.append_assoc, List.nil_append]
  rw [record, bind_of_eq_ok (next_eq hblanks rfl .value), if_neg (by decide), if_pos rfl,
    nested_succ, bind_of_eq_ok (drop_cons _), bind_of_eq_ok steps_eq, bind_of_eq_ok hmembers]
  simp only [hfinish]
  rw [bind_of_eq_ok closeObject_eq]
  rfl

/-- A text is read if its value is. -/
theorem run_eq {read : Reader α} {v : Json} {x : α} (h : Reads read height v x)
    (hheight : height ≤ depthLimit) : read.run v.pretty = .ok x := by
  have hread := h depthLimit hheight 0 [] [] (by simp) (by simp [Delimited])
  rw [List.nil_append, List.append_nil] at hread
  rw [run, pretty, hread]
  rfl

end Reader
end AnchorLayout.Json
