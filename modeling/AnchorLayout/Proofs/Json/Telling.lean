import AnchorLayout.Proofs.Json.Records

/-!
# What a text tells

Strings and integers can be told from their texts, whatever comes behind them: an escaped character
is none other, a string ends at its first quote that is not escaped, and an integer at its last digit.
The same holds of arrays and objects on indented lines if it holds of what is in them, since a comma
or a closing bracket tells whether another line follows.
-/

namespace AnchorLayout.Json
variable {rest rest' : List Char}

/-! ## Strings and integers -/

theorem quote_append_inj {s t : String} (h : (quote s).toList ++ rest = (quote t).toList ++ rest') :
    s = t ∧ rest = rest' := by
  rw [toList_quote, toList_quote] at h
  simp only [List.cons_append, List.append_assoc, List.nil_append, List.cons.injEq, true_and] at h
  have hread := congrArg readString h
  rw [readString_quote, readString_quote] at hread
  simpa [String.toList_inj] using hread

theorem span_toDigits (n : Nat) (h : Delimited rest) :
    (Nat.toDigits 10 n ++ rest).takeWhile Char.isDigit = Nat.toDigits 10 n ∧
      (Nat.toDigits 10 n ++ rest).dropWhile Char.isDigit = rest := by
  have hdigits : ∀ c ∈ Nat.toDigits 10 n, c.isDigit = true := fun c hc =>
    Nat.isDigit_of_mem_toDigits (by omega) (by omega) hc
  rw [List.takeWhile_append_of_pos hdigits, List.dropWhile_append_of_pos hdigits]
  cases rest with
  | nil => simp
  | cons c rest => simp [h c rfl]

theorem toDigits_append_inj {n m : Nat} (hrest : Delimited rest) (hrest' : Delimited rest')
    (h : Nat.toDigits 10 n ++ rest = Nat.toDigits 10 m ++ rest') : n = m ∧ rest = rest' := by
  obtain ⟨htake, hdrop⟩ := span_toDigits n hrest
  obtain ⟨htake', hdrop'⟩ := span_toDigits m hrest'
  rw [h] at htake hdrop
  refine ⟨?_, hdrop.symm.trans hdrop'⟩
  have hvalue := congrArg (Nat.ofDigitChars 10 · 0) (htake.symm.trans htake')
  simpa only [Nat.ofDigitChars_ten_toDigits] using hvalue

/-- The sign tells negative integers from the others. -/
theorem toDigits_append_ne_minus (n : Nat) : Nat.toDigits 10 n ++ rest ≠ '-' :: rest' := by
  obtain ⟨c, cs, hcs, hdigit⟩ := exists_toDigits_eq_cons n
  intro h
  rw [hcs, List.cons_append, List.cons.injEq] at h
  rw [h.1] at hdigit
  cases hdigit

theorem integer_append_inj {n m : Int} (hrest : Delimited rest) (hrest' : Delimited rest')
    (h : (toString n).toList ++ rest = (toString m).toList ++ rest') : n = m ∧ rest = rest' := by
  cases n with
  | ofNat n =>
    cases m with
    | ofNat m =>
      rw [toList_toString_ofNat, toList_toString_ofNat] at h
      exact (toDigits_append_inj hrest hrest' h).imp_left (congrArg Int.ofNat)
    | negSucc m =>
      rw [toList_toString_ofNat, toList_toString_negSucc] at h
      exact absurd h (toDigits_append_ne_minus n)
  | negSucc n =>
    cases m with
    | ofNat m =>
      rw [toList_toString_ofNat, toList_toString_negSucc] at h
      exact absurd h.symm (toDigits_append_ne_minus m)
    | negSucc m =>
      rw [toList_toString_negSucc, toList_toString_negSucc, List.cons_append, List.cons_append,
        List.cons.injEq] at h
      obtain ⟨hnat, hrest⟩ := toDigits_append_inj hrest hrest' h.2
      exact ⟨congrArg Int.negSucc (Nat.succ.inj hnat), hrest⟩

theorem exists_toString_eq_cons (n : Int) :
    ∃ c cs, (toString n).toList = c :: cs ∧ Reader.startsNumber c = true := by
  cases n with
  | ofNat n =>
    obtain ⟨c, cs, hcs, hdigit⟩ := exists_toDigits_eq_cons n
    exact ⟨c, cs, (toList_toString_ofNat n).trans hcs, by simp [Reader.startsNumber, hdigit]⟩
  | negSucc n => exact ⟨'-', _, toList_toString_negSucc n, rfl⟩

/-! ## Values -/

/-- A way of writing things: which of those with a property is written can be told from the text,
whatever follows, unless that goes on with a number. -/
def Telling {α : Type} (P : α → Prop) (text : α → List Char) : Prop :=
  ∀ ⦃x y⦄, P x → P y → ∀ ⦃rest rest'⦄, Delimited rest → Delimited rest' →
    text x ++ rest = text y ++ rest' → x = y ∧ rest = rest'

/-- The values that are written in one piece and hold no fraction. -/
inductive Plain : Json → Prop
  | integer (n : Int) : Plain (.ofInt n)
  | string (s : String) : Plain (.string s)

/-- Quotes tell strings from integers. -/
theorem integer_append_ne_quote (n : Int) (s : String) :
    (toString n).toList ++ rest ≠ (quote s).toList ++ rest' := by
  obtain ⟨c, cs, hcs, hc⟩ := exists_toString_eq_cons n
  intro h
  rw [hcs, toList_quote, List.cons_append, List.cons_append, List.cons.injEq] at h
  rw [h.1] at hc
  cases hc

theorem telling_plain : Telling Plain fun v => v.compact.toList := by
  intro v w hv hw rest rest' hrest hrest' h
  cases hv with
  | integer n =>
    cases hw with
    | integer m => exact (integer_append_inj hrest hrest' h).imp_left (congrArg ofInt)
    | string t => exact absurd h (integer_append_ne_quote n t)
  | string s =>
    cases hw with
    | integer m => exact absurd h.symm (integer_append_ne_quote m s)
    | string t => exact (quote_append_inj h).imp_left (congrArg Json.string)

/-- What is in one piece is indented nowhere. -/
theorem Plain.indented_eq {v : Json} (h : Plain v) (indent : Nat) :
    v.indented indent = v.compact := by
  cases h <;> rfl

theorem telling_plain_itemLine (indent : Nat) : Telling Plain (itemLine indent) := by
  intro v w hv hw rest rest' hrest hrest' h
  rw [itemLine, itemLine, hv.indented_eq, hw.indented_eq] at h
  exact telling_plain hv hw hrest hrest' h

/-- A key and its value can be told from their text, with something between them. -/
theorem Telling.keyed {P : Json → Prop} {text : Json → List Char} (h : Telling P text)
    (between : List Char) :
    Telling (fun m : String × Json => P m.2) fun m =>
      (quote m.1).toList ++ (between ++ text m.2) := by
  rintro ⟨k, v⟩ ⟨l, w⟩ hv hw rest rest' hrest hrest' heq
  simp only [List.append_assoc] at heq
  obtain ⟨rfl, hvalue⟩ := quote_append_inj heq
  exact (h hv hw hrest hrest' (List.append_cancel_left hvalue)).imp_left (congrArg (Prod.mk k))

/-! ## Rows -/

/-- As many things as are known to be there can be told one after the other, if a comma stands before
each. -/
theorem Telling.row {α : Type} {P : α → Prop} {text : α → List Char} (h : Telling P text)
    {xs ys : List α} (hlength : xs.length = ys.length) (hxs : ∀ x ∈ xs, P x) (hys : ∀ y ∈ ys, P y)
    (hrest : Delimited rest) (hrest' : Delimited rest')
    (heq : (xs.flatMap fun x => ',' :: text x) ++ rest =
      (ys.flatMap fun y => ',' :: text y) ++ rest') : xs = ys := by
  have hcomma (xs : List α) {rest : List Char} (hrest : Delimited rest) :
      Delimited ((xs.flatMap fun x => ',' :: text x) ++ rest) := by
    cases xs with
    | nil => exact hrest
    | cons x xs => simp [Delimited]
  induction xs generalizing ys with
  | nil => exact (List.length_eq_zero_iff.1 hlength.symm).symm
  | cons x xs ih =>
    cases ys with
    | nil => cases hlength
    | cons y ys =>
      rw [List.forall_mem_cons] at hxs hys
      simp only [List.flatMap_cons, List.cons_append, List.append_assoc, List.cons.injEq,
        true_and] at heq
      obtain ⟨rfl, hothers⟩ := h hxs.1 hys.1 (hcomma xs hrest) (hcomma ys hrest') heq
      rw [ih (Nat.succ.inj hlength) hxs.2 hys.2 hothers]

/-- The text of a member in compact form. -/
def compactMember (m : String × Json) : List Char :=
  (quote m.1).toList ++ ([':'] ++ m.2.compact.toList)

theorem comma_compactMembers (m : String × Json) (ms : List (String × Json)) :
    ',' :: (compactMembers (m :: ms)).toList =
      (m :: ms).flatMap fun m => ',' :: compactMember m := by
  induction ms generalizing m with
  | nil => simp [compactMembers, compactMember]
  | cons n ms ih =>
    rw [List.flatMap_cons, ← ih]
    simp [compactMembers, compactMember]

/-- In a compact object a comma stands before each member but the first. -/
theorem exists_toList_compact_object (m : String × Json) (ms : List (String × Json)) :
    ∃ cs, (object (m :: ms)).compact.toList = '\x7b' :: cs ∧
      ',' :: cs = ((m :: ms).flatMap fun m => ',' :: compactMember m) ++ ['\x7d'] :=
  ⟨(compactMembers (m :: ms)).toList ++ ['\x7d'], by simp [compact], by
    rw [← comma_compactMembers, List.cons_append]⟩

/-- The plain members with which an object begins can be told from its compact text, whatever the
members behind them hold. -/
theorem leading_members_eq {xs ys ms ns : List (String × Json)} (hlength : xs.length = ys.length)
    (hxs : ∀ m ∈ xs, Plain m.2) (hys : ∀ m ∈ ys, Plain m.2)
    (h : (object (xs ++ ms)).compact = (object (ys ++ ns)).compact) : xs = ys := by
  cases xs with
  | nil => exact (List.length_eq_zero_iff.1 hlength.symm).symm
  | cons x xs =>
    cases ys with
    | nil => cases hlength
    | cons y ys =>
      obtain ⟨cs, hcs, htext⟩ := exists_toList_compact_object x (xs ++ ms)
      obtain ⟨cs', hcs', htext'⟩ := exists_toList_compact_object y (ys ++ ns)
      rw [List.cons_append, List.cons_append, ← String.toList_inj, hcs, hcs', List.cons.injEq] at h
      rw [h.2, htext', ← List.cons_append, ← List.cons_append, List.flatMap_append,
        List.flatMap_append, List.append_assoc, List.append_assoc] at htext
      have hclose (ms : List (String × Json)) :
          Delimited ((ms.flatMap fun m => ',' :: compactMember m) ++ ['\x7d']) := by
        cases ms <;> simp [Delimited]
      exact (telling_plain.keyed [':']).row hlength hxs hys (hclose ms) (hclose ns) htext.symm

/-! ## Lines -/

section
variable {α : Type} {P : α → Prop} {line : α → List Char} {close : Char} {indent : Nat}
  {blanks blanks' : List Char} {xs ys : List α}

theorem isBlank_close (hclose : close = ']' ∨ close = '\x7d') : isBlank close = false := by
  obtain rfl | rfl := hclose <;> rfl

/-- A comma or the line itself comes before the closing bracket. -/
theorem linesText_cons_ne_close (hclose : close = ']' ∨ close = '\x7d') {x : α}
    (hstart : ∃ c cs, line x = c :: cs ∧ isBlank c = false ∧ c ≠ close) (first : Bool)
    (hblanks : ∀ c ∈ blanks, isBlank c = true) :
    linesText indent line first (x :: xs) ++ rest ≠ blanks ++ close :: rest' := by
  obtain ⟨c, cs, hcs, hc, hne⟩ := hstart
  intro h
  have hdrop := congrArg (List.dropWhile isBlank) h
  rw [dropWhile_isBlank_append hblanks (isBlank_close hclose), linesText, hcs] at hdrop
  simp only [List.append_assoc, List.cons_append] at hdrop
  cases first with
  | true =>
    rw [comma, if_pos rfl, List.nil_append, dropWhile_isBlank_append (isBlank_newline indent) hc,
      List.cons.injEq] at hdrop
    exact hne hdrop.1
  | false =>
    rw [comma, if_neg (by decide), List.singleton_append, List.dropWhile_cons_of_neg (by decide),
      List.cons.injEq] at hdrop
    obtain rfl | rfl := hclose <;> exact absurd hdrop.1 (by decide)

/-- Lines can be told one after the other, up to the closing bracket. -/
theorem Telling.lines (h : Telling P line) (hclose : close = ']' ∨ close = '\x7d')
    (hstart : ∀ x, P x → ∃ c cs, line x = c :: cs ∧ isBlank c = false ∧ c ≠ close)
    (hxs : ∀ x ∈ xs, P x) (hys : ∀ y ∈ ys, P y) (first : Bool)
    (hblanks : ∀ c ∈ blanks, isBlank c = true) (hblanks' : ∀ c ∈ blanks', isBlank c = true)
    (heq : linesText indent line first xs ++ (blanks ++ close :: rest) =
      linesText indent line first ys ++ (blanks' ++ close :: rest')) : xs = ys ∧ rest = rest' := by
  induction xs generalizing ys first with
  | nil =>
    cases ys with
    | nil =>
      have hdrop := congrArg (List.dropWhile isBlank) heq
      simp only [linesText, List.nil_append] at hdrop
      rw [dropWhile_isBlank_append hblanks (isBlank_close hclose),
        dropWhile_isBlank_append hblanks' (isBlank_close hclose), List.cons.injEq] at hdrop
      exact ⟨rfl, hdrop.2⟩
    | cons y ys =>
      rw [List.forall_mem_cons] at hys
      exact absurd heq.symm (linesText_cons_ne_close hclose (hstart y hys.1) first hblanks)
  | cons x xs ih =>
    rw [List.forall_mem_cons] at hxs
    cases ys with
    | nil => exact absurd heq (linesText_cons_ne_close hclose (hstart x hxs.1) first hblanks')
    | cons y ys =>
      rw [List.forall_mem_cons] at hys
      simp only [linesText, List.append_assoc, List.append_cancel_left_eq] at heq
      have hnext : Delimited (linesText indent line false xs ++ (blanks ++ close :: rest)) :=
        (delimited_close hclose hblanks rest).linesText _ _ _
      have hnext' : Delimited (linesText indent line false ys ++ (blanks' ++ close :: rest')) :=
        (delimited_close hclose hblanks' rest').linesText _ _ _
      obtain ⟨rfl, hothers⟩ := h hxs.1 hys.1 hnext hnext' heq
      obtain ⟨rfl, hrest⟩ := ih hxs.2 hys.2 false hothers
      exact ⟨rfl, hrest⟩

end

section
variable {P : Json → Prop} {indent : Nat}

theorem Telling.array (h : Telling P (itemLine (indent + 1))) (hstart : ∀ v, P v → v.Starts) :
    Telling (fun v => ∃ vs, v = .array vs ∧ ∀ x ∈ vs, P x) (itemLine indent) := by
  rintro _ _ ⟨vs, rfl, hvs⟩ ⟨ws, rfl, hws⟩ rest rest' - - heq
  obtain ⟨blanks, hblanks, htext⟩ := toList_indented_array indent vs
  obtain ⟨blanks', hblanks', htext'⟩ := toList_indented_array indent ws
  rw [itemLine, itemLine, htext, htext'] at heq
  simp only [List.cons_append, List.append_assoc, List.nil_append, List.cons.injEq, true_and] at heq
  have hlines := h.lines (.inl rfl) (fun v hv => hstart v hv _) hvs hws true hblanks hblanks' heq
  exact hlines.imp_left (congrArg Json.array)

theorem Telling.object (h : Telling P (itemLine (indent + 1))) :
    Telling (fun v => ∃ ms, v = .object ms ∧ ∀ m ∈ ms, P m.2) (itemLine indent) := by
  rintro _ _ ⟨ms, rfl, hms⟩ ⟨ns, rfl, hns⟩ rest rest' - - heq
  obtain ⟨blanks, hblanks, htext⟩ := toList_indented_object indent ms
  obtain ⟨blanks', hblanks', htext'⟩ := toList_indented_object indent ns
  have hstart (m : String × Json) : ∃ c cs, memberLine (indent + 1) m = c :: cs ∧
      isBlank c = false ∧ c ≠ '\x7d' :=
    ⟨'"', _, by rw [memberLine, toList_quote, List.cons_append], rfl, by decide⟩
  rw [itemLine, itemLine, htext, htext'] at heq
  simp only [List.cons_append, List.append_assoc, List.nil_append, List.cons.injEq, true_and] at heq
  have hmember : Telling (fun m : String × Json => P m.2) (memberLine (indent + 1)) :=
    h.keyed [':', ' ']
  have hlines :=
    hmember.lines (.inr rfl) (fun m _ => hstart m) hms hns true hblanks hblanks' heq
  exact hlines.imp_left (congrArg Json.object)

end

end AnchorLayout.Json
