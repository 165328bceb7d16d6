import AnchorLayout.Json.Reader
import AnchorLayout.Proofs.Json.Lexeme

/-!
# Indented texts are read back

A reader *reads* a value as something, if it gets exactly that from the indented text of the value,
wherever this text stands: at any indentation, after any blanks, and before anything that does not
go on with a number. Readers of scalars read the texts of scalars.
-/

namespace AnchorLayout.Json
namespace Reader
variable {α β σ ρ : Type}

theorem bind_of_eq_ok {read : Reader α} {next : α → Reader β} {depth : Nat} {cs rest : List Char}
    {x : α} (h : read depth cs = .ok (x, rest)) : (read >>= next) depth cs = next x depth rest := by
  change (read depth cs >>= fun p => next p.1 depth p.2) = _
  rw [h]
  rfl

/-- A reader gets something from the text of a value. The brackets of the value are nested to the
given height. -/
def Reads (read : Reader α) (height : Nat) (v : Json) (x : α) : Prop :=
  ∀ depth, height ≤ depth → ∀ indent blanks rest, (∀ c ∈ blanks, isBlank c = true) →
    Delimited rest → read depth (blanks ++ ((v.indented indent).toList ++ rest)) = .ok (x, rest)

section
variable {height : Nat} {v : Json} {depth : Nat} {blanks cs rest : List Char}

theorem Reads.mono {read : Reader α} {x : α} {larger : Nat} (h : Reads read height v x)
    (hle : height ≤ larger) : Reads read larger v x :=
  fun depth hdepth => h depth (hle.trans hdepth)

/-- What is done with a result takes nothing from the text. -/
theorem Reads.bind {read : Reader α} {a : α} (h : Reads read height v a) {next : α → Reader β}
    {x : β} (hnext : ∀ depth cs, next a depth cs = .ok (x, cs)) :
    Reads (read >>= next) height v x := by
  intro depth hdepth indent blanks rest hblanks hrest
  rw [bind_of_eq_ok (h depth hdepth indent blanks rest hblanks hrest), hnext]

/-! ## Lexemes -/

theorem drop_cons (c : Char) : drop depth (c :: cs) = .ok ((), cs) := rfl

theorem next?_eq (hblanks : ∀ c ∈ blanks, isBlank c = true) {c : Char} (hc : isBlank c = false) :
    next? depth (blanks ++ c :: cs) = .ok (some c, c :: cs) := by
  rw [next?, dropWhile_isBlank_append hblanks hc]
  rfl

theorem next_eq (hblanks : ∀ c ∈ blanks, isBlank c = true) {c : Char} (hc : isBlank c = false)
    (part : Part) : next part depth (blanks ++ c :: cs) = .ok (c, c :: cs) := by
  rw [next, bind_of_eq_ok (next?_eq hblanks hc)]
  rfl

theorem next_cons {c : Char} (hc : isBlank c = false) (part : Part) :
    next part depth (c :: cs) = .ok (c, c :: cs) :=
  next_eq (List.forall_mem_nil _) hc part

theorem quoted_eq (s : String) :
    quoted depth ((quote s).toList ++ rest) = .ok (s, rest) := by
  have hread : lexeme readString depth
      (s.toList.flatMap (fun c => (escapeChar c).toList) ++ '"' :: rest) = .ok (s.toList, rest) :=
    readString_quote s rest
  rw [toList_quote, List.cons_append, List.append_assoc]
  change (lexeme readString >>= fun cs => pure (String.ofList cs)) depth
    (s.toList.flatMap (fun c => (escapeChar c).toList) ++ '"' :: rest) = _
  rw [bind_of_eq_ok hread, String.ofList_toList]
  rfl

theorem readLiteral_eq (word : List Char) : readLiteral word (word ++ rest) = .ok rest := by
  induction word with
  | nil => rfl
  | cons c word ih => rw [List.cons_append, readLiteral, if_pos rfl, ih]

theorem literal_eq (c : Char) (word : String) :
    literal word depth (c :: (word.toList ++ rest)) = .ok ((), rest) := by
  change (readLiteral word.toList (word.toList ++ rest)).map ((), ·) = _
  rw [readLiteral_eq]
  rfl

/-- No other value begins with a character with which numbers begin. -/
theorem startsNumber_ne {c : Char} (hc : startsNumber c = true) (other : Char)
    (hother : startsNumber other = false) : c ≠ other := by
  rintro rfl
  rw [hc] at hother
  cases hother

theorem isBlank_of_startsNumber {c : Char} (hc : startsNumber c = true) : isBlank c = false := by
  have hspace := startsNumber_ne hc ' ' rfl
  have hline := startsNumber_ne hc '\n' rfl
  have htab := startsNumber_ne hc '\t' rfl
  have hreturn := startsNumber_ne hc '\r' rfl
  simp [isBlank, hspace, hline, htab, hreturn]

/-- An integer of up to 64 bits is read as a number. -/
theorem numeral_eq {n : Int} (hlower : -9223372036854775808 ≤ n)
    (hupper : n < 18446744073709551616) :
    ∃ c cs, (toString n).toList = c :: cs ∧ startsNumber c = true ∧
      ∀ depth rest, Delimited rest →
        numeral c depth (c :: (cs ++ rest)) = .ok (.integer n, rest) := by
  cases n with
  | ofNat n =>
    obtain ⟨c, cs, hcs, hdigit⟩ := exists_toDigits_eq_cons n
    refine ⟨c, cs, (toList_toString_ofNat n).trans hcs, by simp [startsNumber, hdigit],
      fun depth rest hrest => ?_⟩
    have hminus : c ≠ '-' := by
      rintro rfl
      cases hdigit
    rw [numeral, if_neg hminus, ← List.cons_append, ← hcs]
    have hfits : n < significandLimit := Int.ofNat_lt.1 hupper
    exact readNumber_toDigits hfits hrest false
  | negSucc n =>
    refine ⟨'-', _, toList_toString_negSucc n, rfl, fun depth rest hrest => ?_⟩
    rw [numeral, if_pos rfl]
    change readNumber true (Nat.toDigits 10 (n + 1) ++ rest) = _
    rw [readNumber_toDigits (by simp only [significandLimit]; omega) hrest, integerNumber,
      if_neg (by decide), if_pos (by simp [negativeLimit]; omega)]
    rfl

/-! ## Scalars -/

theorem reads_integer {expected : String} {convert : Int → Option α} {n : Int} {x : α}
    (hconvert : convert n = some x) (hlower : -9223372036854775808 ≤ n)
    (hupper : n < 18446744073709551616) : Reads (integer expected convert) 0 (.ofInt n) x := by
  intro depth _ indent blanks rest hblanks hrest
  obtain ⟨c, cs, hcs, hc, hnumeral⟩ := numeral_eq hlower hupper
  have htext : ((ofInt n).indented indent).toList = c :: cs := hcs
  rw [htext, List.cons_append, integer,
    bind_of_eq_ok (next_eq hblanks (isBlank_of_startsNumber hc) .value)]
  simp only [hc, if_true]
  rw [bind_of_eq_ok (hnumeral depth rest hrest)]
  simp only [hconvert]
  rfl

theorem reads_boolean (b : Bool) : Reads boolean 0 (.boolean b) b := by
  intro depth _ indent blanks rest hblanks _
  cases b with
  | true =>
    have htext : ((Json.boolean true).indented indent).toList = 't' :: "rue".toList := by
      simp [indented, boolText]
    rw [htext, List.cons_append, boolean, bind_of_eq_ok (next_eq hblanks rfl .value), if_pos rfl,
      bind_of_eq_ok (literal_eq 't' "rue")]
    rfl
  | false =>
    have htext : ((Json.boolean false).indented indent).toList = 'f' :: "alse".toList := by
      simp [indented, boolText]
    rw [htext, List.cons_append, boolean, bind_of_eq_ok (next_eq hblanks rfl .value),
      if_neg (by decide), if_pos rfl, bind_of_eq_ok (literal_eq 'f' "alse")]
    rfl

/-- The text of a string begins with its quote. -/
theorem next_quote (hblanks : ∀ c ∈ blanks, isBlank c = true) (s : String) (part : Part) :
    next part depth (blanks ++ ((quote s).toList ++ rest)) =
      .ok ('"', (quote s).toList ++ rest) := by
  rw [toList_quote]
  exact next_eq hblanks rfl part

theorem reads_text (expected s : String) : Reads (text expected) 0 (.string s) s := by
  intro depth _ indent blanks rest hblanks _
  change text expected depth (blanks ++ ((quote s).toList ++ rest)) = _
  rw [text, bind_of_eq_ok (next_quote hblanks s .value), if_pos rfl, quoted_eq]

/-- A value that is there is read. -/
theorem reads_optional {read : Reader String} {s : String} (h : Reads read 0 (.string s) s) :
    Reads (optional read) 0 (.string s) (some s) := by
  intro depth hdepth indent blanks rest hblanks hrest
  have hread := h depth hdepth indent [] rest (by simp) hrest
  change read depth ((quote s).toList ++ rest) = _ at hread
  change optional read depth (blanks ++ ((quote s).toList ++ rest)) = _
  have hnext : next? depth (blanks ++ ((quote s).toList ++ rest)) =
      .ok (some '"', (quote s).toList ++ rest) := by
    rw [toList_quote]
    exact next?_eq hblanks rfl
  rw [optional, bind_of_eq_ok hnext, if_neg (by decide), bind_of_eq_ok hread]
  rfl

theorem reads_choice {known : List α} {name : α → String} {x : α}
    (h : known.find? (name · = name x) = some x) :
    Reads (choice known name) 0 (.string (name x)) x := by
  intro depth _ indent blanks rest hblanks _
  change choice known name depth (blanks ++ ((quote (name x)).toList ++ rest)) = _
  rw [choice, bind_of_eq_ok (next_quote hblanks _ .value), if_pos rfl,
    bind_of_eq_ok (quoted_eq (name x)), variant, h]
  rfl

theorem any_eq : any depth cs = anyWithin depth depth cs := rfl

theorem exists_anyWithin_eq (n : Nat) : ∃ array object, anyWithin n = value array object := by
  cases n with
  | zero => exact ⟨_, _, rfl⟩
  | succ n => exact ⟨_, _, rfl⟩

/-- Strings are read as they are. -/
theorem reads_any_string (s : String) : Reads any 0 (.string s) (.string s) := by
  intro depth _ indent blanks rest hblanks _
  obtain ⟨array, object, hany⟩ := exists_anyWithin_eq depth
  change any depth (blanks ++ ((quote s).toList ++ rest)) = _
  have hfound : found '"' depth ((quote s).toList ++ rest) = .ok (.string s, rest) := by
    rw [found, if_neg (by decide), if_neg (by decide), if_neg (by decide), if_neg (by decide),
      if_pos rfl, bind_of_eq_ok (quoted_eq s)]
    rfl
  rw [any_eq, hany, value, bind_of_eq_ok (next_quote hblanks s .value), bind_of_eq_ok hfound]
  rfl

/-- Integers are read as they are. -/
theorem reads_any_ofInt {n : Int} (hlower : -9223372036854775808 ≤ n)
    (hupper : n < 18446744073709551616) : Reads any 0 (.ofInt n) (.ofInt n) := by
  intro depth _ indent blanks rest hblanks hrest
  obtain ⟨array, object, hany⟩ := exists_anyWithin_eq depth
  obtain ⟨c, cs, hcs, hc, hnumeral⟩ := numeral_eq hlower hupper
  have htext : ((ofInt n).indented indent).toList = c :: cs := hcs
  have hfound : found c depth (c :: (cs ++ rest)) = .ok (.number (.integer n), rest) := by
    rw [found, if_neg (startsNumber_ne hc _ rfl), if_neg (startsNumber_ne hc _ rfl),
      if_neg (startsNumber_ne hc _ rfl), if_pos hc, bind_of_eq_ok (hnumeral depth rest hrest)]
    rfl
  rw [htext, List.cons_append, any_eq, hany, value,
    bind_of_eq_ok (next_eq hblanks (isBlank_of_startsNumber hc) .value), bind_of_eq_ok hfound]
  rfl

end
end Reader
end AnchorLayout.Json
