import AnchorLayout.Json.Basic
import AnchorLayout.Json.Lexeme
import Mathlib.Data.Nat.Digits.Defs

/-!
# Strings and integers are read back

The text of a string is read as that string, with all its characters, and the text of an integer as
that integer, if nothing follows that would go on with the number.
-/

namespace AnchorLayout.Json
open Decimal (Number)

/-! ## Strings -/

theorem hexUnit?_control : ∀ n < 32,
    hexUnit? '0' '0' (Nat.digitChar (n / 16)) (Nat.digitChar (n % 16)) = some n := by
  decide

/-- An escaped character is read as the character. -/
theorem readString_escapeChar (c : Char) (cs : List Char) :
    readString ((escapeChar c).toList ++ cs) = prepend c (readString cs) := by
  by_cases hshort : c ∈ ['"', '\\', '\n', '\r', '\t', '\x08', '\x0C']
  · simp only [List.mem_cons, List.not_mem_nil, or_false] at hshort
    obtain rfl | rfl | rfl | rfl | rfl | rfl | rfl := hshort <;>
      simp [escapeChar, readString, shortEscape?]
  · simp only [List.mem_cons, List.not_mem_nil, or_false, not_or] at hshort
    simp only [escapeChar, hshort, if_false]
    split
    case isTrue hcontrol =>
      have hunit := hexUnit?_control c.toNat hcontrol
      have htrailing : isTrailing c.toNat = false := by
        simp [isTrailing]; omega
      have hleading : isLeading c.toNat = false := by
        simp [isLeading]; omega
      simp [readString, hunit, htrailing, hleading]
    case isFalse hprintable =>
      simp [readString, hshort, hprintable]

/-- The text of a string, after its opening quote, is read as the string. -/
theorem readString_quote (s : String) (rest : List Char) :
    readString (s.toList.flatMap (fun c => (escapeChar c).toList) ++ '"' :: rest) =
      .ok (s.toList, rest) := by
  generalize s.toList = cs
  induction cs with
  | nil => rfl
  | cons c cs ih =>
    rw [List.flatMap_cons, List.append_assoc, readString_escapeChar, ih]
    rfl

theorem toList_quote (s : String) :
    (quote s).toList = '"' :: (s.toList.flatMap (fun c => (escapeChar c).toList) ++ ['"']) := by
  simp [quote, List.flatMap_map]

/-! ## Blanks -/

theorem dropWhile_isBlank_append {blanks cs : List Char} {c : Char}
    (hblanks : ∀ c ∈ blanks, isBlank c = true) (hc : isBlank c = false) :
    (blanks ++ c :: cs).dropWhile isBlank = c :: cs := by
  rw [List.dropWhile_append_of_pos hblanks, List.dropWhile_cons_of_neg (by simp [hc])]

/-! ## Integers -/

theorem toList_toString_ofNat (n : Nat) : (toString (Int.ofNat n)).toList = Nat.toDigits 10 n :=
  Nat.toList_repr

theorem toList_toString_negSucc (n : Nat) :
    (toString (Int.negSucc n)).toList = '-' :: Nat.toDigits 10 (n + 1) := by
  change ("-" ++ (n + 1).repr).toList = _
  rw [String.toList_append, Nat.toList_repr]
  rfl

theorem exists_toDigits_eq_cons (n : Nat) :
    ∃ c cs, Nat.toDigits 10 n = c :: cs ∧ c.isDigit = true := by
  cases hcs : Nat.toDigits 10 n with
  | nil => exact absurd hcs Nat.toDigits_ne_nil
  | cons c cs =>
    exact ⟨c, cs, rfl, Nat.isDigit_of_mem_toDigits (by omega) (by omega) (hcs ▸ List.mem_cons_self)⟩

/-- Nothing that goes on with a number comes next. -/
def Delimited (rest : List Char) : Prop :=
  ∀ c ∈ rest.head?, c.isDigit = false ∧ c ≠ '.' ∧ c ≠ 'e' ∧ c ≠ 'E'

theorem le_ofDigitChars (digits : List Char) (init : Nat) :
    init ≤ Nat.ofDigitChars 10 digits init := by
  rw [Nat.ofDigitChars_eq_ofDigitChars_zero]
  have hle := Nat.le_mul_of_pos_left init (Nat.pow_pos (n := digits.length) (show 0 < 10 by omega))
  omega

/-- Digits of a number that fits are all taken into the significand. -/
theorem addDigits_eq {significand : Nat} {digits : List Char}
    (h : Nat.ofDigitChars 10 digits significand < significandLimit) :
    addDigits significand digits = (Nat.ofDigitChars 10 digits significand, []) := by
  induction digits generalizing significand with
  | nil => rfl
  | cons d digits ih =>
    rw [Nat.ofDigitChars_cons] at h ⊢
    have hfits := (le_ofDigitChars digits _).trans_lt h
    simp only [addDigits, if_pos hfits, ih h]

theorem digitChar_eq_zero : ∀ n < 10, Nat.digitChar n = '0' → n = 0 := by decide

/-- Only zero has a leading zero. -/
theorem eq_zero_of_toDigits {n : Nat} {cs : List Char} (h : Nat.toDigits 10 n = '0' :: cs) :
    n = 0 := by
  induction n using Nat.strong_induction_on generalizing cs with
  | _ n ih =>
    by_cases hn : n < 10
    · rw [Nat.toDigits_of_lt_base hn] at h
      exact digitChar_eq_zero n hn (List.cons.inj h).1
    · rw [Nat.toDigits_of_base_le (by omega) (by omega)] at h
      cases hdigits : Nat.toDigits 10 (n / 10) with
      | nil => exact absurd hdigits Nat.toDigits_ne_nil
      | cons d ds =>
        rw [hdigits, List.cons_append] at h
        have hzero := ih (n / 10) (by omega) (hdigits.trans (by rw [(List.cons.inj h).1]))
        omega

/-- What follows the digits of an integer decides that it is one. -/
theorem readNumber_toDigits {n : Nat} (hn : n < significandLimit) {rest : List Char}
    (hrest : Delimited rest) (negative : Bool) :
    readNumber negative (Nat.toDigits 10 n ++ rest) =
      (integerNumber negative n).map (·, rest) := by
  have hadd : addDigits 0 (Nat.toDigits 10 n) = (n, []) := by
    have hvalue : Nat.ofDigitChars 10 (Nat.toDigits 10 n) 0 = n := Nat.ofDigitChars_ten_toDigits
    rw [addDigits_eq (by rwa [hvalue]), hvalue]
  have hdigits : ∀ c ∈ Nat.toDigits 10 n, c.isDigit = true := fun c hc =>
    Nat.isDigit_of_mem_toDigits (by omega) (by omega) hc
  -- Each part of the form of a number looks at no more than one character of the rest.
  obtain ⟨hnext, htakeRest, hdropRest, hexponent, hpoint⟩ :
      rest.head?.any Char.isDigit = false ∧ rest.takeWhile Char.isDigit = [] ∧
        rest.dropWhile Char.isDigit = rest ∧
        (rest.head?.any fun c => c = 'e' || c = 'E') = false ∧ ∀ cs, rest ≠ '.' :: cs := by
    cases rest with
    | nil => simp
    | cons c rest => simp [hrest c rfl]
  cases hcs : Nat.toDigits 10 n with
  | nil => exact absurd hcs Nat.toDigits_ne_nil
  | cons c cs =>
    rw [hcs] at hadd hdigits
    have hform :
        (!c.isDigit || (decide (c = '0') && (cs ++ rest).head?.any Char.isDigit)) = false ∧
        (if c = '0' then [c] else (c :: (cs ++ rest)).takeWhile Char.isDigit) = c :: cs ∧
        (if c = '0' then cs ++ rest else (c :: (cs ++ rest)).dropWhile Char.isDigit) = rest := by
      by_cases hc : c = '0'
      · obtain rfl : cs = [] := by
          rw [hc] at hcs
          rw [eq_zero_of_toDigits hcs, Nat.toDigits_zero] at hcs
          exact (List.cons.inj hcs).2.symm
        simp [hc, hnext]
      · rw [← List.cons_append, List.takeWhile_append_of_pos hdigits,
          List.dropWhile_append_of_pos hdigits, htakeRest, hdropRest]
        simp [hc, hdigits c List.mem_cons_self]
    simp only [List.cons_append, readNumber, hform, hadd]
    rw [if_neg (by simp), if_pos (by simp [hexponent])]
    cases integerNumber negative n <;> rfl

end AnchorLayout.Json
