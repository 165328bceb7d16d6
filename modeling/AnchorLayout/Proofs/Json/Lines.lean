import AnchorLayout.Log
import Mathlib.Tactic.SplitIfs

/-!
# Events on lines of their own

The compact text of a value holds no line feed, whatever its strings and keys hold: the escape of a
character is on one line, and so are numbers of both kinds. The text of an event therefore ends at
the first line feed behind it.
-/

namespace AnchorLayout

/-! ## Numbers -/

@[simp] theorem lineFeed_notMem_toDigits (n : Nat) : '\n' ∉ Nat.toDigits 10 n := by
  intro h
  have hdigit : Char.isDigit '\n' = true := Nat.isDigit_of_mem_toDigits (by omega) (by omega) h
  simp at hdigit

@[simp] theorem lineFeed_notMem_repr (n : Int) : '\n' ∉ n.repr.toList := by
  cases n with
  | ofNat n =>
    have htext : (Int.ofNat n).repr = n.repr := rfl
    rw [htext, Nat.toList_repr]
    exact lineFeed_notMem_toDigits n
  | negSucc n =>
    have htext : (Int.negSucc n).repr = "-" ++ (n + 1).repr := rfl
    simp [htext]

namespace Decimal

/-- Digits keep to their line in every style whose marks do. -/
theorem Style.lineFeed_notMem_write {l : Style} (hmark : '\n' ∉ l.exponentMark.toList)
    (hplus : '\n' ∉ l.plusSign.toList) (hsuffix : '\n' ∉ l.integralSuffix.toList) (count : Nat)
    (exponent : Int) : '\n' ∉ (l.write count exponent).toList := by
  have htake (n : Nat) : '\n' ∉ (Nat.toDigits 10 count).take n := fun h =>
    lineFeed_notMem_toDigits count (List.mem_of_mem_take h)
  have hdrop (n : Nat) : '\n' ∉ (Nat.toDigits 10 count).drop n := fun h =>
    lineFeed_notMem_toDigits count (List.mem_of_mem_drop h)
  have htail : '\n' ∉ (Nat.toDigits 10 count).tail := by simpa using hdrop 1
  simp only [write]
  split_ifs <;> simp [htake, hdrop, htail, hmark, hplus, hsuffix]

@[simp] theorem Number.lineFeed_notMem_text (n : Number) : '\n' ∉ n.text.toList := by
  cases n with
  | integer n => exact lineFeed_notMem_repr n
  | floating x =>
    have hwrite (count : Nat) (exponent : Int) : '\n' ∉ (numberStyle.write count exponent).toList :=
      Style.lineFeed_notMem_write (by decide) (by decide) (by decide) count exponent
    cases hsign : x.isNegative <;> simp [text, Binary64.text, Style.text, hsign, hwrite]

end Decimal

/-! ## Strings and values -/

namespace Json

@[simp] theorem lineFeed_notMem_escapeChar (c : Char) : '\n' ∉ (escapeChar c).toList := by
  by_cases hfeed : c = '\n'
  · subst hfeed
    decide
  · unfold escapeChar
    split_ifs <;> simp [Ne.symm hfeed]

@[simp] theorem lineFeed_notMem_quote (s : String) : '\n' ∉ (quote s).toList := by
  simp [quote]

mutual

@[simp] theorem lineFeed_notMem_compact : ∀ v : Json, '\n' ∉ v.compact.toList
  | null => by simp [compact]
  | boolean b => by cases b <;> simp [compact, boolText]
  | number n => by simp [compact]
  | string s => by simp [compact]
  | array items => by simp [compact, lineFeed_notMem_compactItems items]
  | object members => by simp [compact, lineFeed_notMem_compactMembers members]

theorem lineFeed_notMem_compactItems : ∀ items : List Json, '\n' ∉ (compactItems items).toList
  | [] => by simp [compactItems]
  | [v] => by simpa [compactItems] using lineFeed_notMem_compact v
  | v :: w :: rest => by
    simp [compactItems, lineFeed_notMem_compact v, lineFeed_notMem_compactItems (w :: rest)]

theorem lineFeed_notMem_compactMembers :
    ∀ members : List (String × Json), '\n' ∉ (compactMembers members).toList
  | [] => by simp [compactMembers]
  | [(k, v)] => by simp [compactMembers, lineFeed_notMem_compact v]
  | (k, v) :: m :: rest => by
    simp [compactMembers, lineFeed_notMem_compact v, lineFeed_notMem_compactMembers (m :: rest)]

end

end Json

@[simp] theorem Event.lineFeed_notMem_line (e : Event) : '\n' ∉ e.line.toList :=
  Json.lineFeed_notMem_compact _

end AnchorLayout
