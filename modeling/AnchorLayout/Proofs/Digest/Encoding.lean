import AnchorLayout.Resolved
import Mathlib.Algebra.Ring.Nat

/-!
# What is hashed

The bytes that are hashed determine what they encode: a number of known width, a frame, a list of
frames, and a text. Only the bytes of a text have no known length; a zero byte stands in them exactly
for the character zero.
-/

namespace AnchorLayout

/-! ## Numbers and frames -/

/-- Numbers below `256 ^ n` differ in their lowest `n` bytes. -/
theorem lowBytes_inj {n a b : Nat} (ha : a < 256 ^ n) (hb : b < 256 ^ n)
    (h : lowBytes n a = lowBytes n b) : a = b := by
  induction n generalizing a b with
  | zero => omega
  | succ n ih =>
    rw [lowBytes, lowBytes, List.cons.injEq] at h
    have hlow : a % 256 = b % 256 := by
      have hbyte := congrArg UInt8.toNat h.1
      simp only [UInt8.toNat_ofNat'] at hbyte
      omega
    have hhigh : a / 256 = b / 256 := by
      apply ih _ _ h.2 <;> rw [Nat.pow_succ] at * <;> omega
    omega

theorem Coord.bytes_inj {a b : Coord} (h : a.bytes = b.bytes) : a = b := by
  have hlower := a.lower
  have hupper := a.upper
  have hlower' := b.lower
  have hupper' := b.upper
  have hval : (a.val % 4294967296).toNat = (b.val % 4294967296).toNat :=
    lowBytes_inj (by omega) (by omega) h
  apply Coord.ext
  omega

@[simp] theorem Coord.length_bytes (c : Coord) : c.bytes.length = 4 := length_lowBytes 4 _

theorem Frame.bytes_inj {f g : Frame Coord} (h : f.bytes = g.bytes) : f = g := by
  obtain ⟨h, hbottom⟩ := List.append_inj' h (by simp)
  obtain ⟨h, hright⟩ := List.append_inj' h (by simp)
  obtain ⟨hleft, htop⟩ := List.append_inj' h (by simp)
  cases f
  cases g
  rw [Frame.mk.injEq]
  exact ⟨Coord.bytes_inj hleft, Coord.bytes_inj htop, Coord.bytes_inj hright,
    Coord.bytes_inj hbottom⟩

/-- Codes of one positive length can be told apart in a row. -/
theorem flatMap_inj_of_length {β γ : Type} {f : β → List γ} {n : Nat} (hn : 0 < n)
    (hlength : ∀ x, (f x).length = n) (hf : Function.Injective f) {xs ys : List β}
    (h : xs.flatMap f = ys.flatMap f) : xs = ys := by
  induction xs generalizing ys with
  | nil =>
    cases ys with
    | nil => rfl
    | cons y ys =>
      have hzero := congrArg List.length h
      simp only [List.flatMap_nil, List.length_nil, List.flatMap_cons, List.length_append,
        hlength] at hzero
      omega
  | cons x xs ih =>
    cases ys with
    | nil =>
      have hzero := congrArg List.length h
      simp only [List.flatMap_nil, List.length_nil, List.flatMap_cons, List.length_append,
        hlength] at hzero
      omega
    | cons y ys =>
      rw [List.flatMap_cons, List.flatMap_cons] at h
      obtain ⟨hhead, htail⟩ := List.append_inj h (by rw [hlength, hlength])
      rw [hf hhead, ih htail]

/-- What the digest is taken of determines the frames. -/
theorem Resolved.digestInput_inj {r s : Resolved Coord} :
    r.digestInput = s.digestInput ↔ r.frames = s.frames := by
  constructor
  · intro h
    obtain ⟨-, hframes⟩ := List.append_inj h (by simp)
    exact flatMap_inj_of_length (by decide) Frame.length_bytes (fun _ _ => Frame.bytes_inj) hframes
  · intro h
    have hlength : r.length = s.length := by
      simpa [Resolved.frames, Resolved.length] using congrArg List.length h
    rw [digestInput, digestInput, h, hlength]

/-- A hash has 32 bytes. -/
theorem Blake3.length_hash (bytes : List UInt8) : (Blake3.hash bytes).length = 32 := by
  have hword (w : UInt32) : (Blake3.wordBytes w).length = 4 := rfl
  simp [Blake3.hash, List.length_flatMap, hword, List.map_const']

/-! ## Texts -/

theorem toList_loop_eq (bytes : ByteArray) (i : Nat) (done : List UInt8) :
    ByteArray.toList.loop bytes i done = done.reverse ++ bytes.data.toList.drop i := by
  induction i, done using ByteArray.toList.loop.induct bytes with
  | case1 i done hlt ih =>
    have hi : i < bytes.data.toList.length := by simpa using hlt
    rw [ByteArray.toList.loop, if_pos hlt, ih, List.drop_eq_getElem_cons hi]
    simp [ByteArray.get!, hlt]
  | case2 i done hge =>
    have hnil : bytes.data.toList.drop i = [] :=
      List.drop_eq_nil_of_le (by simpa using Nat.le_of_not_lt hge)
    rw [ByteArray.toList.loop, if_neg hge, hnil, List.append_nil]

theorem toList_eq_data_toList (bytes : ByteArray) : bytes.toList = bytes.data.toList := by
  simp [ByteArray.toList, toList_loop_eq]

/-- Texts differ in their bytes. -/
theorem toUTF8_toList_inj {s t : String} : s.toUTF8.toList = t.toUTF8.toList ↔ s = t := by
  refine ⟨fun h => ?_, fun h => congrArg (·.toUTF8.toList) h⟩
  rw [toList_eq_data_toList, toList_eq_data_toList, Array.toList_inj] at h
  exact String.toByteArray_inj.1 (ByteArray.ext h)

theorem toUTF8_toList (s : String) : s.toUTF8.toList = s.toList.flatMap String.utf8EncodeChar := by
  have hencode : s.toUTF8 = s.toList.utf8Encode := by
    rw [String.toUTF8_eq_toByteArray, ← String.toByteArray_ofList, String.ofList_toList]
  rw [toList_eq_data_toList, hencode]
  exact List.toList_data_toByteArray

theorem toUTF8_toList_append (s t : String) :
    (s ++ t).toUTF8.toList = s.toUTF8.toList ++ t.toUTF8.toList := by
  rw [toUTF8_toList, toUTF8_toList, toUTF8_toList, String.toList_append, List.flatMap_append]

theorem length_toUTF8_toList (s : String) : s.toUTF8.toList.length = s.utf8ByteSize := by
  rw [toList_eq_data_toList]
  rfl

/-- A zero byte encodes the character zero, and is in the code of no other. -/
theorem zero_mem_utf8EncodeChar_iff {c : Char} : 0 ∈ String.utf8EncodeChar c ↔ c = '\x00' := by
  -- The bytes of a longer code have their highest bit set.
  have hhigh {n : Nat} (hlow : 128 ≤ n) (hlt : n < 256) : 0 ≠ UInt8.ofNat n := by
    intro h
    have hbyte := congrArg UInt8.toNat h
    rw [UInt8.toNat_ofNat_of_lt' hlt] at hbyte
    simp at hbyte
    omega
  have hchar : c = '\x00' ↔ c.val.toNat = 0 := by
    rw [Char.ext_iff, ← UInt32.toNat_inj]
    rfl
  rw [hchar, String.utf8EncodeChar]
  split
  case isTrue hsmall =>
    rw [List.mem_singleton]
    constructor
    · intro h
      have hbyte := congrArg UInt8.toNat h
      rw [UInt8.toNat_ofNat_of_lt' (Nat.lt_of_le_of_lt hsmall (by decide))] at hbyte
      exact hbyte.symm
    · intro h
      rw [h]
      rfl
  case isFalse hlarge =>
    refine iff_of_false ?_ (by omega)
    split
    · simp only [List.mem_cons, List.not_mem_nil, or_false, not_or]
      exact ⟨hhigh (by omega) (by omega), hhigh (by omega) (by omega)⟩
    · split
      · simp only [List.mem_cons, List.not_mem_nil, or_false, not_or]
        exact ⟨hhigh (by omega) (by omega), hhigh (by omega) (by omega),
          hhigh (by omega) (by omega)⟩
      · simp only [List.mem_cons, List.not_mem_nil, or_false, not_or]
        exact ⟨hhigh (by omega) (by omega), hhigh (by omega) (by omega),
          hhigh (by omega) (by omega), hhigh (by omega) (by omega)⟩

theorem zero_mem_toUTF8_iff {s : String} : 0 ∈ s.toUTF8.toList ↔ '\x00' ∈ s.toList := by
  rw [toUTF8_toList, List.mem_flatMap]
  simp only [zero_mem_utf8EncodeChar_iff, exists_eq_right]

end AnchorLayout
