import AnchorLayout.Proofs.Digest.Encoding
import AnchorLayout.Proofs.Tracking.Runs
import Mathlib.Data.Set.Function

/-!
# What a fingerprint tells apart

A fingerprint covers the frames of a pass, and its labels each ended by a zero byte. Unless the hash
collides, it determines the frames and the bytes of the labels with their ends. Where one label ends
and the next begins is known only if no label holds the character zero: then passes with equal
fingerprints have the same labels and frames, and a tracker skips a pass exactly if nothing changed.
-/

namespace AnchorLayout.Tracker

/-- Labels one after the other, each ended by a zero byte. -/
def ended (labels : List String) : List UInt8 :=
  labels.flatMap fun label => label.toUTF8.toList ++ [0]

/-- What is hashed for a pass: its frames, and then its labels. -/
def hashed (r : Resolved Coord) : List (List UInt8) := [r.digestInput, fingerprintInput r]

/-- No two of the texts that are hashed for two passes have the same hash. -/
def Collisionless (r s : Resolved Coord) : Prop :=
  Set.InjOn Blake3.hash {bytes | bytes ∈ hashed r ++ hashed s}

theorem ended_cons (label : String) (labels : List String) :
    ended (label :: labels) = label.toUTF8.toList ++ 0 :: ended labels := by
  simp [ended]

/-- Each label brings one zero byte, if none holds the character zero. -/
theorem count_ended {labels : List String} :
    labels.length ≤ (ended labels).count 0 ∧
      ((ended labels).count 0 = labels.length ↔ ∀ label ∈ labels, '\x00' ∉ label.toList) := by
  induction labels with
  | nil => simp [ended]
  | cons label labels ih =>
    obtain ⟨hle, hiff⟩ := ih
    have hlabel : label.toUTF8.toList.count 0 = 0 ↔ '\x00' ∉ label.toList := by
      rw [List.count_eq_zero, zero_mem_toUTF8_iff]
    rw [ended_cons, List.count_append, List.count_cons_self, List.length_cons,
      List.forall_mem_cons, ← hlabel, ← hiff]
    omega

/-- What stands before the first occurrence of an end, and what stands after it. -/
theorem append_end_inj {x y z w : List UInt8} (hx : 0 ∉ x) (hy : 0 ∉ y)
    (h : x ++ 0 :: z = y ++ 0 :: w) : x = y ∧ z = w := by
  rcases List.append_eq_append_iff.1 h with ⟨between, rfl, htail⟩ | ⟨between, rfl, htail⟩
  · cases between with
    | nil => exact ⟨(List.append_nil x).symm, (List.cons.inj htail).2⟩
    | cons byte between =>
      obtain ⟨rfl, -⟩ := List.cons.inj htail
      simp at hy
  · cases between with
    | nil => exact ⟨List.append_nil y, (List.cons.inj htail).2.symm⟩
    | cons byte between =>
      obtain ⟨rfl, -⟩ := List.cons.inj htail
      simp at hx

/-- Labels without the character zero are known from their bytes. -/
theorem ended_inj {labels others : List String} (hlabels : ∀ label ∈ labels, '\x00' ∉ label.toList)
    (hothers : ∀ label ∈ others, '\x00' ∉ label.toList) (h : ended labels = ended others) :
    labels = others := by
  induction labels generalizing others with
  | nil =>
    cases others with
    | nil => rfl
    | cons other others => simp [ended] at h
  | cons label labels ih =>
    cases others with
    | nil => simp [ended] at h
    | cons other others =>
      rw [List.forall_mem_cons, ← zero_mem_toUTF8_iff] at hlabels hothers
      rw [ended_cons, ended_cons] at h
      obtain ⟨hhead, htail⟩ := append_end_inj hlabels.1 hothers.1 h
      rw [toUTF8_toList_inj.1 hhead, ih hlabels.2 hothers.2 htail]

/-- It is enough that one of two passes of the same length has no label with the character zero. -/
theorem ended_inj_of_length {labels others : List String} (hlength : labels.length = others.length)
    (hlabels : ∀ label ∈ labels, '\x00' ∉ label.toList) (h : ended labels = ended others) :
    labels = others := by
  refine ended_inj hlabels (count_ended.2.1 ?_) h
  rw [← h, count_ended.2.2 hlabels, hlength]

section
variable {r s : Resolved Coord}

theorem labelled_eq_iff :
    r.labelled = s.labelled ↔ r.labels = s.labels ∧ r.frames = s.frames := by
  have hframes (r : Resolved Coord) : r.labelled.map Prod.snd = r.frames :=
    List.map_snd_zip (by simp [Resolved.labels, Resolved.frames])
  constructor
  · intro h
    exact ⟨by rw [← r.map_fst_labelled, h, s.map_fst_labelled],
      by rw [← hframes r, h, hframes s]⟩
  · rintro ⟨hlabels, hsame⟩
    rw [Resolved.labelled, Resolved.labelled, hlabels, hsame]

theorem fingerprintInput_inj :
    fingerprintInput r = fingerprintInput s ↔ r.digest = s.digest ∧ ended r.labels = ended s.labels := by
  refine ⟨fun h => List.append_inj h ?_, fun ⟨hdigest, hlabels⟩ => ?_⟩
  · rw [Resolved.digest, Resolved.digest, Blake3.length_hash, Blake3.length_hash]
  · exact congrArg₂ (· ++ ·) hdigest hlabels

/-- Without collisions a fingerprint determines the frames and the bytes of the labels, and no
more. -/
theorem fingerprint_eq_iff (hhash : Collisionless r s) :
    fingerprint r = fingerprint s ↔ r.frames = s.frames ∧ ended r.labels = ended s.labels := by
  have hframes : r.digest = s.digest ↔ r.frames = s.frames := by
    rw [← Resolved.digestInput_inj]
    exact hhash.eq_iff (by simp [hashed]) (by simp [hashed])
  rw [← hframes, ← fingerprintInput_inj]
  exact hhash.eq_iff (by simp [hashed]) (by simp [hashed])

/-- A pass is skipped, without any trace, exactly if it has the fingerprint of the last one. -/
theorem observe_eq_self_iff {t : Tracker} :
    t.observe r = (t, []) ↔ t.lastFingerprint = some (fingerprint r) := by
  constructor
  · intro h
    by_contra hprint
    have htracker := congrArg (fun out => out.1.lastFingerprint) h
    rw [observe_eq hprint] at htracker
    exact hprint htracker.symm
  · exact observe_of_eq

theorem lastFingerprint_observe (t : Tracker) (r : Resolved Coord) :
    (t.observe r).1.lastFingerprint = some (fingerprint r) := by
  by_cases h : t.lastFingerprint = some (fingerprint r)
  · rw [observe_of_eq h, h]
  · rw [observe_eq h]

/-- **A fingerprint stands for labels and frames.** Without collisions, and if no label of a pass
holds the character zero, the pass shares its fingerprint exactly with the passes that have the same
labels and frames; these, and no others, are skipped after it. -/
theorem fingerprint_eq_iff_labelled_eq (hhash : Collisionless r s)
    (hzero : ∀ label ∈ r.labels, '\x00' ∉ label.toList) :
    (fingerprint r = fingerprint s ↔ r.labelled = s.labelled) ∧
      ∀ t : Tracker, t.lastFingerprint = some (fingerprint r) →
        (t.observe s = (t, []) ↔ r.labelled = s.labelled) := by
  have hprint : fingerprint r = fingerprint s ↔ r.labelled = s.labelled := by
    rw [fingerprint_eq_iff hhash, labelled_eq_iff, and_comm]
    refine and_congr_left fun hframes => ⟨fun h => ?_, fun h => congrArg ended h⟩
    have hlength : r.labels.length = s.labels.length := by
      simpa [Resolved.labels, Resolved.frames] using congrArg List.length hframes
    exact ended_inj_of_length hlength hzero h
  refine ⟨hprint, fun t ht => ?_⟩
  rw [observe_eq_self_iff, ht, Option.some.injEq, hprint]

end

theorem collisionless_samplePasses : Collisionless samplePasses.1 samplePasses.2 := by
  have hfirst : samplePasses.1.digest = _ := Blake3.hash_of_length_le (by decide)
  have hsecond : samplePasses.2.digest = _ := Blake3.hash_of_length_le (by decide)
  have hnodup : ([samplePasses.1.digestInput, fingerprintInput samplePasses.1,
      samplePasses.2.digestInput, fingerprintInput samplePasses.2].map Blake3.hash).Nodup := by
    rw [fingerprintInput, fingerprintInput, hfirst, hsecond]
    simp only [List.map_cons, List.map_nil]
    rw [Blake3.hash_of_length_le (by decide), Blake3.hash_of_length_le (by decide +kernel),
      Blake3.hash_of_length_le (by decide), Blake3.hash_of_length_le (by decide +kernel)]
    decide +kernel
  exact fun x hx y hy h => List.inj_on_of_nodup_map hnodup hx hy h

/-- The passes over the form have different fingerprints, so the second is not skipped. -/
theorem fingerprint_eq_iff_labelled_eq_samplePasses :
    Collisionless samplePasses.1 samplePasses.2 ∧
      (∀ label ∈ samplePasses.1.labels, '\x00' ∉ label.toList) ∧
      fingerprint samplePasses.1 ≠ fingerprint samplePasses.2 := by
  have hzero : ∀ label ∈ samplePasses.1.labels, '\x00' ∉ label.toList := by decide +kernel
  refine ⟨collisionless_samplePasses, hzero, fun h => ?_⟩
  have hlabelled := (fingerprint_eq_iff_labelled_eq collisionless_samplePasses hzero).1.1 h
  exact absurd hlabelled (by decide +kernel)

/-- Two elements of given names. -/
def namedPair (first second : String) : Layout Coord :=
  { Layout.ofSize ⟨.clamp 20, .clamp 10⟩ with
    elements :=
      [⟨first, { width := .exact (.clamp 4), height := .exact (.clamp 2), margin := .none }⟩,
       ⟨second, { width := .exact (.clamp 6), height := .exact (.clamp 3), margin := .none }⟩] }

/-- The elements as they are placed. -/
def placedPair (first second : String) : Resolved Coord where
  elements :=
    [⟨⟨.clamp 0, .clamp 0, .clamp 4, .clamp 2⟩, first, .visible⟩,
     ⟨⟨.clamp 0, .clamp 0, .clamp 6, .clamp 3⟩, second, .visible⟩]
  order := [0, 1]

/-- The zero character that belongs to the first name of one pass and to the second of the other ends
a label in both: the frames are the same, and so are the bytes that are hashed. -/
theorem hashed_placedPair :
    hashed (placedPair "a" "b\x00c") = hashed (placedPair "a\x00b" "c") := by
  have hdigest : (placedPair "a" "b\x00c").digestInput = (placedPair "a\x00b" "c").digestInput := by
    decide +kernel
  have hended : ended (placedPair "a" "b\x00c").labels = ended (placedPair "a\x00b" "c").labels := by
    decide +kernel
  rw [hashed, hashed, fingerprintInput_inj.2 ⟨congrArg Blake3.hash hdigest, hended⟩, hdigest]

theorem collisionless_placedPair :
    Collisionless (placedPair "a\x00b" "c") (placedPair "a" "b\x00c") := by
  have hdigest : (placedPair "a\x00b" "c").digest = _ := Blake3.hash_of_length_le (by decide)
  have hnodup : ((hashed (placedPair "a\x00b" "c")).map Blake3.hash).Nodup := by
    rw [hashed, fingerprintInput, hdigest]
    simp only [List.map_cons, List.map_nil]
    rw [Blake3.hash_of_length_le (by decide), Blake3.hash_of_length_le (by decide +kernel)]
    decide +kernel
  intro x hx y hy h
  rw [hashed_placedPair, Set.mem_ofPred_eq, List.mem_append, or_self] at hx hy
  exact List.inj_on_of_nodup_map hnodup hx hy h

/-- Without any collision a pass that changes two names is taken for the one before, and a tracker
reports no change. -/
theorem fingerprint_not_inj_namedPair :
    (namedPair "a\x00b" "c").resolve = .ok (placedPair "a\x00b" "c") ∧
      (namedPair "a" "b\x00c").resolve = .ok (placedPair "a" "b\x00c") ∧
      Collisionless (placedPair "a\x00b" "c") (placedPair "a" "b\x00c") ∧
      fingerprint (placedPair "a\x00b" "c") = fingerprint (placedPair "a" "b\x00c") ∧
      (placedPair "a\x00b" "c").labelled ≠ (placedPair "a" "b\x00c").labelled ∧
      ∀ t : Tracker,
        ((t.observe (placedPair "a\x00b" "c")).1.observe (placedPair "a" "b\x00c")).2 = [] := by
  have hprint : fingerprint (placedPair "a\x00b" "c") = fingerprint (placedPair "a" "b\x00c") := by
    have hinput := List.cons.inj (List.cons.inj hashed_placedPair).2
    exact congrArg Blake3.hash hinput.1.symm
  refine ⟨by decide +kernel, by decide +kernel, collisionless_placedPair, hprint,
    by decide +kernel, fun t => ?_⟩
  rw [observe_of_eq (by rw [lastFingerprint_observe, hprint])]

end AnchorLayout.Tracker
