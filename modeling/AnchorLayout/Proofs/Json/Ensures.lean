import AnchorLayout.Json.Reader

/-!
# What readers ensure

A reader *ensures* a property, if all that it gets from any text has it. Readers that fail ensure
everything. Lists ensure of each item what the reader of items ensures, and records ensure what
follows from an invariant that no member breaks, in whatever order and form they are read.
-/

namespace AnchorLayout.Json.Reader
variable {α β σ ρ : Type}

/-- Whatever a reader gets from a text has a property. -/
def Ensures (read : Reader α) (P : α → Prop) : Prop :=
  ∀ depth cs x rest, read depth cs = .ok (x, rest) → P x

section
variable {read : Reader α} {next : α → Reader β} {P : α → Prop} {Q : β → Prop}

theorem ensures_pure {x : α} (h : P x) : Ensures (pure x) P := by
  rintro depth cs _ _ ⟨⟩
  exact h

theorem ensures_throw (fault : Fault) : Ensures (throw fault) P := by
  rintro depth cs x rest ⟨⟩

theorem Ensures.bind (h : Ensures read P) (hnext : ∀ x, P x → Ensures (next x) Q) :
    Ensures (read >>= next) Q := by
  intro depth cs y rest hy
  change (read depth cs >>= fun p => next p.1 depth p.2) = _ at hy
  cases hread : read depth cs with
  | error fault =>
    rw [hread] at hy
    cases hy
  | ok p =>
    rw [hread] at hy
    exact hnext p.1 (h depth cs p.1 p.2 hread) depth p.2 y rest hy

/-- What is read first may not matter. -/
theorem ensures_bind (hnext : ∀ x, Ensures (next x) Q) : Ensures (read >>= next) Q :=
  Ensures.bind (P := fun _ => True) (fun _ _ _ _ _ => trivial) fun x _ => hnext x

theorem Ensures.nested (h : Ensures read P) : Ensures (nested read) P := by
  intro depth cs x rest hx
  cases depth with
  | zero => cases hx
  | succ depth => exact h depth cs x rest hx

theorem ensures_mismatch (c : Char) (expected : String) :
    Ensures (mismatch c expected : Reader α) P :=
  ensures_bind fun _ => ensures_throw _

/-! ## Lists -/

theorem Ensures.items (h : Ensures read P) (n : Nat) (first : Bool) :
    Ensures (items read n first) fun xs => ∀ x ∈ xs, P x := by
  induction n generalizing first with
  | zero => exact ensures_pure (by simp)
  | succ n ih =>
    refine ensures_bind fun more => ?_
    split
    · refine h.bind fun x hx => (ih false).bind fun xs hxs => ensures_pure ?_
      exact List.forall_mem_cons.2 ⟨hx, hxs⟩
    · exact ensures_pure (by simp)

theorem Ensures.list (h : Ensures read P) : Ensures (list read) fun xs => ∀ x ∈ xs, P x := by
  refine ensures_bind fun c => ?_
  split
  · refine Ensures.nested (ensures_bind fun _ => ensures_bind fun n => ?_)
    exact (h.items n true).bind fun xs hxs => ensures_bind fun _ => ensures_pure hxs
  · exact ensures_mismatch _ _

end

/-! ## Records -/

section
variable {known : List (Member σ)} {I : σ → Prop} {s : σ}

theorem ensures_positional (h : ∀ m ∈ known, ∀ s, I s → Ensures (m.read s) I) (count : Nat)
    (hs : I s) : Ensures (positional known count s) fun p => I p.1 := by
  induction known generalizing count s with
  | nil => exact ensures_pure hs
  | cons m known ih =>
    rw [List.forall_mem_cons] at h
    refine ensures_bind fun more => ?_
    split
    · exact (h.1 s hs).bind fun s' hs' => ih h.2 (count + 1) hs'
    · exact ensures_pure hs

theorem ensures_keyed (h : ∀ m ∈ known, ∀ s, I s → Ensures (m.read s) I) (hs : I s) (k : String) :
    Ensures (keyed known s k) I := by
  rw [keyed]
  split
  case h_1 m hfind =>
    have hread : Ensures (do colon; m.read s) I :=
      ensures_bind fun _ => h m (List.mem_of_find?_eq_some hfind) s hs
    dsimp only
    split
    · exact ensures_bind fun _ => hread
    · exact hread
  case h_2 => exact ensures_bind fun _ => ensures_bind fun _ => ensures_pure hs

theorem ensures_members {step : σ → String → Reader σ}
    (h : ∀ s k, I s → Ensures (step s k) I) (n : Nat) (first : Bool) (hs : I s) :
    Ensures (members step n first s) I := by
  induction n generalizing first s with
  | zero => exact ensures_pure hs
  | succ n ih =>
    refine ensures_bind fun k? => ?_
    split
    · exact (h s _ hs).bind fun s' hs' => ih false hs'
    · exact ensures_pure hs

/-- A record has what its invariant gives, if that holds at the start and is kept by each member. -/
theorem ensures_record {shape : RecordShape σ ρ} {P : ρ → Prop} (hstart : I shape.start)
    (hmembers : ∀ m ∈ shape.members, ∀ s, I s → Ensures (m.read s) I)
    (hfinish : ∀ s x, I s → shape.finish s = .ok x → P x) : Ensures (record shape) P := by
  refine ensures_bind fun c => ?_
  split
  · refine Ensures.nested (ensures_bind fun _ => ?_)
    refine (ensures_positional hmembers 0 hstart).bind fun p hp => ?_
    dsimp only
    split
    case h_1 x hx => exact ensures_bind fun _ => ensures_pure (hfinish _ x hp hx)
    case h_2 => exact ensures_throw _
  split
  · refine Ensures.nested (ensures_bind fun _ => ensures_bind fun n => ?_)
    refine (ensures_members (fun s k hs => ensures_keyed hmembers hs k) n true hstart).bind
      fun s hs => ?_
    split
    case h_1 x hx => exact ensures_bind fun _ => ensures_pure (hfinish s x hs hx)
    case h_2 => exact ensures_throw _
  · exact ensures_mismatch _ _

end

/-- A text from which something is read ensures it. -/
theorem Ensures.run {read : Reader α} {P : α → Prop} (h : Ensures read P) {s : String} {x : α}
    (hx : read.run s = .ok x) : P x := by
  rw [Reader.run] at hx
  cases hread : read depthLimit s.toList with
  | error fault =>
    rw [hread] at hx
    cases hx
  | ok p =>
    rw [hread] at hx
    change (if (p.2.dropWhile isBlank).isEmpty = true then Except.ok p.1 else .error _) = _ at hx
    split at hx
    · cases hx
      exact h depthLimit s.toList p.1 p.2 hread
    · cases hx

end AnchorLayout.Json.Reader
