import AnchorLayout.Log.RotatingFile
import AnchorLayout.Proofs.Digest.Encoding
import Mathlib.Data.List.Induction

/-!
# What a bounded file keeps

As long as nobody else writes to a file, its handle stands at the end of it, before the file has been
emptied and after. So a line is never written over another: the file holds what it held at first and
all lines, or, once it has been emptied, the lines since then.
-/

namespace AnchorLayout
namespace RotatingFile
variable {f : RotatingFile} {before : List UInt8} {maxBytes : Nat} {events : List Event} {e : Event}

/-! ## One line -/

/-- The handle writes behind what the file holds. -/
def AtEnd (f : RotatingFile) : Prop :=
  ∀ offset, f.handle = .positioned offset → offset = f.bytes.length

theorem atEnd_reopen (f : RotatingFile) : f.reopen.AtEnd := by
  rintro offset ⟨⟩
  rfl

theorem overwrite_length (held bytes : List UInt8) :
    overwrite held held.length bytes = held ++ bytes := by
  simp [overwrite]

theorem AtEnd.bytes_write (h : f.AtEnd) (bytes : List UInt8) :
    (f.write bytes).bytes = f.bytes ++ bytes := by
  cases hhandle : f.handle with
  | appending => simp only [write, hhandle]
  | positioned offset => simp only [write, hhandle, h offset hhandle, overwrite_length]

theorem AtEnd.write (h : f.AtEnd) (bytes : List UInt8) : (f.write bytes).AtEnd := by
  intro offset hoffset
  rw [h.bytes_write, List.length_append]
  cases hhandle : f.handle with
  | appending =>
    simp only [RotatingFile.write, hhandle] at hoffset
    cases hoffset
  | positioned start =>
    simp only [RotatingFile.write, hhandle, Handle.positioned.injEq] at hoffset
    rw [← hoffset, h start hhandle]

@[simp] theorem maxBytes_write (f : RotatingFile) (bytes : List UInt8) :
    (f.write bytes).maxBytes = f.maxBytes := by
  unfold write
  split <;> rfl

@[simp] theorem maxBytes_log (f : RotatingFile) (e : Event) : (f.log e).maxBytes = f.maxBytes := by
  rw [log, maxBytes_write]
  split <;> rfl

theorem AtEnd.log (h : f.AtEnd) (e : Event) : (f.log e).AtEnd := by
  rw [RotatingFile.log]
  split
  · exact f.atEnd_reopen.write _
  · exact h.write _

/-- A line is all that the file holds, or stands behind what it held before. -/
theorem AtEnd.bytes_log (h : f.AtEnd) (e : Event) :
    (f.log e).bytes =
      if f.exceeds e.lineBytes.length then e.lineBytes else f.bytes ++ e.lineBytes := by
  rw [RotatingFile.log]
  split
  · exact f.atEnd_reopen.bytes_write _
  · exact h.bytes_write _

/-! ## All lines -/

/-- What a file holds after some lines: nothing is lost of what it held before, or it holds the last
of the lines. Only a file with a bound loses anything. -/
def Content (before : List UInt8) (maxBytes : Nat) (lines : List (List UInt8))
    (bytes : List UInt8) : Prop :=
  bytes = before ++ lines.flatten ∨
    maxBytes ≠ 0 ∧ ∃ recent, recent <:+ lines ∧ bytes = recent.flatten

theorem Content.append {lines : List (List UInt8)} {bytes : List UInt8}
    (h : Content before maxBytes lines bytes) (line : List UInt8) :
    Content before maxBytes (lines ++ [line]) (bytes ++ line) := by
  rcases h with rfl | ⟨hbound, recent, ⟨older, rfl⟩, rfl⟩
  · exact .inl (by simp)
  · exact .inr ⟨hbound, recent ++ [line], ⟨older, by simp⟩, by simp⟩

/-- An emptied file holds the line for which it was emptied. -/
theorem content_last (hbound : maxBytes ≠ 0) (lines : List (List UInt8)) (line : List UInt8) :
    Content before maxBytes (lines ++ [line]) line :=
  .inr ⟨hbound, [line], List.suffix_append lines [line], by simp⟩

/-- What is known of a file after some events. -/
structure Logged (before : List UInt8) (maxBytes : Nat) (events : List Event) (f : RotatingFile) :
    Prop where
  atEnd : f.AtEnd
  maxBytes_eq : f.maxBytes = maxBytes
  content : Content before maxBytes (events.map Event.lineBytes) f.bytes

theorem logged_nil (before : List UInt8) (maxBytes : Nat) :
    Logged before maxBytes [] { bytes := before, maxBytes } where
  atEnd := by rintro offset ⟨⟩
  maxBytes_eq := rfl
  content := .inl (by simp)

theorem exceeds_eq_true_iff {more : Nat} :
    f.exceeds more = true ↔ f.maxBytes ≠ 0 ∧ f.maxBytes < f.bytes.length + more := by
  simp [exceeds]

theorem Logged.log (h : Logged before maxBytes events f) (e : Event) :
    Logged before maxBytes (events ++ [e]) (f.log e) where
  atEnd := h.atEnd.log e
  maxBytes_eq := (f.maxBytes_log e).trans h.maxBytes_eq
  content := by
    rw [h.atEnd.bytes_log, List.map_append]
    split
    case isTrue hexceeds =>
      exact content_last (h.maxBytes_eq ▸ (exceeds_eq_true_iff.1 hexceeds).1) _ _
    case isFalse => exact h.content.append e.lineBytes

theorem logged_foldl (before : List UInt8) (maxBytes : Nat) (events : List Event) :
    Logged before maxBytes events (events.foldl RotatingFile.log { bytes := before, maxBytes }) := by
  induction events using List.reverseRecOn with
  | nil => exact logged_nil before maxBytes
  | append_singleton events e ih =>
    rw [List.foldl_append]
    exact ih.log e

/-! ## The sink that holds the text -/

/-- A sink holds the text of a file. -/
def HeldBy (f : RotatingFile) (s : Sink) : Prop :=
  ∃ text : String, s = .file text f.maxBytes ∧ text.toUTF8.toList = f.bytes

theorem HeldBy.log {s : Sink} (h : f.HeldBy s) (hend : f.AtEnd) (e : Event) :
    (f.log e).HeldBy (s.log e) := by
  obtain ⟨text, rfl, htext⟩ := h
  refine ⟨Sink.appendLine text f.maxBytes (e.line ++ "\n"), by rw [maxBytes_log]; rfl, ?_⟩
  have hexceeds : f.exceeds e.lineBytes.length =
      (f.maxBytes ≠ 0 && f.maxBytes < text.utf8ByteSize + (e.line ++ "\n").utf8ByteSize) := by
    rw [exceeds, ← htext, Event.lineBytes, length_toUTF8_toList, length_toUTF8_toList]
  rw [hend.bytes_log, hexceeds, Sink.appendLine]
  split
  · rfl
  · rw [toUTF8_toList_append, htext, Event.lineBytes]

theorem heldBy_foldl {s : Sink} (h : f.HeldBy s) (hend : f.AtEnd) (events : List Event) :
    (events.foldl RotatingFile.log f).HeldBy (events.foldl Sink.log s) := by
  induction events generalizing f s with
  | nil => exact h
  | cons e events ih => exact ih (h.log hend e) (hend.log e)

/-- **A bounded file keeps the last lines.** After each event its line stands at the end of the file.
The file holds what it held at first and all lines, or the last of the lines only. Without a bound it
is the former; with a bound the file is no longer than that, unless it holds the one line, and nothing
is dropped for a line that fits. The sink that holds the text holds that of the file. -/
theorem log_keeps_recent (before : List UInt8) (maxBytes : Nat) (events : List Event) (e : Event) :
    let previous := events.foldl RotatingFile.log { bytes := before, maxBytes }
    let file := (events ++ [e]).foldl RotatingFile.log { bytes := before, maxBytes }
    let lines := (events ++ [e]).map Event.lineBytes
    e.lineBytes <:+ file.bytes ∧
      (file.bytes = before ++ lines.flatten ∨
        ∃ recent, recent <:+ lines ∧ file.bytes = recent.flatten) ∧
      (maxBytes = 0 → file.bytes = before ++ lines.flatten) ∧
      (maxBytes ≠ 0 → file.bytes.length ≤ maxBytes ∨ file.bytes = e.lineBytes) ∧
      (previous.bytes.length + e.lineBytes.length ≤ maxBytes →
        file.bytes = previous.bytes ++ e.lineBytes) ∧
      ∀ text : String, text.toUTF8.toList = before →
        file.HeldBy ((events ++ [e]).foldl Sink.log (.file text maxBytes)) := by
  intro previous file lines
  have hprevious : Logged before maxBytes events previous := logged_foldl before maxBytes events
  have hfile : Logged before maxBytes (events ++ [e]) file := logged_foldl before maxBytes _
  have hbytes : file.bytes = if previous.exceeds e.lineBytes.length then e.lineBytes
      else previous.bytes ++ e.lineBytes := by
    rw [← hprevious.atEnd.bytes_log e]
    simp only [file, previous, List.foldl_append, List.foldl_cons, List.foldl_nil]
  have hexceeds : previous.exceeds e.lineBytes.length = true ↔
      maxBytes ≠ 0 ∧ maxBytes < previous.bytes.length + e.lineBytes.length := by
    rw [exceeds_eq_true_iff, hprevious.maxBytes_eq]
  refine ⟨?_, ?_, ?_, ?_, ?_, ?_⟩
  · rw [hbytes]
    split
    · exact List.suffix_rfl
    · exact List.suffix_append _ _
  · exact hfile.content.imp_right And.right
  · intro hbound
    exact hfile.content.resolve_right fun h => h.1 hbound
  · intro hbound
    rw [hbytes]
    split
    case isTrue => exact .inr rfl
    case isFalse hfits =>
      rw [hexceeds] at hfits
      rw [List.length_append]
      exact .inl (by omega)
  · intro hfits
    rw [hbytes, if_neg]
    rw [hexceeds]
    omega
  · intro text htext
    exact heldBy_foldl ⟨text, rfl, htext⟩ (logged_nil before maxBytes).atEnd _

end RotatingFile
end AnchorLayout
