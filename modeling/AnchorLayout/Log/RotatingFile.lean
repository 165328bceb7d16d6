import AnchorLayout.Log

/-!
# A file with a bound on its length

A file is opened for logging to write behind whatever it holds, and that need not be text. Before a
line that would make it longer than its bound it is emptied and opened anew. From then on it is
written through a handle that keeps a position of its own: bytes go to that position, in place of
those that stand there. `Sink.file` holds the text of such a file and knows no handles.
-/

namespace AnchorLayout

/-- Where bytes go that are written to a file. -/
inductive Handle where
  /-- Behind whatever the file holds. -/
  | appending
  /-- To a position of the handle, which moves on with what is written. -/
  | positioned (offset : Nat)
deriving DecidableEq

/-- The bytes of an event: its line, and the line feed that ends it. -/
def Event.lineBytes (e : Event) : List UInt8 := (e.line ++ "\n").toUTF8.toList

/-- A file that is open for logging. -/
structure RotatingFile where
  bytes : List UInt8
  /-- Zero stands for no bound. -/
  maxBytes : Nat
  handle : Handle := .appending
deriving DecidableEq

namespace RotatingFile

/-- Puts bytes in place of those from an offset on. Zeros fill a gap before the offset. -/
def overwrite (held : List UInt8) (offset : Nat) (bytes : List UInt8) : List UInt8 :=
  held.take offset ++ List.replicate (offset - held.length) 0 ++ bytes ++
    held.drop (offset + bytes.length)

/-- Writes bytes through the handle. -/
def write (f : RotatingFile) (bytes : List UInt8) : RotatingFile :=
  match f.handle with
  | .appending => { f with bytes := f.bytes ++ bytes }
  | .positioned offset =>
    { f with
      bytes := overwrite f.bytes offset bytes
      handle := .positioned (offset + bytes.length) }

/-- Empties the file, and opens it to write from its start. -/
def reopen (f : RotatingFile) : RotatingFile := { f with bytes := [], handle := .positioned 0 }

/-- Whether so many bytes more would make the file longer than its bound. -/
def exceeds (f : RotatingFile) (more : Nat) : Bool :=
  f.maxBytes ≠ 0 && f.maxBytes < f.bytes.length + more

/-- Takes one event. -/
def log (f : RotatingFile) (e : Event) : RotatingFile :=
  (if f.exceeds e.lineBytes.length then f.reopen else f).write e.lineBytes

end RotatingFile
end AnchorLayout
