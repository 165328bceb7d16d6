import AnchorLayout.Error

/-!
# Devices

Files that keep nothing of what is written to them: some take it and drop it, one has never any
space left, and some hand it to a standard stream of the program.
-/

namespace AnchorLayout.CommandLine

/-- The standard streams that the program writes to. -/
inductive Stream where
  | output | error
deriving DecidableEq

/-- What stands behind a file that keeps no bytes. -/
inductive Device where
  /-- Is empty, and takes all that is written. -/
  | null
  /-- Has no end, and takes all that is written. -/
  | endless
  /-- Has no end, and takes nothing. -/
  | full
  /-- The terminal, which a run in the background does not have. -/
  | terminal
  /-- Hands on what is written. -/
  | stream (s : Stream)
deriving DecidableEq

namespace Device

/-- Why a device cannot be opened, if it cannot. -/
def openFault? : Device → Option FileFault
  | terminal => some .noDevice
  | _ => none

/-- Reads all bytes of a device that has been opened. -/
def read : Device → Except FileFault ByteArray
  | endless | full => .error .noMemory
  | _ => .ok .empty

/-- Why a device that has been opened does not take what is written, if it does not. -/
def writeFault? : Device → Option FileFault
  | full => some .noSpace
  | _ => none

/-- The stream to which a device hands what is written. -/
def stream? : Device → Option Stream
  | stream s => some s
  | _ => none

end Device
end AnchorLayout.CommandLine
