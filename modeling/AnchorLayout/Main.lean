import AnchorLayout.CommandLine
import Std.Time.DateTime.Timestamp

/-!
# The program

Reads the document from the file system, runs the stages of the command line over it and prints
their outcome. The log file is opened only once the document has given a layout.
-/

namespace AnchorLayout.CommandLine

/-- The cause with a number in the system, which may be given with its sign turned. -/
def numberedFault (number : UInt32) (details : String) : FileFault :=
  let number := if number < 0x80000000 then number else -number
  if number = 2 then .notFound
  else if number = 6 then .noDevice
  else if number = 13 then .denied
  else if number = 20 then .notDirectory
  else if number = 21 then .isDirectory
  else if number = 28 then .noSpace
  else if number = 36 then .nameTooLong
  else .other (details.capitalize ++ " (os error " ++ toString number ++ ")")

/-- The cause of a failed access to a file. -/
def fileFault : IO.Error → FileFault
  | .noFileOrDirectory _ number details | .inappropriateType _ number details
  | .permissionDenied _ number details | .resourceExhausted _ number details
  | .invalidArgument _ number details | .noSuchThing _ number details => numberedFault number details
  | e => .other (toString e)

/-- Turns a failed access into a value. -/
def attempt {α : Type} (access : IO α) : IO (Except FileFault α) := do
  return (← access.toBaseIO).mapError fileFault

/-- The time in milliseconds. -/
def clock : IO Nat := return (← Std.Time.Timestamp.now).toMillisecondsSinceUnixEpoch.toInt.toNat

/-- Prints an outcome and returns the exit code. -/
def Outcome.print (o : Outcome) : IO UInt32 := do
  (← IO.getStderr).putStr o.stderr
  (← IO.getStdout).putStr o.stdout
  return o.exitCode

/-- Runs the program with options, on the file system. -/
def execute (o : Options) : IO UInt32 := do
  match load (← attempt (IO.FS.readBinFile o.document)) with
  | .error e => (failure "" (.layout e)).print
  | .ok l =>
    match o.logFile with
    | none => (runUnlogged (← clock) o l).print
    | some path =>
      match ← attempt (IO.FS.Handle.mk path .append) with
      | .error fault => (failure "" (.logging ⟨fault⟩)).print
      | .ok handle =>
        let (outcome, text) := runLogged (← clock) o l
        match ← attempt (handle.putStr text *> handle.flush) with
        | .error fault => (failure "" (.logging ⟨fault⟩)).print
        | .ok _ => outcome.print

end AnchorLayout.CommandLine

/-- Runs the program with arguments. -/
def main (args : List String) : IO UInt32 :=
  match AnchorLayout.CommandLine.Options.parse? args with
  | some o => AnchorLayout.CommandLine.execute o
  | none => AnchorLayout.CommandLine.usageError.print
