import AnchorLayout.CommandLine.FileSystem
import AnchorLayout.CommandLine.Options
import AnchorLayout.Document.Reader
import AnchorLayout.Preview
import AnchorLayout.Resolver

/-!
# The command line

The program loads a document, resolves it and prints the frames, as a table or as JSON, with a
preview on request. Events of the resolver go to a file or, as lines of JSON, to standard error. The
stages are pure: `load` turns the bytes of the document into a layout, `solve` resolves it, and
`run` puts them together over a file system.
-/

namespace AnchorLayout.CommandLine

/-- Why a run fails. -/
inductive RunError where
  | layout (e : LayoutError)
  | logging (e : LogError)
deriving DecidableEq

/-- The wording of an error. -/
def RunError.message : RunError → String
  | layout e => e.message
  | logging e => "logging error: " ++ e.message

/-- What a run leaves behind. -/
structure Outcome where
  exitCode : UInt32
  stdout : String := ""
  stderr : String := ""

/-- An outcome after text has been written to a stream, if to any. -/
def Outcome.after (o : Outcome) (text : String) : Option Stream → Outcome
  | some .output => { o with stdout := text ++ o.stdout }
  | some .error => { o with stderr := text ++ o.stderr }
  | none => o

/-! ## Tables -/

/-- Fills a text up with blanks behind it, counted in characters. -/
def padRight (s : String) (width : Nat) : String :=
  s ++ String.ofList (List.replicate (width - s.length) ' ')

/-- Fills a text up with blanks before it. -/
def padLeft (s : String) (width : Nat) : String :=
  String.ofList (List.replicate (width - s.length) ' ') ++ s

/-- A line of the table: a label and four columns of six characters. -/
def tableLine (width : Nat) (label : String) (columns : List String) : String :=
  padRight label width ++ "  " ++ " ".intercalate (columns.map (padLeft · 6)) ++ "\n"

/-- The frames as a table. Its first column is as wide as the longest label has bytes. -/
def table (r : Resolved Coord) : String :=
  let width := (r.labels.map String.utf8ByteSize).foldl max "element".utf8ByteSize
  tableLine width "element" ["left", "top", "right", "bottom"] ++
    String.join ((r.labels.zip r.frames).map fun (label, f) =>
      tableLine width label ([f.left, f.top, f.right, f.bottom].map fun c => toString c.val))

/-! ## Stages -/

/-- The layout in the bytes of a document. -/
def load (bytes : Except FileFault ByteArray) : Except LayoutError (Layout Coord) := do
  (← Document.ofBytes (← bytes.mapError .file)).toLayout

/-- Resolves a layout at a given time. The counters are kept and logged whenever there is a log. -/
def solve (time : Nat) (l : Layout Coord) (logger : Option Logger) :
    Except LayoutError (Resolved Coord) × Resolver :=
  let resolver : Resolver := { logger }
  let resolver := if logger.isSome then resolver.startCounting else resolver
  let (outcome, resolver) := resolver.resolve time l
  (outcome, resolver.logTally time)

/-- What the options ask to print. -/
def output (o : Options) (l : Layout Coord) (r : Resolved Coord) : String :=
  (if o.json then r.toJson ++ "\n" else table r) ++
    (if o.preview then "\n" ++ Preview.text { scale := o.scale.val } r l.size else "")

/-- The outcome of a failed run. -/
def failure (stderr : String) (e : RunError) : Outcome where
  exitCode := 1
  stderr := stderr ++ "relayout: " ++ e.message ++ "\n"

/-- The outcome once the layout has been resolved. -/
def finish (o : Options) (l : Layout Coord) (stderr : String) :
    Except LayoutError (Resolved Coord) → Outcome
  | .ok r => { exitCode := 0, stdout := output o l r, stderr }
  | .error e => failure stderr (.layout e)

/-- The outcome of wrong arguments. -/
def usageError : Outcome where
  exitCode := 2
  stderr := "usage: relayout [--json] [--preview] [--scale N] [--verbose] [--log-file FILE] DOCUMENT\n"

/-- The text that a sink holds. -/
def sinkText : Option Logger → String
  | some { sink := .writer text, .. } => text
  | some { sink := .file text _, .. } => text
  | _ => ""

/-- Resolves a layout and logs to standard error, if the options ask for it. -/
def runUnlogged (time : Nat) (o : Options) (l : Layout Coord) : Outcome :=
  let logger := if o.verbose then some { sink := .writer "", leastLevel := .debug } else none
  let (outcome, resolver) := solve time l logger
  finish o l (sinkText resolver.logger) outcome

/-- Resolves a layout and returns what is to be appended to the log file. If that fails, so does the
run. -/
def runLogged (time : Nat) (o : Options) (l : Layout Coord) : Outcome × String :=
  let (outcome, resolver) := solve time l (some { sink := .file "" 0 })
  (finish o l "" outcome, sinkText resolver.logger)

/-- Runs the program with options at a given time and with given files. -/
def runOptions (time : Nat) (o : Options) (fs : FileSystem) : Outcome × FileSystem :=
  match load (fs.read o.document) with
  | .error e => (failure "" (.layout e), fs)
  | .ok l =>
    match o.logFile with
    | none => (runUnlogged time o l, fs)
    | some logFile =>
      match fs.openAppend logFile with
      | .error fault => (failure "" (.logging ⟨fault⟩), fs)
      | .ok (fs, path) =>
        let (outcome, text) := runLogged time o l
        match fs.append path text with
        | .error fault => (failure "" (.logging ⟨fault⟩), fs)
        | .ok fs => (outcome.after text (fs.stream? path), fs)

/-- Runs the program with arguments at a given time and with given files. -/
def run (time : Nat) (args : List String) (fs : FileSystem) : Outcome × FileSystem :=
  match Options.parse? args with
  | some o => runOptions time o fs
  | none => (usageError, fs)

end AnchorLayout.CommandLine
