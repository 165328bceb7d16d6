import AnchorLayout.Coord

/-!
# Arguments

One document is required. A flag may be given once and takes no value; an option may be given once
and takes a value, either after an equals sign or as the next argument, which then must not look like
a flag. After `--` every argument is a document. Any other arguments are a usage error.
-/

namespace AnchorLayout.CommandLine

/-- What the arguments ask for. -/
structure Options where
  document : String
  json : Bool := false
  preview : Bool := false
  /-- Layout units for each cell of the preview. -/
  scale : Coord := .clamp 1
  verbose : Bool := false
  logFile : Option String := none
deriving DecidableEq

/-- What has been read of the arguments; an option that was not given has no value yet. -/
structure Draft where
  document : Option String := none
  json : Bool := false
  preview : Bool := false
  scale : Option Coord := none
  verbose : Bool := false
  logFile : Option String := none
deriving DecidableEq

namespace Draft

/-- Sets the document, which may be given once and is not empty. -/
def setDocument (d : Draft) (path : String) : Option Draft :=
  if d.document.isSome || path.isEmpty then none else some { d with document := some path }

/-- Sets a flag, which may be given once. -/
def setFlag (d : Draft) (name : String) : Option Draft :=
  if name = "json" then if d.json then none else some { d with json := true }
  else if name = "preview" then if d.preview then none else some { d with preview := true }
  else if name = "verbose" then if d.verbose then none else some { d with verbose := true }
  else none

/-- Whether an option with a value has a name. -/
def isOption (name : String) : Bool := name = "scale" || name = "log-file"

/-- The integer that a text spells: digits with at most one sign before them. -/
def parseInt? (s : String) : Option Int :=
  let (negative, digits) := match s.toList with
    | '-' :: rest => (true, rest)
    | '+' :: rest => (false, rest)
    | rest => (false, rest)
  if digits.isEmpty || !digits.all Char.isDigit then none
  else
    let n : Int := digits.foldl (fun n d => 10 * n + (d.toNat - '0'.toNat)) (0 : Nat)
    some (if negative then -n else n)

/-- Sets an option, which may be given once. -/
def setOption (d : Draft) (name value : String) : Option Draft :=
  if name = "scale" then
    if d.scale.isSome then none
    else do return { d with scale := some (← Coord.ofInt? (← parseInt? value)) }
  else if name = "log-file" then
    if d.logFile.isSome || value.isEmpty then none else some { d with logFile := some value }
  else none

/-- Whether an argument looks like a flag: it begins with a dash and is longer than that. -/
def looksLikeFlag (arg : String) : Bool :=
  match arg.toList with
  | '-' :: _ :: _ => true
  | _ => false

/-- Reads arguments one after the other. -/
def readAll (d : Draft) : List String → Option Draft
  | [] => some d
  | "--" :: rest => rest.foldlM setDocument d
  | arg :: rest =>
    match arg.toList with
    | '-' :: '-' :: long =>
      let name := String.ofList (long.takeWhile (· ≠ '='))
      match long.dropWhile (· ≠ '=') with
      | _ :: value => do readAll (← setOption d name (String.ofList value)) rest
      | [] =>
        if isOption name then
          match rest with
          | value :: rest =>
            if looksLikeFlag value then none else do readAll (← setOption d name value) rest
          | [] => none
        else do readAll (← setFlag d name) rest
    | _ => if looksLikeFlag arg then none else do readAll (← setDocument d arg) rest

end Draft

/-- What the arguments ask for, unless they are wrong. -/
def Options.parse? (args : List String) : Option Options := do
  let d ← Draft.readAll {} args
  return {
    document := ← d.document
    json := d.json
    preview := d.preview
    scale := d.scale.getD (.clamp 1)
    verbose := d.verbose
    logFile := d.logFile }

end AnchorLayout.CommandLine
