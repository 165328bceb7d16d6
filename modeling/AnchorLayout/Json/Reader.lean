import AnchorLayout.Json.Basic
import AnchorLayout.Json.Lexeme

/-!
# Reading JSON by shape

A reader takes a value of a given shape from the front of a text, and stops at the first fault. It
knows how many brackets may still be opened within each other. A record is read from an object, in
any order and with unknown members skipped, or from a list of its members in order.
-/

namespace AnchorLayout.Json
open Decimal (Number)

/-- Reads from a text, given how deeply brackets may be nested. -/
abbrev Reader := ReaderT Nat (StateT (List Char) (Except Fault))

namespace Reader
variable {α σ ρ : Type}

/-- Runs a function that reads a lexeme. -/
def lexeme (read : List Char → Except Fault (α × List Char)) : Reader α := fun _ cs => read cs

/-- Runs a function that skips a lexeme. -/
def skipping (skip : List Char → Except Fault (List Char)) : Reader Unit :=
  fun _ cs => (skip cs).map ((), ·)

/-- Drops the next character. -/
def drop : Reader Unit := fun _ cs => .ok ((), cs.drop 1)

/-- The next character that is not blank; the blanks before it are dropped. -/
def next? : Reader (Option Char) := fun _ cs =>
  let cs := cs.dropWhile isBlank
  .ok (cs.head?, cs)

/-- The next character that is not blank, of which there has to be one. -/
def next (part : Part) : Reader Char := do
  match ← next? with
  | some c => return c
  | none => throw (.endOfText part)

/-- Reads a literal whose first character is next. -/
def literal (rest : String) : Reader Unit := do
  drop
  skipping (readLiteral rest.toList)

/-- Reads within one more bracket. -/
def nested (read : Reader α) : Reader α := fun depth cs =>
  match depth with
  | 0 => .error .nestedTooDeeply
  | depth + 1 => read depth cs

/-- Reads a number that begins with the given character. -/
def numeral (c : Char) : Reader Number := do
  if c = '-' then
    drop
    lexeme (readNumber true)
  else lexeme (readNumber false)

/-- Reads a string whose opening quote is next. -/
def quoted : Reader String := do
  drop
  return String.ofList (← lexeme readString)

/-- Whether a number begins with a character. -/
def startsNumber (c : Char) : Bool := c = '-' || c.isDigit

/-- Describes a value that begins with the given character, and reads it unless it has brackets. -/
def found (c : Char) : Reader Found := do
  if c = 'n' then literal "ull"; return .null
  else if c = 't' then literal "rue"; return .boolean true
  else if c = 'f' then literal "alse"; return .boolean false
  else if startsNumber c then return .number (← numeral c)
  else if c = '"' then return .string (← quoted)
  else if c = '[' then return .sequence
  else if c = '\x7b' then return .map
  else throw .expectedValue

/-- Fails because a value that begins with the given character has the wrong shape. -/
def mismatch (c : Char) (expected : String) : Reader α := do throw (.wrongType (← found c) expected)

/-! ## Scalars -/

/-- Reads a truth value. -/
def boolean : Reader Bool := do
  let c ← next .value
  if c = 't' then literal "rue"; return true
  else if c = 'f' then literal "alse"; return false
  else mismatch c "a boolean"

/-- Reads an integer for which `convert` has a value. -/
def integer (expected : String) (convert : Int → Option α) : Reader α := do
  let c ← next .value
  if startsNumber c then
    match ← numeral c with
    | .integer n =>
      match convert n with
      | some x => return x
      | none => throw (.outsideRange n expected)
    | n => throw (.wrongType (.number n) expected)
  else mismatch c expected

/-- Reads a string. -/
def text (expected : String) : Reader String := do
  let c ← next .value
  if c = '"' then quoted else mismatch c expected

/-- Reads `null`. -/
def unit : Reader Unit := do
  let c ← next .value
  if c = 'n' then literal "ull" else mismatch c "unit"

/-- Reads `null` or a value. -/
def optional (read : Reader α) : Reader (Option α) := do
  if (← next?) = some 'n' then literal "ull"; return none
  else return some (← read)

/-! ## Lists and objects -/

/-- Goes to the next item of a list, if there is one. -/
def nextItem (first : Bool) : Reader Bool := do
  let c ← next .list
  if c = ']' then return false
  else if first then return true
  else if c = ',' then
    drop
    if (← next .value) = ']' then throw .trailingComma
    return true
  else throw .expectedCommaOrBracket

/-- Reads the end of a list whose items have been read. -/
def closeList : Reader Unit := do
  let c ← next .list
  if c = ']' then drop
  else if c = ',' then
    drop
    throw (if (← next?) = some ']' then .trailingComma else .trailingCharacters)
  else throw .trailingCharacters

/-- Reads a key that begins with the given character. -/
def key (c : Char) : Reader String := if c = '"' then quoted else throw .keyIsNoString

/-- Goes to the next key of an object, if there is one, and reads it. -/
def nextKey (first : Bool) : Reader (Option String) := do
  let mut c ← next .object
  if c = '\x7d' then return none
  if !first then
    if c ≠ ',' then throw .expectedCommaOrBrace
    drop
    c ← next .value
    if c = '\x7d' then throw .trailingComma
  return some (← key c)

/-- Reads the end of an object whose members have been read. -/
def closeObject : Reader Unit := do
  let c ← next .object
  if c = '\x7d' then drop
  else throw (if c = ',' then .trailingComma else .trailingCharacters)

/-- Reads the colon after a key. -/
def colon : Reader Unit := do
  if (← next .object) = ':' then drop else throw .expectedColon

/-- Reads up to `n` further items of a list. -/
def items (read : Reader α) : Nat → Bool → Reader (List α)
  | 0, _ => return []
  | n + 1, first => do
    if ← nextItem first then
      let x ← read
      return x :: (← items read n false)
    else return []

/-- Folds a function over the members of an object, of which there are up to `n` more. The function
reads the colon and the value. -/
def members (step : σ → String → Reader σ) : Nat → Bool → σ → Reader σ
  | 0, _, s => return s
  | n + 1, first, s => do
    match ← nextKey first with
    | some key => members step n false (← step s key)
    | none => return s

/-- A bound for the steps that each take a character, and the one that finds no more of them. -/
def steps : Reader Nat := return (← get).length + 1

/-- Reads a list. -/
def list (read : Reader α) : Reader (List α) := do
  let c ← next .value
  if c = '[' then nested do
    drop
    let xs ← items read (← steps) true
    closeList
    return xs
  else mismatch c "a sequence"

/-! ## Values of any shape -/

/-- Reads a value, given how to read one with brackets from its opening bracket on. -/
def value (array object : Reader Json) : Reader Json := do
  match ← found (← next .value) with
  | .null => return .null
  | .boolean b => return .boolean b
  | .number n => return .number n
  | .string s => return .string s
  | .sequence => array
  | .map => object

/-- Reads a value of any shape in which brackets are nested up to the given depth. -/
def anyWithin : Nat → Reader Json
  | 0 => value (throw .nestedTooDeeply) (throw .nestedTooDeeply)
  | depth + 1 =>
    value
      (do
        drop
        let xs ← items (anyWithin depth) (← steps) true
        closeList
        return .array xs)
      (do
        drop
        let step (ms : List (String × Json)) (key : String) : Reader (List (String × Json)) := do
          colon
          return (key, ← anyWithin depth) :: ms
        let ms ← members step (← steps) true []
        closeObject
        return .object ms.reverse)

/-- Reads a value of any shape. -/
def any : Reader Json := do anyWithin (← read)

/-- An opening bracket. -/
inductive Bracket where
  | square | curly
deriving DecidableEq

/-- Skips a key and its colon. -/
def skipKey : Reader Unit := do
  if (← next .object) ≠ '"' then throw .keyIsNoString
  drop
  skipping skipString
  colon

mutual

/-- Skips a value within the given open brackets, and what follows it up to the last of them. Each
step takes a character, and there are up to `n` steps. -/
def skipWithin : Nat → List Bracket → Reader Unit
  | 0, _ => return
  | n + 1, brackets => do
    let c ← next .value
    if c = 'n' then literal "ull"; skipAfter n brackets
    else if c = 't' then literal "rue"; skipAfter n brackets
    else if c = 'f' then literal "alse"; skipAfter n brackets
    else if startsNumber c then
      if c = '-' then drop
      skipping skipNumber
      skipAfter n brackets
    else if c = '"' then
      drop
      skipping skipString
      skipAfter n brackets
    else if c = '[' then
      drop
      if (← next .list) = ']' then drop; skipAfter n brackets
      else skipWithin n (.square :: brackets)
    else if c = '\x7b' then
      drop
      if (← next .object) = '\x7d' then drop; skipAfter n brackets
      else skipKey; skipWithin n (.curly :: brackets)
    else throw .expectedValue

/-- Skips what follows a value within the given open brackets. -/
def skipAfter : Nat → List Bracket → Reader Unit
  | _, [] => return
  | 0, _ => return
  | n + 1, .square :: brackets => do
    let c ← next .list
    if c = ']' then drop; skipAfter n brackets
    else if c = ',' then drop; skipWithin n (.square :: brackets)
    else throw .expectedCommaOrBracket
  | n + 1, .curly :: brackets => do
    let c ← next .object
    if c = '\x7d' then drop; skipAfter n brackets
    else if c = ',' then drop; skipKey; skipWithin n (.curly :: brackets)
    else throw .expectedCommaOrBrace

end

/-- Skips a value of any shape, nested as deeply as it is. -/
def skip : Reader Unit := do skipWithin (← steps) []

/-! ## Choices and records -/

/-- The known name that a text spells. -/
def variant (known : List α) (name : α → String) (word : String) : Reader α :=
  match known.find? (name · = word) with
  | some x => return x
  | none => throw (.unknownVariant word (known.map name))

/-- Reads one of several names: a string, or an object whose only member has the name for its key and
`null` for its value. -/
def choice (known : List α) (name : α → String) : Reader α := do
  let c ← next .value
  if c = '"' then variant known name (← quoted)
  else if c = '\x7b' then
    let x ← nested do
      drop
      let c ← next .object
      if c = '\x7d' then throw .expectedValue
      let x ← variant known name (← key c)
      colon
      unit
      return x
    if (← next .object) ≠ '\x7d' then throw .expectedValue
    drop
    return x
  else throw .expectedValue

/-- A member of a record, with what has been read of the record so far. -/
structure Member (σ : Type) where
  name : String
  isRead : σ → Bool
  read : σ → Reader σ

/-- How a record is read: what messages call it, its members, what is known before any of them is
read, and the record, or else the name of a member that is missing. -/
structure RecordShape (σ ρ : Type) where
  title : String
  members : List (Member σ)
  start : σ
  finish : σ → Except String ρ

/-- Reads the members of a record from a list, in order, and counts them. A list may end early. -/
def positional : List (Member σ) → Nat → σ → Reader (σ × Nat)
  | [], count, s => return (s, count)
  | m :: rest, count, s => do
    if ← nextItem (count = 0) then positional rest (count + 1) (← m.read s)
    else return (s, count)

/-- Reads the member with a given key; the value of an unknown key is skipped. -/
def keyed (known : List (Member σ)) (s : σ) (key : String) : Reader σ := do
  match known.find? (·.name = key) with
  | some m =>
    if m.isRead s then throw (.duplicateField key)
    colon
    m.read s
  | none =>
    colon
    skip
    return s

/-- Reads a record from an object or a list. -/
def record (shape : RecordShape σ ρ) : Reader ρ := do
  let c ← next .value
  if c = '[' then nested do
    drop
    let (s, count) ← positional shape.members 0 shape.start
    match shape.finish s with
    | .ok x => closeList; return x
    | .error _ =>
      throw (.wrongLength count
        (shape.title ++ " with " ++ toString shape.members.length ++ " elements"))
  else if c = '\x7b' then nested do
    drop
    let s ← members (keyed shape.members) (← steps) true shape.start
    match shape.finish s with
    | .ok x => closeObject; return x
    | .error name => throw (.missingField name)
  else mismatch c shape.title

/-- How deeply brackets may be nested in a text, unless they are skipped. -/
def depthLimit : Nat := 127

/-- Reads a whole text. -/
def run (read : Reader α) (s : String) : Except Fault α := do
  let (x, rest) ← read depthLimit s.toList
  if (rest.dropWhile isBlank).isEmpty then return x else throw .trailingCharacters

end Reader
end AnchorLayout.Json
