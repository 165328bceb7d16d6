import AnchorLayout.Json.Fault

/-!
# Literals, numbers and strings of JSON

Functions that read one lexeme from the front of a text and return what follows it. Numbers and
strings can be read or skipped; skipping checks the form only, so it accepts numbers of any size and
surrogates in any order.
-/

namespace AnchorLayout.Json
open Decimal (Number)

/-- The characters that may stand between lexemes. -/
def isBlank (c : Char) : Bool := c = ' ' || c = '\n' || c = '\t' || c = '\r'

/-- Reads the given characters. -/
def readLiteral : List Char → List Char → Except Fault (List Char)
  | [], cs => .ok cs
  | _ :: _, [] => .error (.endOfText .value)
  | e :: expected, c :: cs => if c = e then readLiteral expected cs else .error .expectedLiteral

/-! ## Numbers -/

/-- Significands have 64 bits. -/
def significandLimit : Nat := 18446744073709551616

/-- The least exponent, sign aside, that is too large to be counted with. -/
def exponentLimit : Nat := 2147483648

/-- The greatest magnitude of a negative integer. -/
def negativeLimit : Nat := 9223372036854775808

/-- Adds digits to a significand as long as it stays below `2 ^ 64`, and returns the digits that are
left over. -/
def addDigits (significand : Nat) : List Char → Nat × List Char
  | [] => (significand, [])
  | d :: rest =>
    let next := 10 * significand + (d.toNat - '0'.toNat)
    if next < significandLimit then addDigits next rest else (significand, d :: rest)

/-- The value of some digits. -/
def digitsValue (digits : List Char) : Nat :=
  digits.foldl (fun n d => 10 * n + (d.toNat - '0'.toNat)) 0

/-- The number of a significand and an exponent, or the fault that it is too large. -/
def scaledNumber (negative : Bool) (significand : Nat) (exponent : Int) : Except Fault Number :=
  match Number.ofScaled negative significand exponent with
  | some n => .ok n
  | none => .error .numberOutOfRange

/-- Reads an exponent, after its mark. An exponent beyond 31 bits makes any number but zero too large
or, if it is negative, zero. -/
def readExponent (negative : Bool) (significand : Nat) (exponent : Int) (cs : List Char) :
    Except Fault (Number × List Char) := do
  let (down, cs) := match cs with
    | '+' :: rest => (false, rest)
    | '-' :: rest => (true, rest)
    | rest => (false, rest)
  match cs with
  | [] => throw (.endOfText .value)
  | c :: _ =>
    if !c.isDigit then throw .invalidNumber
    let value := digitsValue (cs.takeWhile Char.isDigit)
    let rest := cs.dropWhile Char.isDigit
    if exponentLimit ≤ value then
      if significand ≠ 0 && !down then throw .numberOutOfRange
      return (← scaledNumber negative 0 0, rest)
    return (← scaledNumber negative significand (if down then exponent - value else exponent + value),
      rest)

/-- Reads what can follow the digits of a number that has a point or did not fit. -/
def readScale (negative : Bool) (significand : Nat) (exponent : Int) (cs : List Char) :
    Except Fault (Number × List Char) :=
  match cs with
  | 'e' :: rest | 'E' :: rest => readExponent negative significand exponent rest
  | rest => do return (← scaledNumber negative significand exponent, rest)

/-- Reads the digits after a point. Those that no longer fit into the significand are disregarded. -/
def readFraction (negative : Bool) (significand : Nat) (exponent : Int) (cs : List Char) :
    Except Fault (Number × List Char) :=
  let digits := cs.takeWhile Char.isDigit
  let rest := cs.dropWhile Char.isDigit
  if digits.isEmpty then .error (if rest.isEmpty then .endOfText .value else .invalidNumber)
  else
    let (significand, spare) := addDigits significand digits
    readScale negative significand (exponent - (digits.length - spare.length)) rest

/-- The number of an integer literal that fits into 64 bits without its sign. A negative one has to
fit with its sign too, or else it becomes a double, and so does the negative zero. -/
def integerNumber (negative : Bool) (n : Nat) : Except Fault Number :=
  if !negative then .ok (.integer n)
  else if n ≠ 0 && n ≤ negativeLimit then .ok (.integer (-n))
  else scaledNumber true n 0

/-- Reads a number, after its sign. -/
def readNumber (negative : Bool) (cs : List Char) : Except Fault (Number × List Char) :=
  match cs with
  | [] => .error (.endOfText .value)
  | c :: after =>
    let digits := if c = '0' then [c] else cs.takeWhile Char.isDigit
    let rest := if c = '0' then after else cs.dropWhile Char.isDigit
    if !c.isDigit || (c = '0' && after.head?.any Char.isDigit) then .error .invalidNumber
    else
      let (significand, spare) := addDigits 0 digits
      match rest with
      | '.' :: rest => readFraction negative significand spare.length rest
      | rest =>
        if spare.isEmpty && !(rest.head?.any fun c => c = 'e' || c = 'E') then do
          return (← integerNumber negative significand, rest)
        else readScale negative significand spare.length rest

/-- Skips digits, of which there has to be one. -/
def skipDigits (cs : List Char) : Except Fault (List Char) :=
  if cs.head?.any Char.isDigit then .ok (cs.dropWhile Char.isDigit) else .error .invalidNumber

/-- Skips an exponent, if there is one. -/
def skipExponent : List Char → Except Fault (List Char)
  | 'e' :: rest | 'E' :: rest =>
    match rest with
    | '+' :: rest | '-' :: rest => skipDigits rest
    | rest => skipDigits rest
  | rest => .ok rest

/-- Skips a number, after its sign. -/
def skipNumber (cs : List Char) : Except Fault (List Char) := do
  let rest ← match cs with
    | '0' :: rest => if rest.head?.any Char.isDigit then .error .invalidNumber else .ok rest
    | rest => skipDigits rest
  match rest with
  | '.' :: rest => skipExponent (← skipDigits rest)
  | rest => skipExponent rest

/-! ## Strings -/

/-- The value of a hexadecimal digit. -/
def hexDigit? (c : Char) : Option Nat :=
  if c.isDigit then some (c.toNat - '0'.toNat)
  else if 'a' ≤ c && c ≤ 'f' then some (c.toNat - 'a'.toNat + 10)
  else if 'A' ≤ c && c ≤ 'F' then some (c.toNat - 'A'.toNat + 10)
  else none

/-- The value of four hexadecimal digits. -/
def hexUnit? (a b c d : Char) : Option Nat := do
  return 4096 * (← hexDigit? a) + 256 * (← hexDigit? b) + 16 * (← hexDigit? c) + (← hexDigit? d)

/-- The character of a short escape. -/
def shortEscape? (c : Char) : Option Char :=
  if c = '"' then some '"'
  else if c = '\\' then some '\\'
  else if c = '/' then some '/'
  else if c = 'b' then some '\x08'
  else if c = 'f' then some '\x0C'
  else if c = 'n' then some '\n'
  else if c = 'r' then some '\r'
  else if c = 't' then some '\t'
  else none

/-- The first half of a pair of surrogates. -/
def isLeading (n : Nat) : Bool := 0xD800 ≤ n && n ≤ 0xDBFF

/-- The second half of a pair of surrogates. -/
def isTrailing (n : Nat) : Bool := 0xDC00 ≤ n && n ≤ 0xDFFF

/-- The character of a pair of surrogates. -/
def pairChar (leading trailing : Nat) : Char :=
  Char.ofNat (0x10000 + 1024 * (leading - 0xD800) + (trailing - 0xDC00))

/-- What is wrong with a code that has fewer than four characters left: there is no code unless four
bytes are left. -/
def shortCodeFault (rest : List Char) : Fault :=
  if (String.ofList rest).utf8ByteSize < 4 then .endOfText .string else .invalidEscape

/-- What is wrong after the first half of a pair, when no complete second escape follows. -/
def unpairedFault : List Char → Fault
  | [] => .endOfText .string
  | '\\' :: [] => .endOfText .string
  | '\\' :: 'u' :: rest => shortCodeFault rest
  | _ => .unpairedLeadingSurrogate

/-- Puts a character before a string that has been read. -/
def prepend (c : Char) (r : Except Fault (List Char × List Char)) :
    Except Fault (List Char × List Char) :=
  r.map fun (s, rest) => (c :: s, rest)

/-- Reads a string, after its opening quote. -/
def readString : List Char → Except Fault (List Char × List Char)
  | [] => .error (.endOfText .string)
  | '"' :: rest => .ok ([], rest)
  | '\\' :: [] => .error (.endOfText .string)
  | '\\' :: 'u' :: a :: b :: c :: d :: rest =>
    match hexUnit? a b c d with
    | none => .error .invalidEscape
    | some n =>
      if isTrailing n then .error .unpairedTrailingSurrogate
      else if isLeading n then
        match rest with
        | '\\' :: 'u' :: a :: b :: c :: d :: rest =>
          match hexUnit? a b c d with
          | none => .error .invalidEscape
          | some m =>
            if isTrailing m then prepend (pairChar n m) (readString rest)
            else .error .unpairedTrailingSurrogate
        | rest => .error (unpairedFault rest)
      else prepend (Char.ofNat n) (readString rest)
  | '\\' :: c :: rest =>
    if c = 'u' then .error (shortCodeFault rest)
    else match shortEscape? c with
      | some x => prepend x (readString rest)
      | none => .error .invalidEscape
  | c :: rest =>
    if c.toNat < 0x20 then .error .controlCharacter else prepend c (readString rest)

/-- Skips a string, after its opening quote. -/
def skipString : List Char → Except Fault (List Char)
  | [] => .error (.endOfText .string)
  | '"' :: rest => .ok rest
  | '\\' :: [] => .error (.endOfText .string)
  | '\\' :: 'u' :: a :: b :: c :: d :: rest =>
    match hexUnit? a b c d with
    | none => .error .invalidEscape
    | some _ => skipString rest
  | '\\' :: c :: rest =>
    if c = 'u' then .error (shortCodeFault rest)
    else if (shortEscape? c).isSome then skipString rest
    else .error .invalidEscape
  | c :: rest => if c.toNat < 0x20 then .error .controlCharacter else skipString rest

end AnchorLayout.Json
