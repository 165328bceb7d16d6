import AnchorLayout.Decimal.Number
import AnchorLayout.Text.Quoted

/-!
# What can be wrong with a JSON text

A fault is found at the first place where the text, read from left to right, is no JSON or does not
have the shape that its reader asks for.
-/

namespace AnchorLayout.Json
open Decimal (Number)

/-- What was being read when the text ended. -/
inductive Part where
  | value | list | object | string
deriving DecidableEq

/-- A value of the wrong shape, as messages describe it. -/
inductive Found where
  | null
  | boolean (b : Bool)
  | number (n : Number)
  | string (s : String)
  | sequence
  | map
deriving DecidableEq

/-- The first fault of a text. -/
inductive Fault where
  | endOfText (part : Part)
  | expectedValue
  | expectedLiteral
  | expectedColon
  | expectedCommaOrBracket
  | expectedCommaOrBrace
  | keyIsNoString
  | trailingComma
  | trailingCharacters
  | invalidNumber
  | numberOutOfRange
  | invalidEscape
  | controlCharacter
  | unpairedLeadingSurrogate
  | unpairedTrailingSurrogate
  | nestedTooDeeply
  | wrongType (found : Found) (expected : String)
  | outsideRange (n : Int) (expected : String)
  | wrongLength (count : Nat) (expected : String)
  | unknownVariant (name : String) (known : List String)
  | missingField (name : String)
  | duplicateField (name : String)
  | noVariant (expected : String)
  | unknownDimension (word : String)
  | invalidDimension (n : Int)
deriving DecidableEq

/-- How messages name a part of a text. -/
def Part.text : Part → String
  | value => "a value"
  | list => "a list"
  | object => "an object"
  | string => "a string"

/-- How messages describe a value. -/
def Found.text : Found → String
  | null => "null"
  | boolean b => "boolean `" ++ (if b then "true" else "false") ++ "`"
  | number (.integer n) => "integer `" ++ toString n ++ "`"
  | number (.floating x) => "floating point `" ++ x.text ++ "`"
  | string s => "string " ++ Text.quote s
  | sequence => "sequence"
  | map => "map"

/-- The known names of a choice, as messages list them. -/
def alternatives : List String → String
  | [] => "there are no variants"
  | [a] => "expected `" ++ a ++ "`"
  | [a, b] => "expected `" ++ a ++ "` or `" ++ b ++ "`"
  | names => "expected one of " ++ ", ".intercalate (names.map fun a => "`" ++ a ++ "`")

/-- The complaint about a number that is no dimension. -/
def dimensionComplaint (n : Int) : String :=
  "invalid dimension " ++ toString n ++ ": expected a size >= 0 or MATCH_PARENT (-1)"

/-- The text of a fault. -/
def Fault.message : Fault → String
  | endOfText part => "EOF while parsing " ++ part.text
  | expectedValue => "expected value"
  | expectedLiteral => "expected ident"
  | expectedColon => "expected `:`"
  | expectedCommaOrBracket => "expected `,` or `]`"
  | expectedCommaOrBrace => "expected `,` or `\x7d`"
  | keyIsNoString => "key must be a string"
  | trailingComma => "trailing comma"
  | trailingCharacters => "trailing characters"
  | invalidNumber => "invalid number"
  | numberOutOfRange => "number out of range"
  | invalidEscape => "invalid escape"
  | controlCharacter => "control character (\\u0000-\\u001F) found while parsing a string"
  | unpairedLeadingSurrogate => "unexpected end of hex escape"
  | unpairedTrailingSurrogate => "lone leading surrogate in hex escape"
  | nestedTooDeeply => "recursion limit exceeded"
  | wrongType found expected => "invalid type: " ++ found.text ++ ", expected " ++ expected
  | outsideRange n expected =>
    "invalid value: integer `" ++ toString n ++ "`, expected " ++ expected
  | wrongLength count expected => "invalid length " ++ toString count ++ ", expected " ++ expected
  | unknownVariant name known => "unknown variant `" ++ name ++ "`, " ++ alternatives known
  | missingField name => "missing field `" ++ name ++ "`"
  | duplicateField name => "duplicate field `" ++ name ++ "`"
  | noVariant expected => "data did not match any variant of untagged enum " ++ expected
  | unknownDimension word => "unknown dimension keyword `" ++ word ++ "`"
  | invalidDimension n => dimensionComplaint n

end AnchorLayout.Json
