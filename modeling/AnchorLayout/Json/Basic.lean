import AnchorLayout.Decimal.Number
import AnchorLayout.Text.Quoted

/-!
# JSON values and their text

An object keeps its members in the order in which they are written. The compact text has no blanks;
the indented text puts each item and each member on a line of its own. In strings only quotes,
backslashes and control characters are escaped, with the short escape where there is one.
-/

namespace AnchorLayout

/-- A JSON value. -/
inductive Json where
  | null
  | boolean (b : Bool)
  | number (n : Decimal.Number)
  | string (s : String)
  | array (items : List Json)
  | object (members : List (String × Json))

namespace Json

/-- An integer as a value. -/
def ofInt (n : Int) : Json := number (.integer n)

/-- Puts a member into an object whose keys ascend, in place of a member with the same key. -/
def insertMember (key : String) (value : Json) : List (String × Json) → List (String × Json)
  | [] => [(key, value)]
  | (k, v) :: rest =>
    if key = k then (key, value) :: rest
    else if key < k then (key, value) :: (k, v) :: rest
    else (k, v) :: insertMember key value rest

/-- Members in ascending order of their keys; of several with one key the last counts. -/
def sortMembers (members : List (String × Json)) : List (String × Json) :=
  members.foldl (fun sorted (key, value) => insertMember key value sorted) []

/-- One character of a string. -/
def escapeChar (c : Char) : String :=
  if c = '"' then "\\\""
  else if c = '\\' then "\\\\"
  else if c = '\n' then "\\n"
  else if c = '\r' then "\\r"
  else if c = '\t' then "\\t"
  else if c = '\x08' then "\\b"
  else if c = '\x0C' then "\\f"
  else if c.toNat < 0x20 then
    "\\u00" ++ String.ofList [Nat.digitChar (c.toNat / 16), Nat.digitChar (c.toNat % 16)]
  else c.toString

/-- The text of a string. -/
def quote (s : String) : String := "\"" ++ String.join (s.toList.map escapeChar) ++ "\""

/-- The text of a truth value. -/
def boolText (b : Bool) : String := if b then "true" else "false"

mutual

/-- The text of a value without blanks. -/
def compact : Json → String
  | null => "null"
  | boolean b => boolText b
  | number n => n.text
  | string s => quote s
  | array items => "[" ++ compactItems items ++ "]"
  | object members => "\x7b" ++ compactMembers members ++ "\x7d"

/-- Items between commas. -/
def compactItems : List Json → String
  | [] => ""
  | [v] => v.compact
  | v :: rest => v.compact ++ "," ++ compactItems rest

/-- Members between commas. -/
def compactMembers : List (String × Json) → String
  | [] => ""
  | [(k, v)] => quote k ++ ":" ++ v.compact
  | (k, v) :: rest => quote k ++ ":" ++ v.compact ++ "," ++ compactMembers rest

end

mutual

/-- The value with the members of every object in ascending order of their keys. -/
def sorted : Json → Json
  | array items => array (sortedItems items)
  | object members => object (sortMembers (sortedValues members))
  | v => v

/-- Sorts within each item. -/
def sortedItems : List Json → List Json
  | [] => []
  | v :: rest => v.sorted :: sortedItems rest

/-- Sorts within the value of each member. -/
def sortedValues : List (String × Json) → List (String × Json)
  | [] => []
  | (k, v) :: rest => (k, v.sorted) :: sortedValues rest

end

/-- A new line at a depth of nesting. -/
def newline (depth : Nat) : String := "\n" ++ String.ofList (List.replicate (2 * depth) ' ')

mutual

/-- The text of a value in which the items at each depth are indented by two more blanks. -/
def indented (depth : Nat) : Json → String
  | null => "null"
  | boolean b => boolText b
  | number n => n.text
  | string s => quote s
  | array [] => "[]"
  | array (v :: rest) => "[" ++ indentedItems (depth + 1) (v :: rest) ++ newline depth ++ "]"
  | object [] => "\x7b\x7d"
  | object (m :: rest) =>
    "\x7b" ++ indentedMembers (depth + 1) (m :: rest) ++ newline depth ++ "\x7d"

/-- Items on lines of their own, between commas. -/
def indentedItems (depth : Nat) : List Json → String
  | [] => ""
  | [v] => newline depth ++ v.indented depth
  | v :: rest => newline depth ++ v.indented depth ++ "," ++ indentedItems depth rest

/-- Members on lines of their own, between commas. -/
def indentedMembers (depth : Nat) : List (String × Json) → String
  | [] => ""
  | [(k, v)] => newline depth ++ quote k ++ ": " ++ v.indented depth
  | (k, v) :: rest =>
    newline depth ++ quote k ++ ": " ++ v.indented depth ++ "," ++ indentedMembers depth rest

end

/-- The indented text of a value. -/
def pretty (v : Json) : String := v.indented 0

end Json
end AnchorLayout
