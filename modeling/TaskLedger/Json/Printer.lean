import TaskLedger.Json.Basic
import TaskLedger.Number.Shortest

/-!
**JSON values as text.**

Values are written without blanks.  Inside a text only the quote, the backslash and the control
characters below the space are escaped.
-/

set_option autoImplicit false

namespace TaskLedger.Json

/-- The four hexadecimal digits of a code unit. -/
def unitDigits (n : Nat) : List Char :=
  let digits := Nat.toDigits 16 n
  List.replicate (4 - digits.length) '0' ++ digits

/-- A character as it stands inside a text. -/
def escape (c : Char) : List Char :=
  if c = '"' then ['\\', '"']
  else if c = '\\' then ['\\', '\\']
  else if c = '\x08' then ['\\', 'b']
  else if c = '\x0c' then ['\\', 'f']
  else if c = '\n' then ['\\', 'n']
  else if c = '\r' then ['\\', 'r']
  else if c = '\t' then ['\\', 't']
  else if c < ' ' then '\\' :: 'u' :: unitDigits c.toNat
  else [c]

/-- A text between quotes. -/
def quoted (s : String) : String := .ofList ('"' :: (s.toList.flatMap escape ++ ['"']))

mutual

/-- The text of a value, without blanks. -/
def compact : Json → String
  | .null => "null"
  | .bool true => "true"
  | .bool false => "false"
  | .int n => toString n
  | .double x => x.toText
  | .text s => quoted s
  | .list items => "[" ++ compactItems items ++ "]"
  | .object members => "\x7b" ++ compactMembers members ++ "\x7d"

/-- The texts of the items of a list, separated by commas. -/
def compactItems : List Json → String
  | [] => ""
  | [item] => compact item
  | item :: rest => compact item ++ "," ++ compactItems rest

/-- The members of an object, separated by commas. -/
def compactMembers : List (String × Json) → String
  | [] => ""
  | [(key, value)] => quoted key ++ ":" ++ compact value
  | (key, value) :: rest => quoted key ++ ":" ++ compact value ++ "," ++ compactMembers rest

end

end TaskLedger.Json
