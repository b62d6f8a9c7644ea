import TaskLedger.Text.Hidden

/-!
**Quoted texts.**

A message that names a value it could not use shows it between double quotes.  What a reader could
not see, or could take for the end of the text, is written as an escape.

Main definitions:

* `TaskLedger.Text.escape` — one character as it stands inside the quotes;
* `TaskLedger.Text.quote` — the whole quoted text.
-/

set_option autoImplicit false

namespace TaskLedger.Text

/-- The digits of a number in base sixteen, in lower case. -/
def hexDigits (n : Nat) : List Char := Nat.toDigits 16 n

/-- A code point as an escape: `\u` and its hexadecimal digits between braces. -/
def codePoint (c : Char) : List Char :=
  '\\' :: 'u' :: '{' :: (hexDigits c.toNat ++ ['}'])

/-- A character as it stands in a quoted text: five have an escape of their own, hidden ones are
shown by their code point, all others by themselves. -/
def escape (c : Char) : List Char :=
  if c = '\x00' then ['\\', '0']
  else if c = '\t' then ['\\', 't']
  else if c = '\n' then ['\\', 'n']
  else if c = '\r' then ['\\', 'r']
  else if c = '\\' then ['\\', '\\']
  else if c = '"' then ['\\', '"']
  else if isHidden c then codePoint c
  else [c]

/-- A text between double quotes, with its characters escaped. -/
def quote (s : String) : String :=
  .ofList ('"' :: (s.toList.flatMap escape ++ ['"']))

end TaskLedger.Text
