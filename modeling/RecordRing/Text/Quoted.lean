import RecordRing.Text.Visible

/-!
# Quoted text

A text in double quotes, so that every character of it can be told from the writing alone. The
quote itself, the backslash, the tab, the two ends of line and the zero character are written by
a backslash and a letter; a character that cannot be seen where it stands is written by its number.

## Main definitions

* `Text.quoteChar`, `Text.quote` — the quoted form of a character and of a text
-/

namespace RecordRing.Text

/-- The digits of `n` to the base sixteen, in lower case. -/
def hexDigits (n : Nat) : List Char := Nat.toDigits 16 n

/-- A character by its number. -/
def numbered (c : Char) : List Char := "\\u\x7b".toList ++ hexDigits c.toNat ++ ['}']

/-- The quoted form of one character. -/
def quoteChar (c : Char) : List Char :=
  if c = '\x00' then ['\\', '0']
  else if c = '\t' then ['\\', 't']
  else if c = '\r' then ['\\', 'r']
  else if c = '\n' then ['\\', 'n']
  else if c = '"' then ['\\', '"']
  else if c = '\\' then ['\\', '\\']
  else if c.toNat < 0x7F ∧ 0x20 ≤ c.toNat then [c]
  else if isExtender c || isUnprintable c then numbered c
  else [c]

/-- The quoted form of a text. -/
def quote (s : String) : String := String.ofList ('"' :: s.toList.flatMap quoteChar ++ ['"'])

end RecordRing.Text
