import RecordRing.Text.Utf8

/-!
# Writing JSON

A value is written either without any blanks or with one item a line, each list and object indented
by two spaces more than what is around it. Both forms write members in the order given.

In a string the quote, the backslash and the control characters are escaped, five of them by a
letter and the others by their number; every other character is written as itself.

## Main definitions

* `Json.Value` — the values that are written
* `Json.Value.compact`, `Json.Value.indented` — the two forms, as bytes
-/

namespace RecordRing.Json

/-- A value to be written. -/
inductive Value where
  /-- A truth value. -/
  | bool (b : Bool)
  /-- A natural number. -/
  | natural (n : Nat)
  /-- A string. -/
  | string (s : String)
  /-- A list. -/
  | list (items : List Value)
  /-- An object: names and values. -/
  | object (members : List (String × Value))

/-- The digits of a natural number. -/
def naturalBytes (n : Nat) : List UInt8 := (Nat.toDigits 10 n).map Char.toUInt8

/-- The byte of a hexadecimal digit. -/
def hexByte (n : Nat) : UInt8 := (Nat.digitChar n).toUInt8

/-- One byte inside a string. -/
def stringByte (b : UInt8) : List UInt8 :=
  if b = 0x22 || b = 0x5C then [0x5C, b]
  else if b = 0x08 then [0x5C, 0x62]
  else if b = 0x09 then [0x5C, 0x74]
  else if b = 0x0A then [0x5C, 0x6E]
  else if b = 0x0C then [0x5C, 0x66]
  else if b = 0x0D then [0x5C, 0x72]
  else if b < 0x20 then
    [0x5C, 0x75, 0x30, 0x30, hexByte (b.toNat / 16), hexByte (b.toNat % 16)]
  else [b]

/-- A string in quotes. -/
def stringBytes (s : String) : List UInt8 := 0x22 :: (Text.encode s).flatMap stringByte ++ [0x22]

/-- The bytes of a truth value. -/
def boolBytes (b : Bool) : List UInt8 :=
  if b then [0x74, 0x72, 0x75, 0x65] else [0x66, 0x61, 0x6C, 0x73, 0x65]

/-- Texts one after the other, with `mark` between them. -/
def separated (mark : List UInt8) : List (List UInt8) → List UInt8
  | [] => []
  | [text] => text
  | text :: texts => text ++ mark ++ separated mark texts

/-- A member of an object without blanks, its value written already. -/
def memberBytes (name : String) (value : List UInt8) : List UInt8 :=
  stringBytes name ++ 0x3A :: value

/-- An object without blanks, its members written already. -/
def objectBytes (members : List (List UInt8)) : List UInt8 :=
  0x7B :: separated [0x2C] members ++ [0x7D]

/-- The end of a line, and `depth` indentations of the next one. -/
def newLine (depth : Nat) : List UInt8 := 0x0A :: List.replicate (2 * depth) 0x20

/-- Items between `left` and `right`, each on a line of its own; none at all need no lines. -/
def block (depth : Nat) (left right : UInt8) (items : List (List UInt8)) : List UInt8 :=
  if items.isEmpty then [left, right]
  else
    left :: newLine (depth + 1) ++ separated (0x2C :: newLine (depth + 1)) items ++ newLine depth
      ++ [right]

namespace Value

mutual

/-- The value without blanks. -/
def compact : Value → List UInt8
  | .bool b => boolBytes b
  | .natural n => naturalBytes n
  | .string s => stringBytes s
  | .list items => 0x5B :: separated [0x2C] (compactItems items) ++ [0x5D]
  | .object members => objectBytes (compactMembers members)

/-- The items of a list without blanks. -/
def compactItems : List Value → List (List UInt8)
  | [] => []
  | item :: items => item.compact :: compactItems items

/-- The members of an object without blanks. -/
def compactMembers : List (String × Value) → List (List UInt8)
  | [] => []
  | (name, value) :: members => memberBytes name value.compact :: compactMembers members

end

mutual

/-- The value with one item a line, inside `depth` lists and objects. -/
def indentedAt (depth : Nat) : Value → List UInt8
  | .bool b => boolBytes b
  | .natural n => naturalBytes n
  | .string s => stringBytes s
  | .list items => block depth 0x5B 0x5D (indentedItems (depth + 1) items)
  | .object members => block depth 0x7B 0x7D (indentedMembers (depth + 1) members)

/-- The items of a list with one item a line. -/
def indentedItems (depth : Nat) : List Value → List (List UInt8)
  | [] => []
  | item :: items => item.indentedAt depth :: indentedItems depth items

/-- The members of an object with one item a line. -/
def indentedMembers (depth : Nat) : List (String × Value) → List (List UInt8)
  | [] => []
  | (name, value) :: members =>
    (stringBytes name ++ 0x3A :: 0x20 :: value.indentedAt depth) :: indentedMembers depth members

end

/-- The value with one item a line. -/
def indented (v : Value) : List UInt8 := v.indentedAt 0

end Value

end RecordRing.Json
