import RecordRing.Json.Reader
import RecordRing.Text.Utf8

/-!
# JSON strings

A string is read byte by byte, behind its opening quote; what the bytes read so far leave open is
the *mode*. A character outside the basic plane may be escaped as a pair of surrogates, so half of
a pair is kept until the other half is there.

A string that is passed over and not used is only checked for its lexical form: four hexadecimal
digits are enough for an escape, whatever number they make.

## Main definitions

* `Json.Mode`, `Json.Mode.step`, `Json.stringBody` — the bytes of a string
* `Json.skipStringBody` — pass over a string
-/

namespace RecordRing.Json

/-- The value of a hexadecimal digit. -/
def hexValue? (b : UInt8) : Option Nat :=
  if 0x30 ≤ b && b ≤ 0x39 then some (b.toNat - 0x30)
  else if 0x41 ≤ b && b ≤ 0x46 then some (b.toNat - 0x37)
  else if 0x61 ≤ b && b ≤ 0x66 then some (b.toNat - 0x57)
  else none

/-- The number that hexadecimal digits make. -/
def hexNumber? (digits : List UInt8) : Option Nat :=
  digits.foldl (fun value b => do return (← value) * 16 + (← hexValue? b)) (some 0)

/-- The byte that a letter behind a backslash stands for. -/
def escaped? (b : UInt8) : Option UInt8 :=
  if b = 0x22 || b = 0x5C || b = 0x2F then some b
  else if b = 0x62 then some 0x08
  else if b = 0x66 then some 0x0C
  else if b = 0x6E then some 0x0A
  else if b = 0x72 then some 0x0D
  else if b = 0x74 then some 0x09
  else none

/-- The bytes of the character with this number. -/
def characterBytes (n : Nat) : List UInt8 := String.utf8EncodeChar (Char.ofNat n)

/-- What the bytes of a string read so far leave open. -/
inductive Mode where
  /-- Nothing. -/
  | plain
  /-- What a backslash escapes. -/
  | escape
  /-- The digits of an escaped number, of which `got` are there, behind the first half `lead?` of a
  pair. -/
  | hex (lead? : Option Nat) (got : List UInt8)
  /-- The backslash of the second half of a pair. -/
  | pairEscape (lead : Nat)
  /-- The letter of the second half of a pair. -/
  | pairLetter (lead : Nat)
deriving DecidableEq, Repr

/-- What one byte comes to. -/
inductive Progress where
  /-- It adds `bytes`, and the string goes on. -/
  | go (mode : Mode) (bytes : List UInt8)
  /-- It ends the string. -/
  | stop
  /-- It cannot stand there. -/
  | fail (cause : Cause)
deriving DecidableEq, Repr

namespace Mode

/-- An escaped number is complete. -/
def complete (lead? : Option Nat) (n : Nat) : Progress :=
  match lead? with
  | none =>
    if 0xDC00 ≤ n ∧ n ≤ 0xDFFF then .fail .loneSurrogate
    else if 0xD800 ≤ n ∧ n ≤ 0xDBFF then .go (.pairEscape n) []
    else .go .plain (characterBytes n)
  | some lead =>
    if 0xDC00 ≤ n ∧ n ≤ 0xDFFF then
      .go .plain (characterBytes ((lead - 0xD800) * 0x400 + (n - 0xDC00) + 0x10000))
    else .fail .loneSurrogate

/-- One byte further on. -/
def step : Mode → UInt8 → Progress
  | .plain, b =>
    if b = 0x22 then .stop
    else if b = 0x5C then .go .escape []
    else if b < 0x20 then .fail .controlCharacter
    else .go .plain [b]
  | .escape, b =>
    if b = 0x75 then .go (.hex none []) []
    else
      match escaped? b with
      | some c => .go .plain [c]
      | none => .fail .invalidEscape
  | .hex lead? got, b =>
    let got := got ++ [b]
    if got.length < 4 then .go (.hex lead? got) []
    else
      match hexNumber? got with
      | some n => complete lead? n
      | none => .fail .invalidEscape
  | .pairEscape lead, b =>
    if b = 0x5C then .go (.pairLetter lead) [] else .fail .unpairedSurrogate
  | .pairLetter lead, b =>
    if b = 0x75 then .go (.hex (some lead) []) [] else .fail .unpairedSurrogate

end Mode

/-- The bytes of a string behind `mode`, with `done` of them read already, the last one first. -/
def stringFrom (mode : Mode) (done : List UInt8) : List UInt8 → Nat →
    Except Fault (List UInt8) × Cursor
  | [], offset => (.error ⟨.endInString, some offset⟩, ⟨[], offset⟩)
  | b :: bs, offset =>
    match mode.step b with
    | .go mode bytes => stringFrom mode (bytes.reverse ++ done) bs (offset + 1)
    | .stop => (.ok done.reverse, ⟨bs, offset + 1⟩)
    | .fail cause => (.error ⟨cause, some (offset + 1)⟩, ⟨bs, offset + 1⟩)

/-- The text of a string behind its opening quote. -/
def stringBody : Reader String := fun c =>
  match stringFrom .plain [] c.rest c.offset with
  | (.ok bytes, c) => (.ok (Text.decodeLossy bytes), c)
  | (.error e, c) => (.error e, c)

/-! ### Passing over a string -/

/-- One byte of a string that is passed over. An escaped number may be any, also half of a pair. -/
def Mode.pass : Mode → UInt8 → Progress
  | .hex _ got, b =>
    let got := got ++ [b]
    if got.length < 4 then .go (.hex none got) []
    else if (hexNumber? got).isSome then .go .plain []
    else .fail .invalidEscape
  | mode, b => mode.step b

/-- Pass over the bytes of a string behind `mode`. A control character is not passed. -/
def skipStringFrom (mode : Mode) : List UInt8 → Nat → Except Fault Unit × Cursor
  | [], offset => (.error ⟨.endInString, some offset⟩, ⟨[], offset⟩)
  | b :: bs, offset =>
    match mode.pass b with
    | .go mode _ => skipStringFrom mode bs (offset + 1)
    | .stop => (.ok (), ⟨bs, offset + 1⟩)
    | .fail .controlCharacter => (.error ⟨.controlCharacter, some offset⟩, ⟨b :: bs, offset⟩)
    | .fail cause => (.error ⟨cause, some (offset + 1)⟩, ⟨bs, offset + 1⟩)

/-- Pass over a string behind its opening quote. -/
def skipStringBody : Reader Unit := fun c => skipStringFrom .plain c.rest c.offset

end RecordRing.Json
