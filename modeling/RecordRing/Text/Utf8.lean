/-!
# UTF-8, read leniently and strictly

A decoder reads bytes one at a time. Between characters it looks at the first byte to learn how
many bytes must follow, and which values the next of them may have; the second byte has narrower
bounds after some first bytes, which keeps out overlong forms, surrogates and numbers above
`0x10FFFF`.

Read leniently, every longest run of bytes that starts a character and cannot be completed gives
one replacement character, and so does every byte that starts none. Read strictly, such a text
has no characters at all.

## Main definitions

* `Text.Decoder`, `Text.Decoder.start`, `Text.Decoder.step` — one byte at a time
* `Text.decodeLossy` — the characters, with replacements
* `Text.decode?` — the characters, if there is nothing to replace
* `Text.encode` — the bytes of a text
-/

namespace RecordRing.Text

/-- The character that stands for bytes which are none. -/
def replacement : Char := '\uFFFD'

/-- A character under way: what is known of it, how many bytes it lacks, and between which bounds
the next of them is. -/
structure Decoder where
  /-- The bits read so far. -/
  bits : Nat
  /-- How many bytes follow the next one. -/
  more : Nat
  /-- The least value the next byte may have. -/
  low : UInt8
  /-- The greatest value the next byte may have. -/
  high : UInt8
deriving DecidableEq, Repr

/-- What a byte between characters does. -/
inductive Lead where
  /-- It is a character by itself. -/
  | single (c : Char)
  /-- It starts a longer character. -/
  | opens (d : Decoder)
  /-- It starts none. -/
  | invalid
deriving DecidableEq, Repr

namespace Decoder

/-- Read a byte between characters. -/
def start (b : UInt8) : Lead :=
  if b < 0x80 then .single (Char.ofNat b.toNat)
  else if b < 0xC2 then .invalid
  else if b < 0xE0 then .opens ⟨b.toNat % 0x20, 0, 0x80, 0xBF⟩
  else if b < 0xF0 then
    .opens ⟨b.toNat % 0x10, 1, if b = 0xE0 then 0xA0 else 0x80, if b = 0xED then 0x9F else 0xBF⟩
  else if b < 0xF5 then
    .opens ⟨b.toNat % 0x08, 2, if b = 0xF0 then 0x90 else 0x80, if b = 0xF4 then 0x8F else 0xBF⟩
  else .invalid

/-- Whether the character can go on with `b`. -/
def accepts (d : Decoder) (b : UInt8) : Bool := d.low ≤ b && b ≤ d.high

/-- Go on with `b`: the character, if that completes it, or what is known of it now. -/
def step (d : Decoder) (b : UInt8) : Char ⊕ Decoder :=
  let bits := d.bits * 0x40 + b.toNat % 0x40
  match d.more with
  | 0 => .inl (Char.ofNat bits)
  | more + 1 => .inr ⟨bits, more, 0x80, 0xBF⟩

end Decoder

/-! ### Reading leniently -/

/-- The characters that a byte between characters gives at once, and the character it opens. -/
def enter (b : UInt8) : List Char × Option Decoder :=
  match Decoder.start b with
  | .single c => ([c], none)
  | .opens d => ([], some d)
  | .invalid => ([replacement], none)

/-- The characters of the bytes that follow, inside a character or between two. -/
def decodeLossyFrom : Option Decoder → List UInt8 → List Char
  | none, [] => []
  | some _, [] => [replacement]
  | none, b :: bs =>
    let (chars, inside) := enter b
    chars ++ decodeLossyFrom inside bs
  | some d, b :: bs =>
    if d.accepts b then
      match d.step b with
      | .inl c => c :: decodeLossyFrom none bs
      | .inr d => decodeLossyFrom (some d) bs
    else
      let (chars, inside) := enter b
      replacement :: (chars ++ decodeLossyFrom inside bs)

/-- The characters of `bs`, with a replacement for each longest run that is none. -/
def decodeLossy (bs : List UInt8) : String := String.ofList (decodeLossyFrom none bs)

/-! ### Reading strictly -/

/-- The characters of the bytes that follow, if all of them are well formed. -/
def decodeFrom? : Option Decoder → List UInt8 → Option (List Char)
  | none, [] => some []
  | some _, [] => none
  | none, b :: bs =>
    match Decoder.start b with
    | .single c => (decodeFrom? none bs).map (c :: ·)
    | .opens d => decodeFrom? (some d) bs
    | .invalid => none
  | some d, b :: bs =>
    if d.accepts b then
      match d.step b with
      | .inl c => (decodeFrom? none bs).map (c :: ·)
      | .inr d => decodeFrom? (some d) bs
    else none

/-- The text that `bs` is, if it is one. -/
def decode? (bs : List UInt8) : Option String := (decodeFrom? none bs).map String.ofList

/-- The bytes of a text. -/
def encode (s : String) : List UInt8 := s.toList.flatMap String.utf8EncodeChar

/-! ### Small facts -/

/-- Where strict reading succeeds, lenient reading replaces nothing. -/
theorem decodeLossyFrom_of_decodeFrom? {bs : List UInt8} {inside : Option Decoder} {cs : List Char}
    (h : decodeFrom? inside bs = some cs) : decodeLossyFrom inside bs = cs := by
  induction bs generalizing inside cs with
  | nil => cases inside <;> simp_all [decodeFrom?, decodeLossyFrom]
  | cons b bs ih =>
    cases inside with
    | none =>
      rw [decodeFrom?] at h
      rw [decodeLossyFrom, enter]
      split at h
      · obtain ⟨ds, hds, rfl⟩ := Option.map_eq_some_iff.1 h
        simp_all
      · simp_all
      · cases h
    | some d =>
      rw [decodeFrom?] at h
      rw [decodeLossyFrom]
      split at h
      · split at h
        · obtain ⟨ds, hds, rfl⟩ := Option.map_eq_some_iff.1 h
          simp_all
        · simp_all
      · cases h

end RecordRing.Text
