import RecordRing.Json.Reader

/-!
# JSON numbers

A number without point and exponent that fits in 64 bits is kept as it is: a natural number, or a
negative one down to `-2 ^ 63`. Every other number becomes a double. Its digits make a significand
for as long as that fits in 64 bits; later digits of the whole part count as zeros, later ones of
the fraction not at all. The significand is then multiplied or divided by a power of ten, in one
step where the power is a double.

## Main definitions

* `Json.Numeral` — a number that was read
* `Json.numeral` — read one
* `Json.skipNumber` — pass over one
-/

namespace RecordRing.Json

/-- A number that was read. -/
inductive Numeral where
  /-- A natural number below `2 ^ 64`. -/
  | natural (n : Nat)
  /-- The negative of a number from one to `2 ^ 63`. -/
  | negative (n : Nat)
  /-- A double, given by its bits. -/
  | float (bits : UInt64)
deriving DecidableEq, Repr

/-- The number as a value found in the place of another. -/
def Numeral.found : Numeral → Found
  | .natural n => .integer n
  | .negative n => .integer (-n)
  | .float bits => .float bits

/-! ### Digits -/

/-- Whether `b` is a decimal digit. -/
def isDigit (b : UInt8) : Bool := 0x30 ≤ b && b ≤ 0x39

/-- The value of a decimal digit. -/
def digitValue (b : UInt8) : Nat := b.toNat - 0x30

/-- Pass the digits that come next. -/
def digits : Reader (List UInt8) := fun c =>
  let found := c.rest.takeWhile isDigit
  (.ok found, c.drop found.length)

/-- The number that digits make, behind the `taken` digits of `value`; once it is more than `bound`,
how many digits it took. -/
def valueWithin (bound : Nat) : Nat → Nat → List UInt8 → Except Nat Nat
  | value, taken, [] => if bound < value then .error taken else .ok value
  | value, taken, b :: bs =>
    if bound < value then .error taken
    else valueWithin bound (value * 10 + digitValue b) (taken + 1) bs

/-- Append digits to a significand for as long as it fits in 64 bits, and count them. -/
def absorb (significand : Nat) : List UInt8 → Nat × Nat
  | [] => (significand, 0)
  | b :: bs =>
    let more := significand * 10 + digitValue b
    if more < UInt64.size then
      let (whole, count) := absorb more bs
      (whole, count + 1)
    else (significand, 0)

/-! ### Doubles -/

/-- A power of ten that is a finite double. -/
def powerOfTen (k : Nat) : Float := Float.ofScientific 1 false k

/-- `f · 10 ^ exponent`, or nothing if that is too large. An exponent below the powers of ten there
are is come by in several divisions, after the third of which nothing is left of any number. -/
def scale : Nat → Float → Int → Option Float
  | tries, f, exponent =>
    if exponent.natAbs ≤ 308 then
      if 0 ≤ exponent then
        let g := f * powerOfTen exponent.natAbs
        if g.isInf then none else some g
      else some (f / powerOfTen exponent.natAbs)
    else if f == 0 then some f
    else if 0 ≤ exponent then none
    else
      match tries with
      | 0 => some 0
      | tries + 1 => scale tries (f / powerOfTen 308) (exponent + 308)

/-- The double `± significand · 10 ^ exponent`. -/
def double (positive : Bool) (significand : Nat) (exponent : Int) : Reader Numeral :=
  match scale 3 significand.toUInt64.toFloat exponent with
  | some f => pure (.float (if positive then f else -f).toBits)
  | none => failHere .numberOutOfRange

/-! ### Reading a number -/

/-- The greatest exponent that is counted. -/
def greatestExponent : Nat := Nat.pow 2 31 - 1

/-- The rest of a number from the letter of its exponent on. `before` is the exponent that the
digits already have. -/
def exponentPart (positive : Bool) (significand : Nat) (before : Int) : Reader Numeral := do
  skip
  let up ← match ← peek with
    | some 0x2B => skip; pure true
    | some 0x2D => skip; pure false
    | _ => pure true
  match ← peek with
  | none => failHere .endInValue
  | some b =>
    if !isDigit b then
      skip
      failHere .invalidNumber
    else
      let start : Cursor ← fun c => (.ok c, c)
      let found ← digits
      match valueWithin greatestExponent 0 0 found with
      | .ok exponent =>
        double positive significand (if up then before + exponent else before - exponent)
      | .error taken =>
        if significand ≠ 0 && up then fun _ => failHere .numberOutOfRange (start.drop taken)
        else pure (.float (if positive then 0.0 else -0.0 : Float).toBits)

/-- The rest of a number behind its significand, from the letter of an exponent on if there is
one. -/
def afterSignificand (positive : Bool) (significand : Nat) (exponent : Int) : Reader Numeral := do
  match ← peek with
  | some 0x65 | some 0x45 => exponentPart positive significand exponent
  | _ => double positive significand exponent

/-- The rest of a number from its point on. `before` is the exponent that the digits already
have. -/
def fractionPart (positive : Bool) (significand : Nat) (before : Int) : Reader Numeral := do
  skip
  let found ← digits
  if found.isEmpty then
    match ← peek with
    | some _ => failAhead .invalidNumber
    | none => failAhead .endInValue
  else
    let (significand, count) := absorb significand found
    afterSignificand positive significand (before - count)

/-- The number with the whole part `significand`, which no digit was left out of. -/
def wholeNumber (positive : Bool) (significand : Nat) : Reader Numeral := do
  match ← peek with
  | some 0x2E => fractionPart positive significand 0
  | some 0x65 | some 0x45 => exponentPart positive significand 0
  | _ =>
    if positive then pure (.natural significand)
    else if significand ≠ 0 && significand ≤ Nat.pow 2 63 then pure (.negative significand)
    else pure (.float (-significand.toUInt64.toFloat).toBits)

/-- Read a number behind its sign. -/
def numeral (positive : Bool) : Reader Numeral := do
  match ← peek with
  | none => failHere .endInValue
  | some b =>
    if b = 0x30 then
      skip
      match ← peek with
      | some d => if isDigit d then failAhead .invalidNumber else wholeNumber positive 0
      | none => wholeNumber positive 0
    else if isDigit b then
      let found ← digits
      let (significand, count) := absorb 0 found
      if count = found.length then wholeNumber positive significand
      else
        let left : Nat := found.length - count
        match ← peek with
        | some 0x2E => fractionPart positive significand left
        | _ => afterSignificand positive significand left
    else
      skip
      failHere .invalidNumber

/-! ### Passing over a number -/

/-- Pass over an exponent from its letter on. -/
def skipExponent : Reader Unit := do
  skip
  match ← peek with
  | some 0x2B | some 0x2D => skip
  | _ => pure ()
  match ← next with
  | some b =>
    if isDigit b then
      let _ ← digits
    else failHere .invalidNumber
  | none => failHere .invalidNumber

/-- Pass over a fraction from its point on. -/
def skipFraction : Reader Unit := do
  skip
  let found ← digits
  if found.isEmpty then failAhead .invalidNumber
  else
    match ← peek with
    | some 0x65 | some 0x45 => skipExponent
    | _ => pure ()

/-- Pass over a number behind its sign. -/
def skipNumber : Reader Unit := do
  match ← next with
  | some b =>
    if b = 0x30 then
      match ← peek with
      | some d => if isDigit d then failAhead .invalidNumber
      | none => pure ()
    else if isDigit b then
      let _ ← digits
    else failHere .invalidNumber
  | none => failHere .invalidNumber
  match ← peek with
  | some 0x2E => skipFraction
  | some 0x65 | some 0x45 => skipExponent
  | _ => pure ()

end RecordRing.Json
