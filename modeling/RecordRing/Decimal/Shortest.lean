/-!
# The shortest decimal of a binary fraction

A finite double is `m · 2 ^ q` for whole `m` and `q`. Many decimals round to it; among those with
the fewest digits the nearest is its shortest decimal. Everything here is exact arithmetic on
natural numbers, so nothing rounds but what is meant to.

Scaled by the power of ten that leaves `k` digits before the point, the double lies between two
neighbouring whole numbers. If any `k`-digit decimal rounds to the double, one of these two does,
and so trying `k = 1, 2, …, 17` finds the fewest digits.

## Main definitions

* `Decimal.Binary`, `Decimal.Binary.ofBits` — a finite double, taken apart
* `Decimal.Binary.shortest` — its shortest decimal: the digits, and where the point goes
* `Decimal.Layout`, `Decimal.Layout.render` — how a decimal is written, and the text of a double
-/

namespace RecordRing.Decimal

/-- A positive fraction `m · 2 ^ q`, and whether the double below it is only half as far away as the
one above. -/
structure Binary where
  /-- The significand. -/
  m : Nat
  /-- The exponent of two. -/
  q : Int
  /-- Whether the significand is the least one of its size. -/
  atPowerOfTwo : Bool
deriving DecidableEq, Repr

namespace Binary

/-- The magnitude of the double with these bits. -/
def ofBits (bits : UInt64) : Binary :=
  let fraction : Nat := bits.toNat % Nat.pow 2 52
  let exponent : Nat := bits.toNat / Nat.pow 2 52 % Nat.pow 2 11
  if exponent = 0 then ⟨fraction, -1074, false⟩
  else ⟨Nat.pow 2 52 + fraction, (exponent : Int) - 1075, fraction == 0 && exponent != 1⟩

/-- A fraction `num / den`, for a numerator scaled by `2 ^ two · 10 ^ ten`. -/
def scaled (num : Nat) (two ten : Int) : Nat × Nat :=
  (num * Nat.pow 2 two.toNat * Nat.pow 10 ten.toNat,
    Nat.pow 2 (-two).toNat * Nat.pow 10 (-ten).toNat)

/-- Whether `digits / 10 ^ ten` rounds to the double. Four times the significand measures the
distances to both neighbours in whole numbers; the ends of the interval round to the double exactly
if its significand is even. -/
def contains (b : Binary) (digits : Nat) (ten : Int) : Bool :=
  let (low, den) := scaled (4 * b.m - (if b.atPowerOfTwo then 1 else 2)) (b.q - 2) ten
  let (high, _) := scaled (4 * b.m + 2) (b.q - 2) ten
  let point := digits * den
  if b.m % 2 = 0 then low ≤ point && point ≤ high else low < point && point < high

/-- The number of digits before the point of `num / den`, less one; negative below one. -/
def magnitude (num den : Nat) : Int :=
  if den ≤ num then (Nat.toDigits 10 (num / den)).length - 1
  else Int.negOfNat ((List.range 400).findIdx fun k => den ≤ num * Nat.pow 10 k)

/-- The nearest of the whole numbers next to `b · 10 ^ ten` that round to it. Of two at the same
distance the even one is taken. -/
def neighbour? (b : Binary) (ten : Int) : Option Nat :=
  let (num, den) := scaled b.m b.q ten
  let below := num / den
  let nearer :=
    if num % den * 2 < den then below
    else if den < num % den * 2 then below + 1
    else if below % 2 = 0 then below else below + 1
  let other := if nearer = below then below + 1 else below
  if b.contains nearer ten then some nearer
  else if b.contains other ten then some other
  else none

/-- The shortest decimal of `b` as digits and the exponent of ten of the first of them. -/
def shortest (b : Binary) : List Char × Int :=
  let (num, den) := scaled b.m b.q 0
  let top := magnitude num den
  let found := (List.range 17).findSome? fun (k : Nat) =>
    let ten : Int := k - top
    (b.neighbour? ten).map fun digits => (digits, ten)
  match found with
  | none => (['0'], 0)
  | some (digits, ten) =>
    let text := Nat.toDigits 10 digits
    let significant := (text.reverse.dropWhile (· == '0')).reverse
    (if significant.isEmpty then ['0'] else significant, text.length - 1 - ten)

end Binary

/-! ### Writing a decimal -/

/-- How decimals are written. -/
structure Layout where
  /-- The least exponent of ten that is written by placing the point. -/
  leastPositional : Int
  /-- The greatest exponent of ten that is written by placing the point. -/
  greatestPositional : Int
  /-- How many digits a written exponent has at least. -/
  exponentDigits : Nat
deriving DecidableEq, Repr

namespace Layout

/-- The layout of numbers in messages: the point is placed from `10 ^ -5` to below `10 ^ 16`, and an
exponent has a sign and no more digits than it needs. -/
def message : Layout := ⟨-5, 15, 1⟩

/-- The digits of an exponent, filled up with zeros. -/
def exponentText (layout : Layout) (exponent : Int) : List Char :=
  let digits := Nat.toDigits 10 exponent.natAbs
  (if exponent < 0 then '-' else '+') ::
    (List.replicate (layout.exponentDigits - digits.length) '0' ++ digits)

/-- A positive decimal: its digits, the first of which counts `10 ^ exponent`. -/
def renderDigits (layout : Layout) (digits : List Char) (exponent : Int) : List Char :=
  if layout.leastPositional ≤ exponent ∧ exponent ≤ layout.greatestPositional then
    if exponent < 0 then
      '0' :: '.' :: (List.replicate (-exponent - 1).toNat '0' ++ digits)
    else
      let whole := exponent.toNat + 1
      let padded := digits ++ List.replicate (whole - digits.length) '0'
      let fraction := padded.drop whole
      padded.take whole ++ '.' :: (if fraction.isEmpty then ['0'] else fraction)
  else
    match digits with
    | [d] => d :: 'e' :: layout.exponentText exponent
    | d :: ds => d :: '.' :: (ds ++ 'e' :: layout.exponentText exponent)
    | [] => []

/-- The text of the finite double with these bits. -/
def render (layout : Layout) (bits : UInt64) : String :=
  let b := Binary.ofBits bits
  let sign := if Nat.pow 2 63 ≤ bits.toNat then ['-'] else []
  let digits :=
    if b.m = 0 then ['0', '.', '0']
    else
      let (digits, exponent) := b.shortest
      layout.renderDigits digits exponent
  String.ofList (sign ++ digits)

end Layout

end RecordRing.Decimal
