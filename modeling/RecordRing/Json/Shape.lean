import RecordRing.Json.Skip

/-!
# Reading values of known types

The type that is read decides what each part of the text may be. A record with named fields is read
from an object, whose members come in any order, or from a list, whose elements are the fields in
the order of their declaration.

## Main definitions

* `Json.natural`, `Json.bool` — numbers in a range, and truth values
* `Json.Field`, `Json.Shape`, `Json.Shape.reader` — records with named fields
-/

namespace RecordRing.Json

/-- Fail because the value that comes next is not of the type `expected`. It is read first, all but
a list or an object. -/
def mismatch {α : Type} (expected : String) : Reader α := placed do
  match ← peek with
  | none => failAhead .expectedValue
  | some b =>
    if b = 0x6E then
      skip
      word restOfNull
      failUnplaced (.wrongType .null expected)
    else if b = 0x74 then
      skip
      word restOfTrue
      failUnplaced (.wrongType (.bool true) expected)
    else if b = 0x66 then
      skip
      word restOfFalse
      failUnplaced (.wrongType (.bool false) expected)
    else if b = 0x2D then
      skip
      let n ← numeral false
      failUnplaced (.wrongType n.found expected)
    else if isDigit b then
      let n ← numeral true
      failUnplaced (.wrongType n.found expected)
    else if b = 0x22 then
      skip
      let s ← stringBody
      failUnplaced (.wrongType (.string s) expected)
    else if b = 0x5B then failUnplaced (.wrongType .sequence expected)
    else if b = 0x7B then failUnplaced (.wrongType .map expected)
    else failAhead .expectedValue

/-! ### Numbers and truth values -/

/-- Take a number that was read for a natural number below `bound`. -/
def Numeral.below (n : Numeral) (bound : Nat) (expected : String) : Reader Nat :=
  match n with
  | .natural n =>
    if n < bound then pure n else failUnplaced (.wrongValue (.integer n) expected)
  | .negative n => failUnplaced (.wrongValue (.integer (-n)) expected)
  | .float bits => failUnplaced (.wrongType (.float bits) expected)

/-- A natural number below `bound`; messages name the type `expected`. -/
def natural (bound : Nat) (expected : String) : Reader Nat := placed do
  match ← blank with
  | none => failAhead .endInValue
  | some b =>
    if b = 0x2D then
      skip
      let n ← numeral false
      n.below bound expected
    else if isDigit b then
      let n ← numeral true
      n.below bound expected
    else mismatch expected

/-- A truth value. -/
def bool : Reader Bool := placed do
  match ← blank with
  | none => failAhead .endInValue
  | some b =>
    if b = 0x74 then
      skip
      word restOfTrue
      pure true
    else if b = 0x66 then
      skip
      word restOfFalse
      pure false
    else mismatch "a boolean"

/-! ### Records with named fields -/

/-- A field, as part of what is known so far of a record. -/
structure Field (σ : Type) where
  /-- The name. -/
  name : String
  /-- Whether the field is known. -/
  known : σ → Bool
  /-- Read the field. -/
  read : σ → Reader σ

/-- How a record is read: `σ` is what is known so far of it. -/
structure Shape (σ α : Type) where
  /-- How messages name the type. -/
  title : String
  /-- How messages about too short a list name the type. -/
  listTitle : String
  /-- The fields in the order of their declaration. -/
  fields : List (Field σ)
  /-- Whether members of other names are refused; else they are passed over. -/
  closed : Bool
  /-- Whether a list may leave the last fields out. -/
  defaults : Bool
  /-- What is known at first. -/
  start : σ
  /-- Make the record. -/
  make : σ → Except Cause α

/-- Whether a list goes on: read the comma, unless this is the `first` element. -/
def hasElement (first : Bool) : Reader Bool := do
  match ← blank with
  | none => failAhead .endInList
  | some 0x5D => pure false
  | some b =>
    if first then pure true
    else if b = 0x2C then
      skip
      match ← blank with
      | some 0x5D => failAhead .trailingComma
      | some _ => pure true
      | none => failAhead .endInValue
    else failAhead .expectedListMark

/-- Read the end of a list. -/
def closeList : Reader Unit := do
  match ← blank with
  | some 0x5D => skip
  | some 0x2C =>
    skip
    match ← blank with
    | some 0x5D => failAhead .trailingComma
    | _ => failAhead .trailingCharacters
  | some _ => failAhead .trailingCharacters
  | none => failAhead .endInList

/-- Whether an object goes on: read the comma, unless this is the `first` member, and find the
quote of a name. -/
def hasMember (first : Bool) : Reader Bool := do
  match ← blank with
  | none => failAhead .endInObject
  | some 0x7D => pure false
  | some b =>
    if first then
      if b = 0x22 then pure true else failAhead .keyNotString
    else if b = 0x2C then
      skip
      match ← blank with
      | some 0x22 => pure true
      | some 0x7D => failAhead .trailingComma
      | some _ => failAhead .keyNotString
      | none => failAhead .endInValue
    else failAhead .expectedObjectMark

/-- Read the end of an object. -/
def closeObject : Reader Unit := do
  match ← blank with
  | some 0x7D => skip
  | some 0x2C => failAhead .trailingComma
  | some _ => failAhead .trailingCharacters
  | none => failAhead .endInObject

namespace Shape

variable {σ α : Type}

/-- Make the record out of what is known. -/
def build (shape : Shape σ α) (known : σ) : Reader α :=
  match shape.make known with
  | .ok a => pure a
  | .error cause => failUnplaced cause

/-- Read `fields` as the elements of a list, `index` of which were read before. -/
def elements (shape : Shape σ α) : List (Field σ) → Nat → σ → Reader σ
  | [], _, known => pure known
  | field :: fields, index, known => do
    if ← hasElement (index = 0) then
      let known ← field.read known
      elements shape fields (index + 1) known
    else if shape.defaults then pure known
    else failUnplaced (.wrongLength index shape.listTitle)

/-- Read the members of an object. Each passes at least one byte, so there are at most as many as
`rounds` has elements. -/
def members (shape : Shape σ α) : List UInt8 → Bool → σ → Reader σ
  | [], _, known => pure known
  | _ :: rounds, first, known => do
    if ← hasMember first then
      skip
      let name ← stringBody
      match shape.fields.find? (·.name == name) with
      | some field =>
        if field.known known then failUnplaced (.duplicateField name)
        else
          colon
          let known ← field.read known
          members shape rounds false known
      | none =>
        if shape.closed then
          failUnplaced (.unknownField name (shape.fields.map Field.name))
        else
          colon
          skipValue
          members shape rounds false known
    else pure known

/-- Read a record. -/
def reader (shape : Shape σ α) : Reader α := placed do
  match ← blank with
  | none => failAhead .endInValue
  | some 0x5B =>
    skip
    enclosed (do shape.build (← shape.elements shape.fields 0 shape.start)) closeList
  | some 0x7B =>
    skip
    let rounds : List UInt8 ← fun c => (.ok (0 :: c.rest), c)
    enclosed (do shape.build (← shape.members rounds true shape.start)) closeObject
  | some _ => mismatch shape.title

end Shape

end RecordRing.Json
