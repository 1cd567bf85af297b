import RecordRing.Json.Number
import RecordRing.Json.Text

/-!
# Passing over a value

A value that no type has use for need only be well formed. It is passed over with a stack of the
lists and objects that are open, so that nesting has no bound.

## Main definitions

* `Json.Bracket` — an open list or object
* `Json.word` — the rest of `null`, `true` or `false`
* `Json.skipValue` — pass over a value
-/

namespace RecordRing.Json

/-- An open list or object. -/
inductive Bracket where
  /-- A list. -/
  | list
  /-- An object. -/
  | object
deriving DecidableEq, Repr

namespace Bracket

/-- The byte that closes it. -/
def close : Bracket → UInt8
  | .list => 0x5D
  | .object => 0x7D

/-- What is wrong if the text ends in it. -/
def endCause : Bracket → Cause
  | .list => .endInList
  | .object => .endInObject

/-- What is wrong if an item is followed by neither a comma nor the end. -/
def markCause : Bracket → Cause
  | .list => .expectedListMark
  | .object => .expectedObjectMark

end Bracket

/-- Read the rest of a word, letter by letter. -/
def word : List UInt8 → Reader Unit
  | [] => pure ()
  | b :: bs => do
    match ← next with
    | none => failHere .endInValue
    | some found => if found = b then word bs else failHere .expectedIdent

/-- The letters of `null` behind the first. -/
def restOfNull : List UInt8 := [0x75, 0x6C, 0x6C]

/-- The letters of `true` behind the first. -/
def restOfTrue : List UInt8 := [0x72, 0x75, 0x65]

/-- The letters of `false` behind the first. -/
def restOfFalse : List UInt8 := [0x61, 0x6C, 0x73, 0x65]

/-- Pass over a value that holds no others, or over the opening of one that does. -/
def skipScalar : Reader (Option Bracket) := do
  match ← blank with
  | none => failAhead .endInValue
  | some b =>
    if b = 0x6E then
      skip
      word restOfNull
      pure none
    else if b = 0x74 then
      skip
      word restOfTrue
      pure none
    else if b = 0x66 then
      skip
      word restOfFalse
      pure none
    else if b = 0x2D then
      skip
      skipNumber
      pure none
    else if isDigit b then
      skipNumber
      pure none
    else if b = 0x22 then
      skip
      skipStringBody
      pure none
    else if b = 0x5B then
      skip
      pure (some .list)
    else if b = 0x7B then
      skip
      pure (some .object)
    else failAhead .expectedValue

/-- Read the colon behind a name. -/
def colon : Reader Unit := do
  match ← blank with
  | some 0x3A => skip
  | some _ => failAhead .expectedColon
  | none => failAhead .endInObject

/-- Pass over a name and the colon behind it. -/
def skipKey : Reader Unit := do
  match ← blank with
  | some 0x22 => skip
  | some _ => failAhead .keyNotString
  | none => failAhead .endInObject
  skipStringBody
  colon

/-- Pass over an item of a list or an object, or over the opening of one that holds others. -/
def skipItem (bracket : Bracket) : Reader (Option Bracket) := do
  match bracket with
  | .object => skipKey
  | .list => pure ()
  skipScalar

/-- Pass over what is left of the open lists and objects, the innermost first. `behind` says that
an item was just passed, so that a comma may follow. Each round passes at least one byte, so there
are at most as many as `rounds` has elements. -/
def skipOpen : List UInt8 → Bool → List Bracket → Reader Unit
  | _, _, [] => pure ()
  | [], _, _ :: _ => pure ()
  | _ :: rounds, behind, bracket :: outer => do
    match ← blank with
    | none => failAhead bracket.endCause
    | some b =>
      if b = 0x2C && behind then
        skip
        match ← skipItem bracket with
        | none => skipOpen rounds true (bracket :: outer)
        | some inner => skipOpen rounds false (inner :: bracket :: outer)
      else if b = bracket.close then
        skip
        skipOpen rounds true outer
      else if behind then failAhead bracket.markCause
      else
        match ← skipItem bracket with
        | none => skipOpen rounds true (bracket :: outer)
        | some inner => skipOpen rounds false (inner :: bracket :: outer)

/-- Pass over a value. -/
def skipValue : Reader Unit := do
  match ← skipScalar with
  | none => pure ()
  | some bracket => fun c => skipOpen (0 :: c.rest) false [bracket] c

end RecordRing.Json
