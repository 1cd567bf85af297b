/-!
# Moving a position

A position can be moved to a number of bytes from the start of the data, from where it is, or from
the end. The target is computed over all integers, so that no intermediate value is out of range;
it is right if it is in the data or at the end.

## Main definitions

* `Origin`, `Origin.target` — where to move to
* `SeekError` — why not
* `seek` — the new position
* `SeekTo` — a byte named by its record
-/

namespace RecordRing

/-- Where to move a position to. -/
inductive Origin where
  /-- So many bytes behind the start. -/
  | start (offset : Nat)
  /-- So many bytes behind the position. -/
  | current (delta : Int)
  /-- So many bytes behind the end. -/
  | fromEnd (delta : Int)
deriving DecidableEq, Repr

/-- The target, from a position in data of `size` bytes. -/
def Origin.target (position size : Nat) : Origin → Int
  | .start offset => offset
  | .current delta => position + delta
  | .fromEnd delta => size + delta

/-- How log lines name a target. -/
def Origin.describe : Origin → String
  | .start offset => s!"Start({offset})"
  | .current delta => s!"Current({delta})"
  | .fromEnd delta => s!"End({delta})"

/-- Why a position was not moved. -/
inductive SeekError where
  /-- The target is not in `size` bytes of data, nor at their end. -/
  | outOfBounds (target : Int) (size : Nat)
deriving DecidableEq, Repr

/-- The wording of a seek error. -/
def SeekError.message : SeekError → String
  | .outOfBounds target size => s!"seek target {target} is outside 0..={size}"

/-- The new position in data of `size` bytes. -/
def seek (position size : Nat) (origin : Origin) : Except SeekError Nat :=
  let target := origin.target position size
  if 0 ≤ target ∧ target ≤ size then .ok target.toNat else .error (.outOfBounds target size)

/-- A byte named by the ordinal of its record, the oldest having zero, and its offset there. -/
structure SeekTo where
  /-- The ordinal of the record. -/
  record : UInt32
  /-- The offset in the record. -/
  offset : UInt32
deriving DecidableEq, Repr

end RecordRing
