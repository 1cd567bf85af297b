import RecordRing.Store.Basic

/-!
# Addresses of retained bytes

The bytes a store retains have two addresses. The *logical* one counts bytes from the oldest
record on, across all of them; the *ordinal* one names a record, counted from the oldest, and a
byte inside it. `Store.locate?` reads a logical address and `Store.address` makes one out of an
ordinal address.

A record without bytes holds no address, so a lookup walks past it.

## Main definitions

* `Position` — a byte that a lookup found: its record, and where in the record it is
* `Position.remaining`, `Position.remainingUpTo` — the bytes from there to the end of the record
* `Store.locate?` — the byte at a logical address; nothing at the end of the data or past it
* `LookupError`, `Store.address` — the logical address of an ordinal one, or why it has none
-/

namespace RecordRing

/-- A byte that a lookup found. -/
structure Position where
  /-- How many retained records are older than the one that holds the byte. -/
  ordinal : Nat
  /-- The record that holds the byte. -/
  record : Record
  /-- How many bytes of the record come before it. -/
  offset : Nat
deriving DecidableEq, Repr

/-- The bytes from the position to the end of its record. -/
def Position.remaining (p : Position) : List UInt8 := p.record.bytes.drop p.offset

/-- The first `count` of the remaining bytes, or all of them if they are fewer. -/
def Position.remainingUpTo (p : Position) (count : Nat) : List UInt8 :=
  p.record.slice p.offset count

/-- Walk along `rs`, the first of which has `ordinal` older records before it, to byte `offset` of
their concatenation. -/
def locateFrom (ordinal : Nat) : List Record → Nat → Option Position
  | [], _ => none
  | r :: rs, offset =>
    if offset < r.size then some ⟨ordinal, r, offset⟩
    else locateFrom (ordinal + 1) rs (offset - r.size)

/-- Why an ordinal address names no byte. -/
inductive LookupError where
  /-- There is no record `index`: only `retained` are retained. -/
  | recordOutOfRange (index retained : Nat)
  /-- Record `index` has only `len` bytes. -/
  | offsetOutOfRange (index offset len : Nat)
deriving DecidableEq, Repr

/-- The wording of a lookup error. -/
def LookupError.message : LookupError → String
  | .recordOutOfRange index retained =>
    s!"record {index} is out of range: {retained} records retained"
  | .offsetOutOfRange index offset len =>
    s!"offset {offset} is out of range for record {index} of length {len}"

namespace Store

variable {n : Nat}

/-- The byte at logical address `offset`. -/
def locate? (s : Store n) (offset : Nat) : Option Position := locateFrom 0 s.toList offset

/-- The logical address of byte `offset` of retained record `index`. -/
def address (s : Store n) (index offset : Nat) : Except LookupError Nat :=
  match s.get? index with
  | none => .error (.recordOutOfRange index s.length)
  | some r =>
    if offset < r.size then .ok (totalSize (s.toList.take index) + offset)
    else .error (.offsetOutOfRange index offset r.size)

end Store

/-! ### Small facts -/

theorem Position.remainingUpTo_eq (p : Position) (count : Nat) :
    p.remainingUpTo count = p.remaining.take count :=
  p.record.slice_eq p.offset count

/-- A lookup that finds a byte finds it inside its record. -/
theorem offset_lt_of_locateFrom {rs : List Record} {ordinal offset : Nat} {p : Position}
    (h : locateFrom ordinal rs offset = some p) : p.offset < p.record.size := by
  induction rs generalizing ordinal offset with
  | nil => simp [locateFrom] at h
  | cons r rs ih =>
    rw [locateFrom] at h
    split at h
    · cases h; assumption
    · exact ih h

/-- There is a byte at an address exactly when the address is inside the data. -/
theorem locateFrom_eq_none_iff {rs : List Record} {ordinal offset : Nat} :
    locateFrom ordinal rs offset = none ↔ totalSize rs ≤ offset := by
  induction rs generalizing ordinal offset with
  | nil => simp [locateFrom]
  | cons r rs ih =>
    rw [locateFrom, totalSize_cons]
    split
    · simp; omega
    · rw [ih]; omega

/-- What remains of the record found is not empty. -/
theorem remaining_ne_nil_of_locateFrom {rs : List Record} {ordinal offset : Nat} {p : Position}
    (h : locateFrom ordinal rs offset = some p) : p.remaining ≠ [] := by
  have hlt : p.offset < p.record.size := offset_lt_of_locateFrom h
  intro hnil
  have := congrArg List.length hnil
  simp only [Position.remaining, List.length_drop, List.length_nil, Record.length_bytes] at this
  omega

end RecordRing
