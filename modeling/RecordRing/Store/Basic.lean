import RecordRing.Record

/-!
# The store of records

A store has `n` slots in a ring. It keeps the newest `n` records: inserting into a full store
takes the oldest one out and hands it back.

```
slots          r₂   r₃   r₁        n = 3, full
write cursor              ^
read cursor               ^        the oldest record is r₁
```

The number of records is not kept; it follows from the two cursors and the flag `full`, which
tells a full ring from an empty one when the cursors agree.

## Total, permissive semantics

The cursors are plain numbers and every operation is defined on every store: a slot outside the
ring is vacant, and writing to it does nothing. A ring of no slots is allowed too; it keeps
nothing. That the operations only ever meet cursors inside the ring is a fact about the stores
they reach, not part of the definitions.

## Main definitions

* `Store n`, `Store.empty` — the ring and its first state
* `Store.insert` — put a record in, evicting the oldest one when the ring is full
* `Store.takeOldest`, `Store.clear` — take the oldest record out; forget all of them
* `Store.toList` — the retained records, oldest first: the view the rest of the library uses
* `Store.length`, `Store.get?`, `Store.size`, `Store.contents` — what callers observe
-/

namespace RecordRing

/-- The slot after slot `i` in a ring of `n`. -/
def advance (i n : Nat) : Nat := (i + 1) % n

/-- A ring of `n` slots. -/
structure Store (n : Nat) where
  /-- The slots, each vacant or holding a record. -/
  slots : Vector (Option Record) n
  /-- The slot that the next record goes to. -/
  writeCursor : Nat
  /-- The slot of the oldest record. -/
  readCursor : Nat
  /-- Whether every slot is taken. -/
  full : Bool
deriving DecidableEq, Repr

namespace Store

variable {n : Nat}

/-- A store of `n` slots that holds nothing. -/
def empty : Store n where
  slots := Vector.replicate n none
  writeCursor := 0
  readCursor := 0
  full := false

instance : Inhabited (Store n) := ⟨empty⟩

/-! ### Observers -/

/-- The number of slots. -/
def capacity (_s : Store n) : Nat := n

/-- The number of records retained. -/
def length (s : Store n) : Nat :=
  if s.full then n else (s.writeCursor + n - s.readCursor) % n

/-- Whether no record is retained. -/
def isEmpty (s : Store n) : Bool := !s.full && s.writeCursor == s.readCursor

/-- Whether the next insertion evicts. -/
def isFull (s : Store n) : Bool := s.full

/-- What slot `i` of the ring holds. -/
def slot? (s : Store n) (i : Nat) : Option Record := s.slots[i]?.join

/-- The slot of the record that has `ordinal` older ones before it. -/
def slotIndex (s : Store n) (ordinal : Nat) : Nat := (s.readCursor + ordinal) % n

/-- The retained record with `ordinal` older ones before it. -/
def get? (s : Store n) (ordinal : Nat) : Option Record :=
  if ordinal < s.length then s.slot? (s.slotIndex ordinal) else none

/-- The retained records, oldest first. -/
def toList (s : Store n) : List Record :=
  (List.range s.length).filterMap fun ordinal => s.slot? (s.slotIndex ordinal)

/-- The number of bytes retained. -/
def size (s : Store n) : Nat := totalSize s.toList

/-- The bytes retained, oldest first. -/
def contents (s : Store n) : List UInt8 := concat s.toList

/-! ### Changes -/

/-- Forget every record and put both cursors back to slot zero. -/
def clear (s : Store n) : Store n where
  slots := s.slots.map fun _ => none
  writeCursor := 0
  readCursor := 0
  full := false

/-- Vacate the slot under the read cursor and move the cursor on. The flag `full` is left alone:
the two callers below differ in what becomes of it. -/
def vacate (s : Store n) : Store n × Option Record :=
  ({ s with
      slots := s.slots.setIfInBounds s.readCursor none
      readCursor := advance s.readCursor n },
    s.slot? s.readCursor)

/-- Put `r` into the slot under the write cursor, which is vacant, and move the cursor on. If that
makes it meet the read cursor, every slot is taken. -/
def occupy (s : Store n) (r : Record) : Store n :=
  let writeCursor := advance s.writeCursor n
  { s with
    slots := s.slots.setIfInBounds s.writeCursor (some r)
    writeCursor
    full := s.full || writeCursor == s.readCursor }

/-- Put `r` in as the newest record. A full store gives up its oldest record, which is returned. -/
def insert (s : Store n) (r : Record) : Store n × Option Record :=
  if s.full then
    let (vacated, oldest) := s.vacate
    (vacated.occupy r, oldest)
  else
    (s.occupy r, none)

/-- Take the oldest record out. -/
def takeOldest (s : Store n) : Store n × Option Record :=
  if s.isEmpty then
    (s, none)
  else
    let (vacated, oldest) := s.vacate
    ({ vacated with full := false }, oldest)

/-! ### Small facts -/

@[simp] theorem length_empty : (empty : Store n).length = 0 := by
  simp [length, empty]

/-- Clearing gives the first state, whatever was retained. -/
@[simp] theorem clear_eq_empty (s : Store n) : s.clear = empty := by
  simp only [clear, empty, Store.mk.injEq, and_true]
  ext i hi
  simp

end Store

end RecordRing
