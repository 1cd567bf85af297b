/-!
# Buffers and the memory they ask for

Memory is the one thing that a call can run out of, so every request for it is made explicitly,
before the bytes are moved. An *allocator* answers each request with yes or no; a request says what
the memory is for and how large the buffer is to be. Two requests of one call always differ in one
of the two, so allocators of this form refuse any choice of a call's requests.

A buffer has its bytes and a capacity. Room that is there already is never asked for again, and a
buffer of no bytes needs no memory.

The bytes that are added to others are kept last one first. Adding a few bytes to many thus takes no
longer than adding them to none. `Buffer.bytes` has all of them in their order.

## Main definitions

* `Request`, `Allocator` — what is asked for, and which requests are granted
* `Buffer`, `Buffer.bytes` — bytes, and room for more
* `Buffer.fresh?`, `Buffer.reserve?`, `Buffer.reserveExact?` — the three ways to get room
* `Buffer.extend`, `Buffer.extendFrom`, `Buffer.truncate` — copy bytes in; give bytes up
-/

namespace RecordRing

/-- What a buffer is asked for. -/
inductive Purpose where
  /-- To carry over the bytes that follow a record. -/
  | carry
  /-- To hold a record none of whose bytes were buffered before. -/
  | cut
  /-- To hold more than the pending buffer has room for. -/
  | grow
deriving DecidableEq, Repr

/-- A request for a buffer of `capacity` bytes, or to enlarge one to that size. -/
structure Request where
  /-- What the memory is for. -/
  purpose : Purpose
  /-- The size of the whole buffer. -/
  capacity : Nat
deriving DecidableEq, Repr

/-- Which requests are granted. -/
abbrev Allocator := Request → Bool

/-- The allocator that grants every request. -/
def Allocator.generous : Allocator := fun _ => true

/-- The allocator that refuses buffers of exactly `n` bytes. -/
def Allocator.refusing (n : Nat) : Allocator := fun request => request.capacity != n

/-- Bytes with room for more. Their number is kept beside them. -/
structure Buffer where
  /-- The first of the bytes held. -/
  front : List UInt8
  /-- The bytes behind them, the last one first. -/
  back : List UInt8
  /-- The number of bytes held. -/
  size : Nat
  /-- How many bytes there is memory for. -/
  capacity : Nat
  /-- The number kept is right. -/
  size_eq_add : size = front.length + back.length
deriving DecidableEq, Repr

namespace Buffer

/-- The bytes held. -/
def bytes (b : Buffer) : List UInt8 :=
  match b.back with
  | [] => b.front
  | back => b.front ++ back.reverse

theorem bytes_eq_append (b : Buffer) : b.bytes = b.front ++ b.back.reverse := by
  rw [bytes]
  split
  · next h => simp [h]
  · rfl

@[simp] theorem length_bytes (b : Buffer) : b.bytes.length = b.size := by
  simp [bytes_eq_append, b.size_eq_add]

/-- A buffer of these bytes, which are `size` many. -/
def hold (bs : List UInt8) (size capacity : Nat) (h : size = bs.length) : Buffer :=
  ⟨bs, [], size, capacity, h⟩

/-- An empty buffer with room for `capacity` bytes. -/
def withCapacity (capacity : Nat) : Buffer := hold [] 0 capacity rfl

/-- A buffer without memory. -/
def empty : Buffer := withCapacity 0

instance : Inhabited Buffer := ⟨empty⟩

/-- How many more bytes fit. -/
def room (b : Buffer) : Nat := b.capacity - b.size

/-- An empty buffer for exactly `len` bytes. -/
def fresh? (grants : Allocator) (purpose : Purpose) (len : Nat) : Option Buffer :=
  if len = 0 || grants ⟨purpose, len⟩ then some (withCapacity len) else none

/-- The capacity to grow to for `more` bytes: at least twice the old one and at least eight, so that
a long run of small additions asks for memory seldom. -/
def grownCapacity (b : Buffer) (more : Nat) : Nat := max (max (b.size + more) (2 * b.capacity)) 8

/-- Room for `more` bytes, with some to spare. -/
def reserve? (grants : Allocator) (b : Buffer) (more : Nat) : Option Buffer :=
  if more ≤ b.room then some b
  else if grants ⟨.grow, b.grownCapacity more⟩ then some { b with capacity := b.grownCapacity more }
  else none

/-- Room for `more` bytes and none to spare. -/
def reserveExact? (grants : Allocator) (b : Buffer) (more : Nat) : Option Buffer :=
  if more ≤ b.room then some b
  else if grants ⟨.grow, b.size + more⟩ then some { b with capacity := b.size + more }
  else none

/-- Copy in `bs`, which are `count` bytes. Where room was reserved before, the capacity stays as it
is. -/
def append (b : Buffer) (bs : List UInt8) (count : Nat) (h : count = bs.length) : Buffer :=
  let capacity := max b.capacity (b.size + count)
  if b.size = 0 then hold bs count capacity h
  else ⟨b.front, bs.reverse ++ b.back, b.size + count, capacity, by simp [h, b.size_eq_add]; omega⟩

/-- Copy `bs` in. -/
def extend (b : Buffer) (bs : List UInt8) : Buffer := b.append bs bs.length rfl

/-- Copy in what `source` holds behind its first `count` bytes. -/
def extendFrom (b source : Buffer) (count : Nat) : Buffer :=
  b.append (source.bytes.drop count) (source.size - count) (by simp)

/-- Keep the first `count` bytes, and the memory. -/
def truncate (b : Buffer) (count : Nat) : Buffer :=
  hold (b.bytes.take count) (min count b.size) b.capacity (by simp)

/-- A copy of the buffer, which has room for its bytes alone. -/
def copy (b : Buffer) : Buffer := { b with capacity := b.size }

/-- The buffer, or nothing in place of one without bytes. -/
def nonempty? (b : Buffer) : Option Buffer := if b.size = 0 then none else some b

/-! ### Small facts -/

@[simp] theorem bytes_hold (bs : List UInt8) (size capacity : Nat) (h : size = bs.length) :
    (hold bs size capacity h).bytes = bs := rfl

theorem bytes_eq_nil_iff {b : Buffer} : b.bytes = [] ↔ b.size = 0 := by
  rw [← length_bytes, List.length_eq_zero_iff]

@[simp] theorem bytes_append (b : Buffer) (bs : List UInt8) (count : Nat) (h : count = bs.length) :
    (b.append bs count h).bytes = b.bytes ++ bs := by
  rw [append]
  split
  · next hb => simp [bytes_eq_nil_iff.2 hb]
  · simp [bytes_eq_append]

@[simp] theorem size_append (b : Buffer) (bs : List UInt8) (count : Nat) (h : count = bs.length) :
    (b.append bs count h).size = b.size + count := by
  rw [append]
  split
  · next hb => simp [hold, hb]
  · rfl

@[simp] theorem bytes_extend (b : Buffer) (bs : List UInt8) :
    (b.extend bs).bytes = b.bytes ++ bs := bytes_append ..

@[simp] theorem size_extend (b : Buffer) (bs : List UInt8) :
    (b.extend bs).size = b.size + bs.length := size_append ..

@[simp] theorem bytes_truncate (b : Buffer) (count : Nat) :
    (b.truncate count).bytes = b.bytes.take count := rfl

@[simp] theorem bytes_copy (b : Buffer) : b.copy.bytes = b.bytes := rfl

/-- What is copied out of a buffer is what it holds. -/
theorem extendFrom_eq_extend (b source : Buffer) (count : Nat) :
    b.extendFrom source count = b.extend (source.bytes.drop count) := by
  simp only [extendFrom, extend, List.length_drop, length_bytes]

theorem bytes_of_fresh? {grants : Allocator} {purpose : Purpose} {len : Nat} {b : Buffer}
    (h : fresh? grants purpose len = some b) : b.bytes = [] := by
  rw [fresh?] at h
  split at h <;> cases h
  rfl

theorem bytes_of_reserve? {grants : Allocator} {b c : Buffer} {more : Nat}
    (h : b.reserve? grants more = some c) : c.bytes = b.bytes := by
  rw [reserve?] at h
  split at h
  · cases h; rfl
  · split at h <;> cases h
    rfl

theorem bytes_of_reserveExact? {grants : Allocator} {b c : Buffer} {more : Nat}
    (h : b.reserveExact? grants more = some c) : c.bytes = b.bytes := by
  rw [reserveExact?] at h
  split at h
  · cases h; rfl
  · split at h <;> cases h
    rfl

/-- A copy into room that is there asks for nothing more. -/
theorem capacity_extend {b : Buffer} {bs : List UInt8} (h : b.size + bs.length ≤ b.capacity) :
    (b.extend bs).capacity = b.capacity := by
  rw [extend, append]
  split <;> simp [hold, Nat.max_eq_left h]

end Buffer

end RecordRing
