/-!
# Records

A record is an immutable run of bytes: what writers hand in, what the store keeps, and what
readers get back. A record may be empty; the assembler never makes an empty one, since every
record it cuts ends with the terminator.

The bytes lie in an array, so that a reader who asks for a few of them does not walk past those
before them. All else is said of `Record.bytes`, the list of them.

## Main definitions

* `Record`, `Record.ofList`, `Record.bytes` — the bytes of one record
* `Record.size`, `Record.isEmpty`, `Record.first?` — its views
* `Record.slice` — a few of its bytes
* `totalSize`, `concat` — the summed size and the bytes of a run of records
-/

namespace RecordRing

/-- One record: a run of bytes that nothing changes after it was made. -/
structure Record where
  /-- The bytes, the terminator included when the assembler cut the record. -/
  data : Array UInt8
deriving DecidableEq, Repr, Inhabited

namespace Record

/-- The record of the bytes in a list. -/
def ofList (bs : List UInt8) : Record := ⟨bs.toArray⟩

/-- The bytes. -/
def bytes (r : Record) : List UInt8 := r.data.toList

/-- The number of bytes. -/
def size (r : Record) : Nat := r.data.size

/-- Whether the record holds no byte at all. -/
def isEmpty (r : Record) : Bool := r.data.isEmpty

/-- The first byte. -/
def first? (r : Record) : Option UInt8 := r.data[0]?

/-- At most `count` bytes, from byte `start` on. -/
def slice (r : Record) (start count : Nat) : List UInt8 :=
  (r.data.extract start (start + count)).toList

@[simp] theorem bytes_ofList (bs : List UInt8) : (ofList bs).bytes = bs := rfl

@[simp] theorem ofList_bytes (r : Record) : ofList r.bytes = r := rfl

@[simp] theorem length_bytes (r : Record) : r.bytes.length = r.size := rfl

/-- A record is its bytes. -/
theorem eq_iff_bytes_eq {r s : Record} : r = s ↔ r.bytes = s.bytes :=
  ⟨congrArg bytes, fun h => by rw [← ofList_bytes r, ← ofList_bytes s, h]⟩

theorem isEmpty_iff {r : Record} : r.isEmpty = true ↔ r.size = 0 := by
  simp [isEmpty, size]

theorem first?_eq_head? (r : Record) : r.first? = r.bytes.head? := by
  simp [first?, bytes, List.head?_eq_getElem?]

/-- A slice is what the list of the bytes has at the same place. -/
theorem slice_eq (r : Record) (start count : Nat) :
    r.slice start count = (r.bytes.drop start).take count := by
  simp [slice, bytes]

end Record

/-! ### Runs of records -/

/-- The number of bytes in a run of records. -/
def totalSize (rs : List Record) : Nat := rs.foldr (·.size + ·) 0

/-- The bytes of a run of records, one after the other. -/
def concat (rs : List Record) : List UInt8 := rs.flatMap Record.bytes

@[simp] theorem totalSize_nil : totalSize [] = 0 := rfl

@[simp] theorem totalSize_cons (r : Record) (rs : List Record) :
    totalSize (r :: rs) = r.size + totalSize rs := rfl

@[simp] theorem totalSize_append (rs ss : List Record) :
    totalSize (rs ++ ss) = totalSize rs + totalSize ss := by
  induction rs with
  | nil => simp
  | cons r rs ih => rw [List.cons_append, totalSize_cons, totalSize_cons, ih, Nat.add_assoc]

@[simp] theorem concat_nil : concat [] = [] := rfl

@[simp] theorem concat_cons (r : Record) (rs : List Record) :
    concat (r :: rs) = r.bytes ++ concat rs := by
  simp [concat]

@[simp] theorem concat_append (rs ss : List Record) :
    concat (rs ++ ss) = concat rs ++ concat ss := by
  simp [concat]

theorem length_concat (rs : List Record) : (concat rs).length = totalSize rs := by
  induction rs with
  | nil => rfl
  | cons r rs ih => simp [ih]

end RecordRing
