import RecordRing.Device.Basic

/-!
# Addresses and summaries in JSON

Both are records with named fields, none of which has a default.

## Main definitions

* `SeekTo.reader`, `SeekTo.toJson` — a byte named by its record
* `Stats.reader`, `Stats.toJson` — a summary of a store
-/

namespace RecordRing

/-! ### A byte named by its record -/

namespace SeekTo

/-- What is known of an address while it is read. -/
structure Known where
  /-- The ordinal of the record. -/
  record? : Option UInt32
  /-- The offset in the record. -/
  offset? : Option UInt32

/-- Make an address of what is known. -/
def make (known : Known) : Except Json.Cause SeekTo :=
  match known.record?, known.offset? with
  | none, _ => .error (.missingField "record")
  | some _, none => .error (.missingField "offset")
  | some record, some offset => .ok ⟨record, offset⟩

/-- How an address is read. -/
def shape : Json.Shape Known SeekTo where
  title := "struct SeekTo"
  listTitle := "struct SeekTo with 2 elements"
  fields := [
    { name := "record"
      known := fun known => known.record?.isSome
      read := fun known => do
        return { known with record? := some (UInt32.ofNat (← Json.natural UInt32.size "u32")) } },
    { name := "offset"
      known := fun known => known.offset?.isSome
      read := fun known => do
        return { known with offset? := some (UInt32.ofNat (← Json.natural UInt32.size "u32")) } }]
  closed := false
  defaults := false
  start := ⟨none, none⟩
  make := make

/-- Read an address. -/
def reader : Json.Reader SeekTo := shape.reader

/-- The JSON value of an address. -/
def toJson (target : SeekTo) : Json.Value :=
  .object [("record", .natural target.record.toNat), ("offset", .natural target.offset.toNat)]

end SeekTo

/-! ### A summary of a store -/

namespace Stats

/-- What is known of a summary while it is read. -/
structure Known where
  /-- How many records are retained. -/
  retained? : Option Nat
  /-- How many there can be. -/
  capacity? : Option Nat
  /-- How many bytes are retained. -/
  totalSize? : Option Nat
  /-- Whether the next record evicts one. -/
  full? : Option Bool

/-- Make a summary of what is known. -/
def make (known : Known) : Except Json.Cause Stats :=
  match known.retained?, known.capacity?, known.totalSize?, known.full? with
  | none, _, _, _ => .error (.missingField "retained")
  | some _, none, _, _ => .error (.missingField "capacity")
  | some _, some _, none, _ => .error (.missingField "total_size")
  | some _, some _, some _, none => .error (.missingField "full")
  | some retained, some capacity, some totalSize, some full =>
    .ok ⟨retained, capacity, totalSize, full⟩

/-- How a summary is read. -/
def shape : Json.Shape Known Stats where
  title := "struct DeviceStats"
  listTitle := "struct DeviceStats with 4 elements"
  fields := [
    { name := "retained"
      known := fun known => known.retained?.isSome
      read := fun known => do
        return { known with retained? := some (← Json.natural UInt64.size "usize") } },
    { name := "capacity"
      known := fun known => known.capacity?.isSome
      read := fun known => do
        return { known with capacity? := some (← Json.natural UInt64.size "usize") } },
    { name := "total_size"
      known := fun known => known.totalSize?.isSome
      read := fun known => do
        return { known with totalSize? := some (← Json.natural UInt64.size "u64") } },
    { name := "full"
      known := fun known => known.full?.isSome
      read := fun known => do
        return { known with full? := some (← Json.bool) } }]
  closed := false
  defaults := false
  start := ⟨none, none, none, none⟩
  make := make

/-- Read a summary. -/
def reader : Json.Reader Stats := shape.reader

/-- The JSON value of a summary, its members in the order of their declaration. -/
def toJson (s : Stats) : Json.Value :=
  .object [
    ("retained", .natural s.retained),
    ("capacity", .natural s.capacity),
    ("total_size", .natural s.totalSize),
    ("full", .bool s.full)]

end Stats

end RecordRing
