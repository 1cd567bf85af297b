import RecordRing.Json.Shape
import RecordRing.Json.Value

/-!
# Durations

A duration is a number of seconds below `2 ^ 64` and a number of nanoseconds below one second. In
JSON it is an object or a list of the two; there the nanoseconds may be more than a second, and the
full seconds of them are carried over.

## Main definitions

* `Duration`, `Duration.ofParts?`, `Duration.ofNanos?` — durations, with the carry
* `Duration.isZero`
* `Duration.reader`, `Duration.toJson` — reading and writing
-/

namespace RecordRing

/-- A span of time. -/
structure Duration where
  /-- The full seconds. -/
  secs : Nat
  /-- The nanoseconds beyond them. -/
  nanos : Nat
  /-- The seconds fit in 64 bits. -/
  secs_lt : secs < UInt64.size
  /-- The nanoseconds make no full second. -/
  nanos_lt : nanos < 1_000_000_000
deriving DecidableEq, Repr

namespace Duration

/-- The duration of `secs` seconds and `nanos` nanoseconds, if the seconds fit. -/
def ofParts? (secs nanos : Nat) : Option Duration :=
  if h : secs + nanos / 1_000_000_000 < UInt64.size then
    some ⟨secs + nanos / 1_000_000_000, nanos % 1_000_000_000, h, Nat.mod_lt _ (by decide)⟩
  else none

/-- The duration of `nanos` nanoseconds, if the seconds fit. -/
def ofNanos? (nanos : Nat) : Option Duration := ofParts? 0 nanos

/-- A duration below one second, in milliseconds. -/
def ofMillis (millis : Nat) (h : millis < 1000 := by decide) : Duration :=
  ⟨0, millis * 1_000_000, by decide, by omega⟩

/-- Whether no time passes. -/
def isZero (d : Duration) : Bool := d.secs == 0 && d.nanos == 0

/-! ### JSON -/

/-- What is known of a duration while it is read. -/
structure Known where
  /-- The seconds. -/
  secs? : Option Nat
  /-- The nanoseconds. -/
  nanos? : Option Nat

/-- Make a duration of what is known. -/
def make (known : Known) : Except Json.Cause Duration :=
  match known.secs?, known.nanos? with
  | none, _ => .error (.missingField "secs")
  | some _, none => .error (.missingField "nanos")
  | some secs, some nanos =>
    match ofParts? secs nanos with
    | some d => .ok d
    | none => .error (.rejected "overflow deserializing Duration")

/-- How a duration is read. -/
def shape : Json.Shape Known Duration where
  title := "struct Duration"
  listTitle := "struct Duration"
  fields := [
    { name := "secs"
      known := fun known => known.secs?.isSome
      read := fun known => do
        return { known with secs? := some (← Json.natural UInt64.size "u64") } },
    { name := "nanos"
      known := fun known => known.nanos?.isSome
      read := fun known => do
        return { known with nanos? := some (← Json.natural UInt32.size "u32") } }]
  closed := true
  defaults := false
  start := ⟨none, none⟩
  make := make

/-- Read a duration. -/
def reader : Json.Reader Duration := shape.reader

/-- The JSON value of a duration. -/
def toJson (d : Duration) : Json.Value :=
  .object [("secs", .natural d.secs), ("nanos", .natural d.nanos)]

/-! ### Small facts -/

/-- Nothing is carried from less than a second. -/
theorem ofParts?_self (d : Duration) : ofParts? d.secs d.nanos = some d := by
  have hd : d.nanos / 1_000_000_000 = 0 := Nat.div_eq_of_lt d.nanos_lt
  have hm : d.nanos % 1_000_000_000 = d.nanos := Nat.mod_eq_of_lt d.nanos_lt
  simp only [ofParts?, hd, hm, Nat.add_zero]
  rw [dif_pos d.secs_lt]

end Duration

end RecordRing
