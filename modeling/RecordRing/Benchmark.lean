import RecordRing.Store.Basic

/-!
# Measuring insertions

The same record is inserted over and over into one store. What is reported does not depend on the
machine but for the times, which are given to the report.

## Main definitions

* `Store.insertMany` — insert a record many times, and count what it evicts
* `Benchmark`, `Benchmark.header`, `Benchmark.report` — what is printed
-/

namespace RecordRing

variable {n : Nat}

/-- Insert `r` so many times, having counted `evicted` evictions before. -/
def Store.insertMany (r : Record) : Nat → Store n → Nat → Store n × Nat
  | 0, s, evicted => (s, evicted)
  | count + 1, s, evicted =>
    let (s, oldest) := s.insert r
    insertMany r count s (if oldest.isSome then evicted + 1 else evicted)

/-- What is measured. -/
structure Benchmark where
  /-- How many records are inserted. -/
  records : Nat
  /-- How long each of them is. -/
  recordLength : Nat
  /-- How many the store retains. -/
  capacity : Nat
deriving DecidableEq, Repr

/-- What the measurement gives. -/
structure Measurement where
  /-- How many records were evicted. -/
  evicted : Nat
  /-- How many bytes are retained. -/
  retainedBytes : Nat
deriving DecidableEq, Repr

/-- A number of `units` in decimal, with a point before the last `places` digits. -/
def pointed (units places : Nat) : String :=
  let fraction := toString (units % Nat.pow 10 places)
  let zeros := String.ofList (List.replicate (places - fraction.length) '0')
  if places = 0 then toString units else s!"{units / Nat.pow 10 places}.{zeros}{fraction}"

/-- A quotient to the nearest whole number, a half being rounded up. -/
def nearest (numerator denominator : Nat) : Nat := (2 * numerator + denominator) / (2 * denominator)

/-- A time in the largest unit that it fills, with three places. -/
def elapsedText (nanos : Nat) : String :=
  if 1_000_000_000 ≤ nanos then pointed (nearest nanos 1_000_000) 3 ++ "s"
  else if 1_000_000 ≤ nanos then pointed (nearest nanos 1_000) 3 ++ "ms"
  else if 1_000 ≤ nanos then pointed nanos 3 ++ "µs"
  else toString nanos ++ ".000ns"

namespace Benchmark

/-- Insert the records. -/
def measure (b : Benchmark) : Measurement :=
  let record : Record := ⟨Array.replicate b.recordLength 0x78⟩
  let (store, evicted) := Store.insertMany record b.records (Store.empty : Store b.capacity) 0
  ⟨evicted, store.size⟩

/-- What is printed first. -/
def header (b : Benchmark) : List String := [
  "ringlog insert-path benchmark",
  s!"  Records: {b.records}",
  s!"  Record length: {b.recordLength} bytes",
  s!"  Capacity: {b.capacity}",
  ""]

/-- The lines about the time that the insertions took. -/
def timing (b : Benchmark) (nanos : Nat) : List String := [
  s!"  Elapsed: {elapsedText nanos}",
  s!"  Avg latency: {pointed (nearest (nanos * 10) b.records) 1} ns/insert",
  s!"  Throughput: {nearest (b.records * 1_000_000_000) nanos} inserts/sec"]

/-- What is printed afterwards, with the time that it took if that was measured. -/
def report (b : Benchmark) (m : Measurement) (nanos? : Option Nat) : List String :=
  ["Results:", s!"  Evicted: {m.evicted}", s!"  Retained bytes: {m.retainedBytes}"]
    ++ (nanos?.map b.timing).getD [] ++ [""]

end Benchmark

end RecordRing
