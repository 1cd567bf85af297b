import RecordRing.Buffer
import RecordRing.Record

/-!
# Assembling records from chunks

Writers rarely hand over one record per call. An assembler buffers the chunks it is fed and cuts a
record at each terminator byte; the record includes its terminator. Bytes after the terminator
start the next record.

Feeding cuts at most one record, the first. The others stay buffered until they are popped, so
that a caller who runs out of memory halfway can come back for them.

The bytes that an earlier call found to hold no terminator are not searched again: `scanned` says
how many they are. This makes a long record fed byte by byte cost linear time, and changes no
result.

Every buffer a call needs is asked for before anything is moved. A refused call therefore leaves
the assembler as it was, and the same call can be made again.

## Main definitions

* `Assembler` — the terminator, the buffered bytes, and how many of them were searched
* `Assembler.feed`, `Assembler.pop`, `Assembler.popAll` — take a chunk in; cut what is buffered
* `Assembler.completesWith`, `Assembler.hasComplete` — whether a call would cut a record
* `Assembler.reset` — give the buffered bytes up
* `AssembleError` — a request for memory that was refused
-/

namespace RecordRing

/-- Why memory was not to be had. -/
inductive MemoryFault where
  /-- The allocator refused. -/
  | refused
  /-- The size asked for is more than any buffer can have. -/
  | tooLarge
deriving DecidableEq, Repr

/-- The wording of a memory fault. -/
def MemoryFault.message : MemoryFault → String
  | .refused => "memory allocation failed because the memory allocator returned an error"
  | .tooLarge =>
    "memory allocation failed because the computed capacity exceeded the collection's maximum"

/-- Why a chunk was not taken in, or a record not cut. -/
inductive AssembleError where
  /-- There was no memory for `requested` more bytes. -/
  | outOfMemory (requested : Nat) (fault : MemoryFault)
deriving DecidableEq, Repr

/-- The wording of an assembling error. -/
def AssembleError.message : AssembleError → String
  | .outOfMemory requested fault =>
    s!"failed to grow partial record by {requested} bytes: {fault.message}"

/-- Buffers chunks and cuts them into records. -/
structure Assembler where
  /-- The byte that ends a record. -/
  terminator : UInt8
  /-- The bytes buffered, if any. -/
  pending : Option Buffer
  /-- How many buffered bytes are known to hold no terminator. -/
  scanned : Nat
deriving DecidableEq, Repr

namespace Assembler

/-- The terminator of an assembler that is given none: the end of a line. -/
def defaultTerminator : UInt8 := 10

/-- An assembler that has buffered nothing. -/
def new (terminator : UInt8) : Assembler := ⟨terminator, none, 0⟩

instance : Inhabited Assembler := ⟨new defaultTerminator⟩

/-! ### Observers -/

/-- The buffered bytes, or nothing if there is no buffer. -/
def pending? (a : Assembler) : Option (List UInt8) := a.pending.map Buffer.bytes

/-- The buffered bytes. -/
def held (a : Assembler) : List UInt8 := a.pending?.getD []

/-- The number of bytes buffered. -/
def heldSize (a : Assembler) : Nat := (a.pending.map Buffer.size).getD 0

/-- The buffered bytes that are still to be searched for a terminator. -/
def unscanned (a : Assembler) : List UInt8 :=
  if a.scanned < a.heldSize then a.held.drop a.scanned else []

/-- Whether anything is buffered. -/
def hasPending (a : Assembler) : Bool := a.pending.isSome

/-- Whether two assemblers agree in everything but the room they have. -/
def agrees (a b : Assembler) : Bool :=
  a.terminator == b.terminator && a.pending? == b.pending? && a.scanned == b.scanned

/-- The length of the record that feeding `chunk` would cut: the buffered bytes and the chunk, up to
the first terminator and with it. -/
def cutEnd? (a : Assembler) (chunk : List UInt8) : Option Nat :=
  match a.unscanned.findIdx? (· == a.terminator) with
  | some found => some (a.scanned + found + 1)
  | none => (chunk.findIdx? (· == a.terminator)).map (a.heldSize + · + 1)

/-- Whether feeding `chunk` would cut a record. -/
def completesWith (a : Assembler) (chunk : List UInt8) : Bool :=
  !chunk.isEmpty && (a.cutEnd? chunk).isSome

/-- Whether a finished record is buffered. -/
def hasComplete (a : Assembler) : Bool := (a.cutEnd? []).isSome

/-! ### Feeding -/

/-- Buffer a chunk that ends no record. -/
def append (grants : Allocator) (a : Assembler) (chunk : List UInt8) :
    Assembler × Except AssembleError (Option Record) :=
  let buffer := a.pending.getD .empty
  match buffer.reserve? grants chunk.length with
  | none => ({ a with pending := buffer.nonempty? }, .error (.outOfMemory chunk.length .refused))
  | some buffer =>
    let buffer := buffer.extend chunk
    ({ a with pending := some buffer, scanned := buffer.size }, .ok none)

/-- The buffer of a record that takes `more` bytes from the chunk: the pending one, enlarged, or a
fresh one. -/
def recordBuffer? (grants : Allocator) (a : Assembler) (more : Nat) : Option Buffer :=
  match a.pending with
  | some buffer => buffer.reserveExact? grants more
  | none => Buffer.fresh? grants .cut more

/-- Divide what `whole` holds, followed by `chunk`, after `stop` bytes: the first part stays in
`whole`, the second goes to `rest`. -/
def divide (whole rest : Buffer) (chunk : List UInt8) (stop : Nat) : Buffer × Buffer :=
  if stop ≤ whole.size then
    (whole.truncate stop, (rest.extendFrom whole stop).extend chunk)
  else
    let taken := stop - whole.size
    (whole.extend (chunk.take taken), rest.extend (chunk.drop taken))

/-- Cut a record of `stop` bytes off the buffered bytes and `chunk` behind them, and buffer the
rest. -/
def cut (grants : Allocator) (a : Assembler) (chunk : List UInt8) (stop : Nat) :
    Assembler × Except AssembleError (Option Record) :=
  let carried := a.heldSize + chunk.length - stop
  let more := stop - a.heldSize
  match Buffer.fresh? grants .carry carried with
  | none => (a, .error (.outOfMemory carried .refused))
  | some rest =>
    match a.recordBuffer? grants more with
    | none => (a, .error (.outOfMemory more .refused))
    | some whole =>
      let (record, rest) := divide whole rest chunk stop
      ({ a with pending := rest.nonempty?, scanned := 0 }, .ok (some (.ofList record.bytes)))

/-- Take a chunk in, and cut the first record it completes. An empty chunk changes nothing. -/
def feed (grants : Allocator) (a : Assembler) (chunk : List UInt8) :
    Assembler × Except AssembleError (Option Record) :=
  if chunk.isEmpty then (a, .ok none)
  else
    match a.cutEnd? chunk with
    | none => a.append grants chunk
    | some stop => a.cut grants chunk stop

/-! ### Popping -/

/-- Cut the first record that is buffered in full. -/
def pop (grants : Allocator) (a : Assembler) : Assembler × Except AssembleError (Option Record) :=
  match a.pending with
  | none => (a, .ok none)
  | some buffer =>
    match a.unscanned.findIdx? (· == a.terminator) with
    | none => ({ a with scanned := buffer.size }, .ok none)
    | some found =>
      let stop := a.scanned + found + 1
      match Buffer.fresh? grants .carry (buffer.size - stop) with
      | none => (a, .error (.outOfMemory (buffer.size - stop) .refused))
      | some rest =>
        ({ a with pending := (rest.extendFrom buffer stop).nonempty?, scanned := 0 },
          .ok (some (.ofList (buffer.bytes.take stop))))

/-- Pop until no record is left or memory is refused, but at most `count` times. -/
def popUpTo (grants : Allocator) : Nat → Assembler → Assembler × List Record × Option AssembleError
  | 0, a => (a, [], none)
  | count + 1, a =>
    match a.pop grants with
    | (a, .error e) => (a, [], some e)
    | (a, .ok none) => (a, [], none)
    | (a, .ok (some r)) =>
      let (a, rs, fault) := popUpTo grants count a
      (a, r :: rs, fault)

/-- Pop until no record is left or memory is refused. Each record takes at least one byte, and one
more pop finds none, so the bound is never met. -/
def popAll (grants : Allocator) (a : Assembler) : Assembler × List Record × Option AssembleError :=
  popUpTo grants (a.heldSize + 1) a

/-! ### Giving up -/

/-- Give the buffered bytes up. -/
def reset (a : Assembler) : Assembler × Option (List UInt8) :=
  ({ a with pending := none, scanned := 0 }, a.pending?)

/-- A copy of the assembler, whose buffer has no room to spare. -/
def copy (a : Assembler) : Assembler := { a with pending := a.pending.map Buffer.copy }

/-! ### Small facts -/

@[simp] theorem held_new (terminator : UInt8) : (new terminator).held = [] := rfl

theorem heldSize_eq_length (a : Assembler) : a.heldSize = a.held.length := by
  cases h : a.pending with
  | none => simp [heldSize, held, pending?, h]
  | some b => simp [heldSize, held, pending?, h]

/-- Nothing is left out of the search but what was searched before. -/
theorem unscanned_eq_drop (a : Assembler) : a.unscanned = a.held.drop a.scanned := by
  simp only [unscanned]
  split
  · rfl
  · next h =>
    rw [heldSize_eq_length] at h
    exact (List.drop_eq_nil_of_le (Nat.le_of_not_lt h)).symm

theorem agrees_copy (a : Assembler) : a.agrees a.copy = true := by
  cases h : a.pending <;> simp [agrees, copy, pending?, h]

end Assembler

end RecordRing
