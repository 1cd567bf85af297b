import RecordRing.Error

/-!
# The log of a device

Everything that happens to a device is told by events, in the order in which it happens. An event
keeps what it is about; its log line gives lengths only.

## Main definitions

* `Level` — how urgent an event is
* `Event`, `Event.level`, `Event.text` — the events, and their log lines
-/

namespace RecordRing

/-- How urgent an event is. -/
inductive Level where
  /-- Of interest when looking for a mistake. -/
  | debug
  /-- Of interest in general. -/
  | info
  /-- Something went wrong. -/
  | warn
deriving DecidableEq, Repr

/-- How log lines name a level. -/
def Level.name : Level → String
  | .debug => "DEBUG"
  | .info => "INFO"
  | .warn => "WARN"

/-- Something that happened to a device. -/
inductive Event where
  /-- A device was made. -/
  | created (capacity : Nat) (terminator : UInt8)
  /-- A record was evicted, to make room for the next one. -/
  | evicted (record : Record)
  /-- A record was put in, and so many are retained now. -/
  | committed (record : Record) (retained : Nat)
  /-- A write could not cut a later record of its chunk. -/
  | leftBuffered (error : Error)
  /-- A chunk was taken in. -/
  | wrote (length pending position : Nat)
  /-- A read found no more data. -/
  | readAtEnd (position : Nat)
  /-- A read copied bytes. -/
  | readCopied (copied position : Nat)
  /-- A position was moved. -/
  | sought (origin : Origin) (position size : Nat)
  /-- A position was moved to a byte named by its record. -/
  | soughtRecord (target : SeekTo) (position : Nat)
  /-- Every record was released. -/
  | tornDown (released : Nat)
  /-- The lock was not got. -/
  | lockNotAcquired (error : LockError)
  /-- A session ended with finished records that it could not put in. -/
  | closedUncommitted (error : Error)
  /-- A session ended with bytes buffered. -/
  | closedUnfinished (bytes : List UInt8)
deriving DecidableEq, Repr

namespace Event

/-- How urgent an event is. -/
def level : Event → Level
  | .leftBuffered _ | .lockNotAcquired _ | .closedUncommitted _ => .warn
  | _ => .debug

/-- The log line of an event, without its level. -/
def text : Event → String
  | .created capacity terminator =>
    s!"record device created capacity={capacity} terminator={terminator.toNat}"
  | .evicted record => s!"evicted oldest record len={record.size}"
  | .committed record retained => s!"record committed len={record.size} retained={retained}"
  | .leftBuffered error => s!"completed record left buffered err={error.message}"
  | .wrote length pending position =>
    s!"write len={length} partial={pending} position={position}"
  | .readAtEnd position => s!"read at end of data position={position}"
  | .readCopied copied position => s!"read copied={copied} position={position}"
  | .sought origin position size =>
    s!"seek from={origin.describe} position={position} size={size}"
  | .soughtRecord target position =>
    s!"seek to record record={target.record.toNat} offset={target.offset.toNat} position={position}"
  | .tornDown released => s!"record device torn down released={released}"
  | .lockNotAcquired error => s!"record store lock not acquired err={error.message}"
  | .closedUncommitted error =>
    s!"session closed with completed records not committed err={error.message}"
  | .closedUnfinished bytes => s!"session closed with unfinished record len={bytes.length}"

end Event

end RecordRing
