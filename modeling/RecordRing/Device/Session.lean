import RecordRing.Device.Event
import RecordRing.Store.Traversal

/-!
# Sessions

A session is one reader and writer of a store that many share. It has an assembler and a position
of its own. Writing assembles records and puts them into the store, evicting the oldest ones once
the store is full; reading goes through the retained bytes from the position on, at most one record
a call.

The store is reached under a lock. A chunk that completes no record is assembled without it, so
`Session.write` looks ahead. What becomes of a request for the lock, and which requests for memory
are granted, are the *conditions* of a call.

## Main definitions

* `Conditions` — what a call meets with
* `Session`, `Session.new` — sessions
* `Outcome` — what a call leaves behind and answers
* `Store.commit`, `Store.commitAll` — put records in, and log it
* `Session.write`, `Session.flush`, `Session.read`, `Session.seek`, `Session.seekTo`,
  `Session.abandon`, `Session.close` — the calls
-/

namespace RecordRing

variable {n : Nat}

/-- What a call meets with. -/
structure Conditions where
  /-- How a request for the lock ends. -/
  lock : Acquisition
  /-- Which requests for memory are granted. -/
  memory : Allocator

/-- Nothing stands in the way. -/
def Conditions.clear : Conditions := ⟨.granted, .generous⟩

/-- One reader and writer of a store. -/
structure Session where
  /-- Cuts what is written into records. -/
  assembler : Assembler
  /-- How many retained bytes come before the next one to be read. -/
  position : Nat
  /-- The token that stops the session's waits for the lock. -/
  token : CancelToken
deriving DecidableEq, Repr

/-- What a call leaves behind and answers. -/
structure Outcome (n : Nat) (α : Type) where
  /-- The session afterwards. -/
  session : Session
  /-- The store afterwards. -/
  store : Store n
  /-- What happened, in order. -/
  events : List Event
  /-- The answer. -/
  result : Except Error α

/-! ### Putting records in -/

/-- Put `r` in. The record it evicts is told of first. -/
def Store.commit (s : Store n) (r : Record) : Store n × List Event :=
  let (s, evicted) := s.insert r
  (s, evicted.toList.map Event.evicted ++ [.committed r s.length])

/-- Put records in, one after the other. -/
def Store.commitAll (s : Store n) : List Record → Store n × List Event
  | [] => (s, [])
  | r :: rs =>
    let (s, events) := s.commit r
    let (s, more) := commitAll s rs
    (s, events ++ more)

namespace Session

/-- A session that has read and written nothing. -/
def new (terminator : UInt8) (token : CancelToken) : Session := ⟨.new terminator, 0, token⟩

/-- Whether the session holds bytes that are not in the store. -/
def hasPending (s : Session) : Bool := s.assembler.hasPending

/-- Answer a call that did not get the lock: nothing has changed. -/
def denied {α : Type} (s : Session) (store : Store n) : Outcome n α :=
  ⟨s, store, [.lockNotAcquired .cancelled], .error (.lock .cancelled)⟩

/-! ### Writing -/

/-- Put every finished record that is buffered into the store, as far as memory goes. -/
def commitBuffered (s : Session) (store : Store n) (memory : Allocator) :
    Session × Store n × List Event × Option AssembleError :=
  let (assembler, records, fault) := s.assembler.popAll memory
  let (store, events) := store.commitAll records
  ({ s with assembler }, store, events, fault)

/-- Put the record that a chunk completed first, if any, and then every other one into the store.
The chunk counts as written even if one of them cannot be cut now; that one stays buffered. -/
def commitWritten (s : Session) (store : Store n) (memory : Allocator) (first : Option Record) :
    Session × Store n × List Event :=
  let (store, events) := store.commitAll first.toList
  let (s, store, more, fault) := s.commitBuffered store memory
  (s, store, events ++ more ++ fault.toList.map fun e => .leftBuffered (.assemble e))

/-- Whether writing `chunk` asks for the lock. -/
def writeNeedsLock (s : Session) (chunk : List UInt8) : Bool := s.assembler.completesWith chunk

/-- Write a chunk: all of it, or, on an error, nothing. -/
def write (s : Session) (store : Store n) (c : Conditions) (chunk : List UInt8) : Outcome n Nat :=
  if chunk.isEmpty then ⟨s, store, [], .ok 0⟩
  else
    let locked := s.writeNeedsLock chunk
    if locked && c.lock == .cancelled then s.denied store
    else
      match s.assembler.feed c.memory chunk with
      | (assembler, .error e) => ⟨{ s with assembler }, store, [], .error (.assemble e)⟩
      | (assembler, .ok first) =>
        let s := { s with assembler, position := s.position + chunk.length }
        let (s, store, events) :=
          if locked then s.commitWritten store c.memory first else (s, store, [])
        ⟨s, store, events ++ [.wrote chunk.length s.assembler.heldSize s.position],
          .ok chunk.length⟩

/-- Whether flushing asks for the lock. -/
def flushNeedsLock (s : Session) : Bool := s.assembler.hasComplete

/-- Put every finished record that is buffered into the store. -/
def flush (s : Session) (store : Store n) (c : Conditions) : Outcome n Unit :=
  if s.flushNeedsLock then
    match c.lock with
    | .cancelled => s.denied store
    | .granted =>
      let (s, store, events, fault) := s.commitBuffered store c.memory
      ⟨s, store, events, match fault with | some e => .error (.assemble e) | none => .ok ()⟩
  else ⟨s, store, [], .ok ()⟩

/-- Give up what is buffered, and answer with it. -/
def abandon (s : Session) : Session × Option (List UInt8) :=
  let (assembler, bytes) := s.assembler.reset
  ({ s with assembler }, bytes)

/-- End the session: put the finished records into the store, and give up what is left. -/
def close (s : Session) (store : Store n) (c : Conditions) : Store n × List Event :=
  let flushed := s.flush store c
  let uncommitted :=
    match flushed.result with
    | .error e => [Event.closedUncommitted e]
    | .ok _ => []
  let unfinished := flushed.session.abandon.2.toList.map Event.closedUnfinished
  (flushed.store, flushed.events ++ uncommitted ++ unfinished)

/-! ### Reading -/

/-- Read up to `count` bytes from the position on, within one record. Nothing is read at the end of
the data. -/
def read (s : Session) (store : Store n) (c : Conditions) (count : Nat) :
    Outcome n (List UInt8) :=
  if count = 0 then ⟨s, store, [], .ok []⟩
  else
    match c.lock with
    | .cancelled => s.denied store
    | .granted =>
      match store.locate? s.position with
      | none => ⟨s, store, [.readAtEnd s.position], .ok []⟩
      | some found =>
        let bytes := found.remainingUpTo count
        let position := s.position + bytes.length
        ⟨{ s with position }, store, [.readCopied bytes.length position], .ok bytes⟩

/-! ### Moving -/

/-- Move the position within the retained bytes, or to their end. -/
def seek (s : Session) (store : Store n) (c : Conditions) (origin : Origin) : Outcome n Nat :=
  match c.lock with
  | .cancelled => s.denied store
  | .granted =>
    let size := store.size
    match RecordRing.seek s.position size origin with
    | .error e => ⟨s, store, [], .error (.seek e)⟩
    | .ok position =>
      ⟨{ s with position }, store, [.sought origin position size], .ok position⟩

/-- Move the position to a byte named by its record. -/
def seekTo (s : Session) (store : Store n) (c : Conditions) (target : SeekTo) : Outcome n Nat :=
  match c.lock with
  | .cancelled => s.denied store
  | .granted =>
    match store.address target.record.toNat target.offset.toNat with
    | .error e => ⟨s, store, [], .error (.lookup e)⟩
    | .ok position => ⟨{ s with position }, store, [.soughtRecord target position], .ok position⟩

end Session

end RecordRing
