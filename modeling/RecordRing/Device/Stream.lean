import RecordRing.Device.Session

/-!
# A session as a stream

Files are written and read by larger calls than those of a session. Each of these is a number of
reads one after the other; what an earlier read copied stays read when a later one fails, and the
log tells of every one.

## Main definitions

* `Outcome.stream` — device errors as errors of a stream
* `Session.writeAll` — write, and ask for nothing if there is nothing to write
* `Session.readAll` — read with a buffer of a given size until nothing is read
* `Session.readExact` — read a given number of bytes
* `Session.readToEnd` — read into a growing buffer until nothing is read
-/

namespace RecordRing

variable {n : Nat}

/-- What a stream call leaves behind and answers. -/
structure StreamOutcome (n : Nat) (α : Type) where
  /-- The session afterwards. -/
  session : Session
  /-- The store afterwards. -/
  store : Store n
  /-- What happened, in order. -/
  events : List Event
  /-- The answer. -/
  result : Except StreamError α

/-- The outcome of a call as that of a stream call. -/
def Outcome.stream {α : Type} (o : Outcome n α) : StreamOutcome n α where
  session := o.session
  store := o.store
  events := o.events
  result := o.result.mapError .device

namespace Session

/-! ### Writing -/

/-- Write all of `chunk`. -/
def writeAll (s : Session) (store : Store n) (c : Conditions) (chunk : List UInt8) :
    Outcome n Unit :=
  if chunk.isEmpty then ⟨s, store, [], .ok ()⟩
  else
    let o := s.write store c chunk
    ⟨o.session, o.store, o.events, o.result.map fun _ => ()⟩

/-! ### Reading -/

/-- Read with buffers of `count` bytes until nothing is read, but at most `reads` times, and keep
what each read copied. -/
def readUpTo (s : Session) (store : Store n) (c : Conditions) (count : Nat) :
    Nat → Outcome n (List (List UInt8))
  | 0 => ⟨s, store, [], .ok []⟩
  | reads + 1 =>
    let o := s.read store c count
    match o.result with
    | .error e => ⟨o.session, o.store, o.events, .error e⟩
    | .ok [] => ⟨o.session, o.store, o.events, .ok []⟩
    | .ok (b :: bs) =>
      let rest := readUpTo o.session o.store c count reads
      ⟨rest.session, rest.store, o.events ++ rest.events, rest.result.map ((b :: bs) :: ·)⟩

/-- Read with buffers of `count` bytes until nothing is read. Each read but the last copies at least
one of the retained bytes. -/
def readAll (s : Session) (store : Store n) (c : Conditions) (count : Nat) :
    Outcome n (List (List UInt8)) :=
  s.readUpTo store c count (store.size + 1)

/-- Read `count` bytes, in at most `reads` reads. -/
def readExactUpTo (s : Session) (store : Store n) (c : Conditions) :
    Nat → Nat → StreamOutcome n (List UInt8)
  | _, 0 => ⟨s, store, [], .ok []⟩
  | 0, _ + 1 => ⟨s, store, [], .error .unexpectedEnd⟩
  | reads + 1, count =>
    let o := s.read store c count
    match o.result with
    | .error e => ⟨o.session, o.store, o.events, .error (.device e)⟩
    | .ok [] => ⟨o.session, o.store, o.events, .error .unexpectedEnd⟩
    | .ok (b :: bs) =>
      let rest := readExactUpTo o.session o.store c reads (count - (bs.length + 1))
      ⟨rest.session, rest.store, o.events ++ rest.events, rest.result.map ((b :: bs) ++ ·)⟩

/-- Read `count` bytes. Each read copies at least one of them, or fails. -/
def readExact (s : Session) (store : Store n) (c : Conditions) (count : Nat) :
    StreamOutcome n (List UInt8) :=
  s.readExactUpTo store c count count

/-! ### Reading into a growing buffer -/

/-- The bytes read so far, and the part of the room behind them that the next reads are to fill. -/
structure Gathering where
  /-- What was read. -/
  buffer : Buffer
  /-- The most that one read asks for. -/
  limit : Nat
  /-- How much of the room the next reads are to fill. -/
  window : Nat

namespace Gathering

/-- The size of the first read, and the least that is made room for. -/
def probe : Nat := 32

/-- Nothing was read. -/
def start : Gathering := ⟨.empty, 8192, 0⟩

/-- Open a new window as soon as no more is left of the old one than a first read takes. Where there
is not even room for that, some is made first. -/
def openWindow (g : Gathering) : Gathering :=
  if g.window ≤ probe then
    let buffer := (g.buffer.reserve? .generous probe).getD g.buffer
    { g with buffer, window := min buffer.room g.limit }
  else g

/-- Take in what a read copied. A read that fills the largest window at once makes the next ones
twice as large. -/
def gather (g : Gathering) (bs : List UInt8) : Gathering where
  buffer := g.buffer.extend bs
  limit := if g.limit ≤ bs.length then 2 * g.limit else g.limit
  window := g.window - bs.length

end Gathering

/-- Read into the windows of `g` until nothing is read, in at most `reads` reads. -/
def gatherUpTo (s : Session) (store : Store n) (c : Conditions) :
    Nat → Gathering → Outcome n (List UInt8)
  | 0, g => ⟨s, store, [], .ok g.buffer.bytes⟩
  | reads + 1, g =>
    let g := g.openWindow
    let o := s.read store c g.window
    match o.result with
    | .error e => ⟨o.session, o.store, o.events, .error e⟩
    | .ok [] => ⟨o.session, o.store, o.events, .ok g.buffer.bytes⟩
    | .ok (b :: bs) =>
      let rest := gatherUpTo o.session o.store c reads (g.gather (b :: bs))
      { rest with events := o.events ++ rest.events }

/-- Read until nothing is read, first a few bytes to see whether there are any. -/
def readToEnd (s : Session) (store : Store n) (c : Conditions) : Outcome n (List UInt8) :=
  let o := s.read store c Gathering.probe
  match o.result with
  | .error e => ⟨o.session, o.store, o.events, .error e⟩
  | .ok [] => ⟨o.session, o.store, o.events, .ok []⟩
  | .ok (b :: bs) =>
    let rest :=
      gatherUpTo o.session o.store c (o.store.size + 1) (Gathering.start.gather (b :: bs))
    { rest with events := o.events ++ rest.events }

end Session

end RecordRing
