import RecordRing.Device.Stream

/-!
# Replaying an input

An input is read in pieces and written to a session piece by piece. A read may be interrupted; it is
made again then. A read that gives no bytes is the end of the input, and what is finished is put
into the store then.

## Main definitions

* `Piece` — what a read of the input comes to
* `blocks`, `Source`, `Source.pieces` — how inputs come in pieces
* `Session.replay` — write an input to a session
-/

namespace RecordRing

variable {n : Nat}

/-- What a read of the input comes to. -/
inductive Piece where
  /-- These bytes; none at the end of the input. -/
  | data (bytes : List UInt8)
  /-- Nothing yet. -/
  | interrupted
  /-- The input cannot be read. -/
  | failed (fault : FileFault)
deriving DecidableEq, Repr

/-! ### How inputs come in pieces -/

/-- Pieces of `size` bytes, at most `count` of them. -/
def blocksUpTo (size : Nat) : Nat → List UInt8 → List (List UInt8)
  | 0, _ => []
  | _ + 1, [] => []
  | count + 1, b :: bs => (b :: bs).take size :: blocksUpTo size count ((b :: bs).drop size)

/-- The bytes in pieces of `size`, the last of which may be shorter. -/
def blocks (size : Nat) (bs : List UInt8) : List (List UInt8) := blocksUpTo size bs.length bs

/-- Where an input comes from. -/
inductive Source where
  /-- A file, which gives as many bytes as are asked for. -/
  | file (bytes : List UInt8)
  /-- The standard input, which smaller requests read out of a buffer. -/
  | standardInput (bytes : List UInt8)
  /-- An input that cannot be read. -/
  | broken (fault : FileFault)
deriving DecidableEq, Repr

/-- The size of the buffer of the standard input. -/
def standardBuffer : Nat := 8192

/-- The reads of at most `size` bytes that go through an input. -/
def Source.pieces (size : Nat) : Source → List Piece
  | .file bytes => (blocks size bytes).map .data
  | .standardInput bytes =>
    if size < standardBuffer then
      ((blocks standardBuffer bytes).flatMap (blocks size)).map .data
    else (blocks size bytes).map .data
  | .broken fault => [.failed fault]

/-! ### Writing an input -/

/-- Why an input was not written. -/
inductive ReplayError where
  /-- It cannot be read. -/
  | input (fault : FileFault)
  /-- The device has an error. -/
  | device (error : Error)
deriving DecidableEq, Repr

/-- The wording of a replay error. -/
def ReplayError.message : ReplayError → String
  | .input fault => fault.message
  | .device error => error.message

/-- What replaying leaves behind and answers. -/
structure Replayed (n : Nat) where
  /-- The session afterwards. -/
  session : Session
  /-- The store afterwards. -/
  store : Store n
  /-- What happened, in order. -/
  events : List Event
  /-- How many bytes were written. -/
  result : Except ReplayError Nat

/-- Put what is finished into the store, at the end of an input of which `written` bytes were
written. -/
def Session.endReplay (s : Session) (store : Store n) (c : Conditions) (written : Nat) :
    Replayed n :=
  let o := s.flush store c
  ⟨o.session, o.store, o.events, (o.result.mapError .device).map fun _ => written⟩

/-- Write the pieces of an input, of which `written` bytes were written before. -/
def Session.replayFrom (s : Session) (store : Store n) (c : Conditions) (written : Nat) :
    List Piece → Replayed n
  | [] => s.endReplay store c written
  | .interrupted :: pieces => replayFrom s store c written pieces
  | .failed fault :: _ => ⟨s, store, [], .error (.input fault)⟩
  | .data [] :: _ => s.endReplay store c written
  | .data (b :: bs) :: pieces =>
    let o := s.writeAll store c (b :: bs)
    match o.result with
    | .error e => ⟨o.session, o.store, o.events, .error (.device e)⟩
    | .ok () =>
      let rest := replayFrom o.session o.store c (written + (bs.length + 1)) pieces
      { rest with events := o.events ++ rest.events }

/-- Write the pieces of an input. -/
def Session.replay (s : Session) (store : Store n) (c : Conditions) (pieces : List Piece) :
    Replayed n :=
  s.replayFrom store c 0 pieces

end RecordRing
