import RecordRing.Device.Session

/-!
# Devices

A device is a store shared by any number of sessions. Sessions are numbered in the order in which
they are opened, and a number is not used again. `Device.step` is one call of one of them, or of the
device itself; a run is a list of calls, each with its conditions. Since each call has the lock for
itself while it uses the store, every interleaving of sessions is such a list.

## Main definitions

* `Stats`, `Store.stats` — a summary of a store
* `Device`, `Device.new`, `Device.openSession` — devices
* `Device.onSession`, `Device.onStore` — calls of a session, and of the device itself
* `Call`, `Reply`, `Device.step`, `Device.run` — runs
-/

namespace RecordRing

variable {n : Nat}

/-- A summary of a store. -/
structure Stats where
  /-- How many records are retained. -/
  retained : Nat
  /-- How many there can be. -/
  capacity : Nat
  /-- How many bytes are retained. -/
  totalSize : Nat
  /-- Whether the next record evicts one. -/
  full : Bool
deriving DecidableEq, Repr

/-- The summary of a store. -/
def Store.stats (s : Store n) : Stats where
  retained := s.length
  capacity := s.capacity
  totalSize := s.size
  full := s.isFull

/-- A store and its sessions. -/
structure Device (n : Nat) where
  /-- The settings. -/
  config : Config
  /-- The store. -/
  store : Store n
  /-- The sessions by number; nothing stands for one that has ended. -/
  sessions : List (Option Session)
deriving DecidableEq, Repr

/-- The number of a session. -/
abbrev SessionId := Nat

/-- The number of records a device retains if nothing else is said. -/
def defaultCapacity : Nat := 10

namespace Device

/-- A device with an empty store and no session, if the settings are right. -/
def new (n : Nat) (config : Config) : Except Error (Device n × List Event) :=
  match config.validate with
  | .error e => .error (.config e)
  | .ok _ => .ok (⟨config, .empty, []⟩, [.created n config.terminator])

/-- The session with number `id`. -/
def session? (d : Device n) (id : SessionId) : Option Session := d.sessions[id]?.join

/-- Open a session whose waits for the lock `token` stops. -/
def openSession (d : Device n) (token : CancelToken) : Device n × SessionId :=
  ({ d with sessions := d.sessions ++ [some (.new d.config.terminator token)] }, d.sessions.length)

/-- Call a session. There is no answer if it has ended. -/
def onSession {α : Type} (d : Device n) (id : SessionId)
    (call : Session → Store n → Outcome n α) : Device n × Option (Except Error α) × List Event :=
  match d.session? id with
  | none => (d, none, [])
  | some session =>
    let outcome := call session d.store
    ({ d with store := outcome.store, sessions := d.sessions.set id (some outcome.session) },
      some outcome.result, outcome.events)

/-- Call the device itself: have the lock, and do something with the store. -/
def onStore {α : Type} (d : Device n) (c : Conditions) (call : Store n → Store n × α × List Event) :
    Device n × Except Error α × List Event :=
  match c.lock with
  | .cancelled => (d, .error (.lock .cancelled), [.lockNotAcquired .cancelled])
  | .granted =>
    let (store, answer, events) := call d.store
    ({ d with store }, .ok answer, events)

/-! ### Calls of the device itself -/

/-- A summary of the store. -/
def stats (d : Device n) (c : Conditions) : Device n × Except Error Stats × List Event :=
  d.onStore c fun store => (store, store.stats, [])

/-- The retained records, oldest first. -/
def records (d : Device n) (c : Conditions) : Device n × Except Error (List Record) × List Event :=
  d.onStore c fun store => (store, store.toList, [])

/-- The retained bytes, oldest first. -/
def contents (d : Device n) (c : Conditions) : Device n × Except Error (List UInt8) × List Event :=
  d.onStore c fun store => (store, store.contents, [])

/-- Release every record. Sessions go on with the empty store. -/
def shutdown (d : Device n) (c : Conditions) : Device n × Except Error Nat × List Event :=
  d.onStore c fun store =>
    let (store, released) := store.teardown
    (store, released, [.tornDown released])

/-- End a session. -/
def close (d : Device n) (c : Conditions) (id : SessionId) : Device n × List Event :=
  match d.session? id with
  | none => (d, [])
  | some session =>
    let (store, events) := session.close d.store c
    ({ d with store, sessions := d.sessions.set id none }, events)

/-- Give up what a session has buffered. -/
def abandon (d : Device n) (id : SessionId) : Device n × Option (List UInt8) :=
  match d.session? id with
  | none => (d, none)
  | some session =>
    let (session, bytes) := session.abandon
    ({ d with sessions := d.sessions.set id (some session) }, bytes)

end Device

/-! ### Runs -/

/-- A call. -/
inductive Call where
  /-- Open a session. -/
  | open (token : CancelToken)
  /-- End a session. -/
  | close (id : SessionId)
  /-- Write a chunk. -/
  | write (id : SessionId) (chunk : List UInt8)
  /-- Put the finished records into the store. -/
  | flush (id : SessionId)
  /-- Read up to `count` bytes. -/
  | read (id : SessionId) (count : Nat)
  /-- Move the position. -/
  | seek (id : SessionId) (origin : Origin)
  /-- Move the position to a byte named by its record. -/
  | seekTo (id : SessionId) (target : SeekTo)
  /-- Give up what is buffered. -/
  | abandon (id : SessionId)
  /-- Summarise the store. -/
  | stats
  /-- Copy the retained records. -/
  | records
  /-- Copy the retained bytes. -/
  | contents
  /-- Release every record. -/
  | shutdown
deriving DecidableEq, Repr

/-- The answer to a call. -/
inductive Reply where
  /-- The session has this number. -/
  | opened (id : SessionId)
  /-- It is done. -/
  | done
  /-- A number: of bytes written, of records released, or a position. -/
  | number (value : Nat)
  /-- Bytes read. -/
  | bytes (bytes : List UInt8)
  /-- Bytes given up, if there were any. -/
  | abandoned (bytes : Option (List UInt8))
  /-- A summary. -/
  | stats (stats : Stats)
  /-- Records. -/
  | records (records : List Record)
  /-- The call failed. -/
  | failed (error : Error)
  /-- The session has ended. -/
  | absent
deriving DecidableEq, Repr

/-- A result as an answer. -/
def Reply.ofResult {α : Type} (answer : α → Reply) : Except Error α → Reply
  | .ok a => answer a
  | .error e => .failed e

/-- The result of a session's call as an answer. -/
def Reply.ofResult? {α : Type} (answer : α → Reply) : Option (Except Error α) → Reply
  | some result => .ofResult answer result
  | none => .absent

namespace Device

/-- Answer a call of a session. -/
def answerSession {α : Type} (d : Device n) (id : SessionId) (answer : α → Reply)
    (call : Session → Store n → Outcome n α) : Device n × Reply × List Event :=
  let (d, result, events) := d.onSession id call
  (d, .ofResult? answer result, events)

/-- One call. -/
def step (d : Device n) (c : Conditions) : Call → Device n × Reply × List Event
  | .open token =>
    let (d, id) := d.openSession token
    (d, .opened id, [])
  | .close id =>
    match d.session? id with
    | none => (d, .absent, [])
    | some _ =>
      let (d, events) := d.close c id
      (d, .done, events)
  | .write id chunk => d.answerSession id .number fun s store => s.write store c chunk
  | .flush id => d.answerSession id (fun _ => .done) fun s store => s.flush store c
  | .read id count => d.answerSession id .bytes fun s store => s.read store c count
  | .seek id origin => d.answerSession id .number fun s store => s.seek store c origin
  | .seekTo id target => d.answerSession id .number fun s store => s.seekTo store c target
  | .abandon id =>
    match d.session? id with
    | none => (d, .absent, [])
    | some _ =>
      let (d, bytes) := d.abandon id
      (d, .abandoned bytes, [])
  | .stats =>
    let (d, result, events) := d.stats c
    (d, .ofResult .stats result, events)
  | .records =>
    let (d, result, events) := d.records c
    (d, .ofResult .records result, events)
  | .contents =>
    let (d, result, events) := d.contents c
    (d, .ofResult .bytes result, events)
  | .shutdown =>
    let (d, result, events) := d.shutdown c
    (d, .ofResult .number result, events)

/-- A call that was answered: what it asked, what it met with, the answer, and what happened. -/
structure Entry where
  /-- The call. -/
  call : Call
  /-- What it met with. -/
  conditions : Conditions
  /-- The answer. -/
  reply : Reply
  /-- What happened. -/
  events : List Event

/-- Calls one after the other, each with what it meets. -/
def run (d : Device n) : List (Call × Conditions) → Device n × List Entry
  | [] => (d, [])
  | (call, c) :: calls =>
    let (d, reply, events) := d.step c call
    let (d, entries) := run d calls
    (d, ⟨call, c, reply, events⟩ :: entries)

end Device

end RecordRing
