import RecordRing.Json.Error

/-!
# Reading JSON

A reader goes through a text byte by byte and knows how many bytes it has passed. When it fails, it
stops where it is: what goes on reading behind a failure (the end of a list or an object, so that
the place of an error about the whole of it comes after it) starts there.

A failure about the text is placed where it happens, either behind the bytes read or one byte ahead
of them. A failure about the value read is placed by the innermost value around it, with `placed`.

## Main definitions

* `Json.Cursor`, `Json.Fault`, `Json.Reader` — readers
* `Json.peek`, `Json.next`, `Json.skip`, `Json.blank` — the steps of a reader
* `Json.failHere`, `Json.failAhead`, `Json.failUnplaced`, `Json.placed` — failures
* `Json.read` — read a whole text
-/

namespace RecordRing.Json

/-- A place in a text: what is still to be read, and how many bytes were read. -/
structure Cursor where
  /-- What is still to be read. -/
  rest : List UInt8
  /-- How many bytes were read. -/
  offset : Nat
deriving DecidableEq, Repr

namespace Cursor

/-- One byte further on; at the end of the text, where it is. -/
def advance (c : Cursor) : Cursor :=
  match c.rest with
  | [] => c
  | _ :: rest => ⟨rest, c.offset + 1⟩

/-- `k` bytes further on, but not behind the end. -/
def drop (c : Cursor) : Nat → Cursor
  | 0 => c
  | k + 1 => c.advance.drop k

end Cursor

/-- A failure: the cause, and how many bytes come before its place, once that is known. -/
structure Fault where
  /-- What is wrong. -/
  cause : Cause
  /-- How many bytes come before the place. -/
  offset? : Option Nat
deriving DecidableEq, Repr

/-- A reader of values of type `α`. -/
def Reader (α : Type) := Cursor → Except Fault α × Cursor

instance : Monad Reader where
  pure a := fun c => (.ok a, c)
  bind r f := fun c =>
    match r c with
    | (.ok a, c) => f a c
    | (.error e, c) => (.error e, c)

/-! ### Steps -/

/-- The next byte, left where it is. -/
def peek : Reader (Option UInt8) := fun c => (.ok c.rest.head?, c)

/-- Pass the next byte. -/
def skip : Reader Unit := fun c => (.ok (), c.advance)

/-- The next byte, passed. -/
def next : Reader (Option UInt8) := fun c => (.ok c.rest.head?, c.advance)

/-- The bytes that separate: space, line feed, tab and carriage return. -/
def isBlank (b : UInt8) : Bool := b = 0x20 || b = 0x0A || b = 0x09 || b = 0x0D

/-- Pass what separates, and look at the next byte. -/
def blank : Reader (Option UInt8) := fun c =>
  let c := c.drop (c.rest.takeWhile isBlank).length
  (.ok c.rest.head?, c)

/-! ### Failures -/

/-- Fail behind the bytes read. -/
def failHere {α : Type} (cause : Cause) : Reader α := fun c => (.error ⟨cause, some c.offset⟩, c)

/-- Fail behind the next byte. -/
def failAhead {α : Type} (cause : Cause) : Reader α := fun c =>
  (.error ⟨cause, some c.advance.offset⟩, c)

/-- Fail at a place to be told by a value around. -/
def failUnplaced {α : Type} (cause : Cause) : Reader α := fun c => (.error ⟨cause, none⟩, c)

/-- Place a failure of `r` that has no place yet behind what `r` read. -/
def placed {α : Type} (r : Reader α) : Reader α := fun c =>
  match r c with
  | (.error ⟨cause, none⟩, c) => (.error ⟨cause, some c.offset⟩, c)
  | result => result

/-- Read with `r` and then, whether it failed or not, with `close`. The failure that came first
counts. -/
def enclosed {α : Type} (r : Reader α) (close : Reader Unit) : Reader α := fun c =>
  match r c with
  | (.error e, c) => (.error e, (close c).2)
  | (.ok a, c) =>
    match close c with
    | (.error e, c) => (.error e, c)
    | (.ok _, c) => (.ok a, c)

/-! ### Whole texts -/

/-- Only what separates may follow. -/
def finish : Reader Unit := do
  match ← blank with
  | some _ => failAhead .trailingCharacters
  | none => pure ()

/-- Read the whole of `text` with `r`. -/
def read {α : Type} (r : Reader α) (text : List UInt8) : Except Error α :=
  match (do let a ← r; finish; pure a : Reader α) ⟨text, 0⟩ with
  | (.ok a, _) => .ok a
  | (.error e, c) => .error ⟨e.cause, Place.after (text.take (e.offset?.getD c.offset))⟩

/-! ### Small facts -/

theorem Cursor.drop_eq (c : Cursor) (k : Nat) :
    c.drop k = ⟨c.rest.drop k, c.offset + min k c.rest.length⟩ := by
  induction k generalizing c with
  | zero => simp [Cursor.drop]
  | succ k ih =>
    rw [Cursor.drop, ih]
    cases h : c.rest with
    | nil => simp [Cursor.advance, h]
    | cons b rest => simp [Cursor.advance, h]; omega

theorem bind_of_ok {α β : Type} {r : Reader α} {f : α → Reader β} {c d : Cursor} {a : α}
    (h : r c = (.ok a, d)) : (r >>= f) c = f a d := by
  change (match r c with
    | (.ok a, c) => f a c
    | (.error e, c) => (.error e, c)) = _
  rw [h]

end RecordRing.Json
