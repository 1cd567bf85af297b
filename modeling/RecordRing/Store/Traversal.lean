import RecordRing.Store.Basic

/-!
# Going through a store

A *walk* reads the retained records one by one, oldest first, and leaves the store alone. A
*drain* takes them out one by one; whatever it has taken, ending it leaves an empty store with both
cursors at slot zero. Both say at every step how many records are still to come.

## Main definitions

* `Walk`, `Store.walk`, `Walk.next`, `Walk.remaining` — reading
* `Drain`, `Store.drain`, `Drain.next`, `Drain.remaining`, `Drain.close` — taking out
* `Walk.sizeHint`, `Drain.sizeHint` — what is said of the records still to come
* `Store.teardown` — take everything out and count it

## Main results

* `Walk.next_of_lt`, `next_of_eq` — a walk goes from slot to slot, up to the length it began with
-/

namespace RecordRing

variable {n : Nat}

/-! ### Walks -/

/-- A walk under way. -/
structure Walk (n : Nat) where
  /-- The store that is read. -/
  store : Store n
  /-- How many records have been passed. -/
  ordinal : Nat
  /-- How many records there were to pass when the walk began. -/
  length : Nat
deriving DecidableEq, Repr

/-- A walk along the retained records of `s`, oldest first. -/
def Store.walk (s : Store n) : Walk n := ⟨s, 0, s.length⟩

namespace Walk

/-- How many records are still to come. -/
def remaining (w : Walk n) : Nat := w.length - w.ordinal

/-- At least and at most so many records are still to come. -/
def sizeHint (w : Walk n) : Nat × Option Nat := (w.remaining, some w.remaining)

/-- The first record among the next `left` slots, and how many of the slots come after it. -/
def search (s : Store n) (length : Nat) : Nat → Nat × Option Record
  | 0 => (0, none)
  | left + 1 =>
    match s.slot? (s.slotIndex (length - (left + 1))) with
    | some r => (left, some r)
    | none => search s length left

/-- The next record. A vacant slot is passed over. -/
def next (w : Walk n) : Walk n × Option Record :=
  let (left, found) := search w.store w.length w.remaining
  ({ w with ordinal := w.length - left }, found)

/-- The slot that is reached is read, and the walk goes on behind it. -/
theorem next_of_lt {w : Walk n} (h : w.ordinal < w.length) :
    w.next = match w.store.slot? (w.store.slotIndex w.ordinal) with
      | some r => ({ w with ordinal := w.ordinal + 1 }, some r)
      | none => ({ w with ordinal := w.ordinal + 1 } : Walk n).next := by
  have hleft : w.remaining = (w.length - (w.ordinal + 1)) + 1 := by
    rw [remaining]; omega
  have hplace : w.length - (w.length - (w.ordinal + 1) + 1) = w.ordinal := by omega
  have hbehind : w.length - (w.length - (w.ordinal + 1)) = w.ordinal + 1 := by omega
  rw [next, hleft, search, hplace]
  cases w.store.slot? (w.store.slotIndex w.ordinal) with
  | some r => simp only [hbehind]
  | none => rfl

theorem next_of_eq {w : Walk n} (h : w.ordinal = w.length) : w.next = (w, none) := by
  obtain ⟨s, k, length⟩ := w
  obtain rfl : k = length := h
  rw [next, remaining, Nat.sub_self, search]
  rfl

end Walk

/-! ### Drains -/

/-- A drain under way: the store as far as it has been emptied. -/
structure Drain (n : Nat) where
  /-- What is left of the store. -/
  store : Store n
deriving DecidableEq, Repr

/-- A drain of the retained records of `s`, oldest first. -/
def Store.drain (s : Store n) : Drain n := ⟨s⟩

namespace Drain

/-- How many records are still to come. -/
def remaining (d : Drain n) : Nat := d.store.length

/-- At least and at most so many records are still to come. -/
def sizeHint (d : Drain n) : Nat × Option Nat := (d.remaining, some d.remaining)

/-- Take the next record out. -/
def next (d : Drain n) : Drain n × Option Record :=
  let (store, oldest) := d.store.takeOldest
  (⟨store⟩, oldest)

/-- Take up to `k` records out. -/
def take : Nat → Drain n → Drain n × List Record
  | 0, d => (d, [])
  | k + 1, d =>
    match d.next with
    | (d, none) => (d, [])
    | (d, some r) =>
      let (d, rs) := take k d
      (d, r :: rs)

/-- End the drain: the store is empty now, even if records were left in it. -/
def close (d : Drain n) : Store n := d.store.clear

@[simp] theorem close_eq_empty (d : Drain n) : d.close = Store.empty := Store.clear_eq_empty _

end Drain

/-- Take every record out, and say how many there were. -/
def Store.teardown (s : Store n) : Store n × Nat :=
  let (d, rs) := s.drain.take n
  (d.close, rs.length)

@[simp] theorem Store.teardown_fst (s : Store n) : s.teardown.1 = Store.empty := by
  simp [Store.teardown]

end RecordRing
