import RecordRing.Proofs.Traversal

/-!
# The slots that are taken

A ring says of no slot whether it is in use. Which slots are follows from the cursors and the flag:
the `length` slots from the read cursor on, and no others. Slot `j` is `(j + n - readCursor) % n`
slots behind the read cursor, so it is taken exactly if this number is below the length
(`Store.WellFormed`). Each operation has to restore this, also in a ring of one slot, where the
cursors never move, and in one that a drain has emptied in part, where the flag is down already and
most slots are taken still.

## Checked operations

An operation of a store is defined for every store: a slot outside the ring is vacant, writing there
does nothing, and a difference below zero is zero. So nothing would be seen of a cursor that left
the ring. The checked operations below fail in such a place. They fail as well where a slot is
written that is taken, and where a full ring has no record to give up. That they never fail, and
else do what the operations do, is the worth of the invariant.

## Main definitions

* `Store.WellFormed` — the cursors, the flag and the slots agree
* `Checked.length`, `Checked.get`, `Checked.insert`, `Checked.takeOldest` — checked operations

## Main results

* `Store.LaysOut.slot?_eq` — what a slot holds, by its distance from the read cursor
* `Store.Holds.wellFormed`, `WellFormed.exists_holds` — to be well formed is to hold some list
* `Store.WellFormed.answer`, `WellFormed.takeOldest` — what one step preserves
* `Store.WellFormed.checked_insert` and the others — the checked operations never fail
* `Store.Arises.ring_invariant` — the ring in every store there is, and what follows
-/

namespace RecordRing

variable {n : Nat}

/-! ### Distances in a ring -/

/-- The slot that is `i` slots behind `r` has the distance `i` from it. -/
theorem distance_add_mod {r i : Nat} (hr : r < n) (hi : i < n) :
    ((r + i) % n + n - r) % n = i := by
  rw [add_mod_eq_ite hr hi]
  split
  · rw [show r + i + n - r = i + n by omega, Nat.add_mod_right, Nat.mod_eq_of_lt hi]
  · rw [show r + i - n + n - r = i by omega, Nat.mod_eq_of_lt hi]

/-- A slot is as far behind `r` as its distance says. -/
theorem add_distance_mod {r j : Nat} (hr : r < n) (hj : j < n) :
    (r + (j + n - r) % n) % n = j := by
  rw [Nat.add_mod_mod, show r + (j + n - r) = j + n by omega, Nat.add_mod_right,
    Nat.mod_eq_of_lt hj]

namespace Store

variable {s : Store n} {q : List Record} {r : Record} {i j : Nat}

theorem slotIndex_lt (hn : 0 < n) (s : Store n) (i : Nat) : s.slotIndex i < n := Nat.mod_lt _ hn

theorem lt_of_slot?_eq_some (h : s.slot? j = some r) : j < n := by
  by_contra hj
  rw [slot?, Vector.getElem?_eq_none (Nat.le_of_not_lt hj)] at h
  cases h

/-! ### The invariant -/

/-- The cursors, the flag and the slots of a ring agree. -/
structure WellFormed (s : Store n) : Prop where
  /-- The read cursor is in the ring. -/
  readCursor_lt : s.readCursor < n
  /-- The write cursor is in the ring. -/
  writeCursor_lt : s.writeCursor < n
  /-- The cursors of a full ring agree. -/
  cursors_eq : s.full = true → s.writeCursor = s.readCursor
  /-- The write cursor is behind the last record. -/
  writeCursor_eq : s.writeCursor = (s.readCursor + s.length) % n
  /-- A slot is taken if its distance from the read cursor is below the length. -/
  taken_iff : ∀ j < n,
    (s.slot? j).isSome = true ↔ (j + n - s.readCursor) % n < s.length

/-- **What a slot holds** is the record that has as many older ones as the slot is behind the read
cursor. -/
theorem LaysOut.slot?_eq (h : s.LaysOut q) (hj : j < n) :
    s.slot? j = q[(j + n - s.readCursor) % n]? := by
  have hn : 0 < n := Nat.zero_lt_of_lt hj
  have hplace : s.slotIndex ((j + n - s.readCursor) % n) = j :=
    add_distance_mod h.readCursor_lt hj
  have hslot := h.slot?_slotIndex _ (Nat.mod_lt (j + n - s.readCursor) hn)
  rwa [hplace] at hslot

/-- The slot under the write cursor is vacant, unless every slot is taken. -/
theorem LaysOut.slot?_writeCursor (h : s.LaysOut q) (hlt : q.length < n) :
    s.slot? s.writeCursor = none := by
  rw [h.writeCursor_eq]
  exact (h.slot?_slotIndex q.length hlt).trans (List.getElem?_eq_none (Nat.le_refl _))

theorem LaysOut.writeCursor_lt (h : s.LaysOut q) : s.writeCursor < n := by
  rw [h.writeCursor_eq]
  exact Nat.mod_lt _ (Nat.zero_lt_of_lt h.readCursor_lt)

theorem Holds.wellFormed (h : s.Holds q) : s.WellFormed where
  readCursor_lt := h.readCursor_lt
  writeCursor_lt := h.writeCursor_lt
  cursors_eq := by
    intro hfull
    rw [h.writeCursor_eq, h.full_iff.1 hfull, Nat.add_mod_right, Nat.mod_eq_of_lt h.readCursor_lt]
  writeCursor_eq := by
    rw [h.length_eq]
    exact h.writeCursor_eq
  taken_iff := by
    intro j hj
    rw [h.slot?_eq hj, h.length_eq]
    simp

namespace WellFormed

theorem length_le (h : s.WellFormed) : s.length ≤ n := by
  rw [length]
  split
  · exact Nat.le_refl n
  · exact Nat.le_of_lt (Nat.mod_lt _ (Nat.zero_lt_of_lt h.readCursor_lt))

theorem full_iff_length_eq (h : s.WellFormed) : s.full = true ↔ s.length = n := by
  have hn : 0 < n := Nat.zero_lt_of_lt h.readCursor_lt
  constructor
  · intro hfull
    rw [length, if_pos hfull]
  · intro hlength
    by_contra hfull
    rw [length, if_neg hfull] at hlength
    exact absurd hlength (Nat.ne_of_lt (Nat.mod_lt _ hn))

theorem taken_slotIndex_iff (h : s.WellFormed) (hi : i < n) :
    (s.slot? (s.slotIndex i)).isSome = true ↔ i < s.length := by
  have hn : 0 < n := Nat.zero_lt_of_lt hi
  rw [h.taken_iff _ (slotIndex_lt hn s i), slotIndex, distance_add_mod h.readCursor_lt hi]

/-- **A well-formed store holds a list**, so the invariant leaves nothing out. -/
theorem exists_holds (h : s.WellFormed) : ∃ q, s.Holds q := by
  let record (i : Nat) : Record := (s.slot? (s.slotIndex i)).getD default
  have hlength : ((List.range s.length).map record).length = s.length := by simp
  refine ⟨(List.range s.length).map record, ⟨?_, h.readCursor_lt, ?_, ?_⟩, ?_⟩
  · rw [hlength]
    exact h.length_le
  · rw [hlength]
    exact h.writeCursor_eq
  · intro i hi
    have htaken := h.taken_slotIndex_iff hi
    by_cases hlt : i < s.length
    · obtain ⟨r, hr⟩ := Option.isSome_iff_exists.1 (htaken.2 hlt)
      simp [hlt, hr, record]
    · have hvacant : s.slot? (s.slotIndex i) = none := by
        have hnot := mt htaken.1 hlt
        simpa using hnot
      rw [hvacant, List.getElem?_eq_none]
      rw [hlength]
      exact Nat.le_of_not_lt hlt
  · rw [hlength]
    exact h.full_iff_length_eq

/-- The flag is up exactly if every slot is taken. -/
theorem full_iff (h : s.WellFormed) : s.full = true ↔ ∀ j < n, (s.slot? j).isSome = true := by
  have hn : 0 < n := Nat.zero_lt_of_lt h.readCursor_lt
  rw [h.full_iff_length_eq]
  constructor
  · intro hlength j hj
    rw [h.taken_iff j hj, hlength]
    exact Nat.mod_lt _ hn
  · intro hall
    -- the slot in front of the read cursor is the last one to be taken
    have hlast : n - 1 < s.length :=
      (h.taken_slotIndex_iff (by omega)).1 (hall _ (slotIndex_lt hn s _))
    have hle : s.length ≤ n := h.length_le
    omega

/-- A store is empty exactly if every slot is vacant. -/
theorem isEmpty_iff (h : s.WellFormed) : s.isEmpty = true ↔ ∀ j < n, s.slot? j = none := by
  have hn : 0 < n := Nat.zero_lt_of_lt h.readCursor_lt
  obtain ⟨q, hq⟩ := h.exists_holds
  rw [hq.isEmpty_iff]
  constructor
  · rintro rfl j hj
    rw [hq.slot?_eq hj, List.getElem?_nil]
  · intro hall
    have hfirst := hall _ (slotIndex_lt hn s 0)
    rw [hq.slot?_slotIndex 0 hn] at hfirst
    simpa using hfirst

end WellFormed

/-! ### What keeps a store well formed -/

/-- **Every call keeps a store well formed.** -/
theorem WellFormed.answer (h : s.WellFormed) (call : StoreCall) : (s.answer call).1.WellFormed := by
  obtain ⟨q, hq⟩ := h.exists_holds
  exact (hq.answer call).1.wellFormed

/-- So does every step of a drain. -/
theorem WellFormed.takeOldest (h : s.WellFormed) : s.takeOldest.1.WellFormed := by
  obtain ⟨q, hq⟩ := h.exists_holds
  cases q with
  | nil =>
    rw [hq.takeOldest_nil]
    exact h
  | cons r q => exact hq.takeOldest_cons.1.wellFormed

theorem WellFormed.nexts_drain (h : s.WellFormed) (k : Nat) :
    (nexts Drain.next k s.drain).1.store.WellFormed := by
  induction k generalizing s with
  | zero => exact h
  | succ k ih => exact ih h.takeOldest

theorem Arises.wellFormed (hn : 0 < n) (h : s.Arises) : s.WellFormed := by
  induction h with
  | empty => exact (holds_empty hn).wellFormed
  | answer _ call ih => exact ih.answer call
  | abandoned _ k ih => exact ih.nexts_drain k

/-! ### Checked operations -/

namespace Checked

/-- The number of records; fails if the difference of the cursors is below zero. -/
def length (s : Store n) : Option Nat :=
  if s.full then some n
  else if s.readCursor ≤ s.writeCursor + n then some ((s.writeCursor + n - s.readCursor) % n)
  else none

/-- What slot `j` holds; fails outside the ring. -/
def slot (s : Store n) (j : Nat) : Option (Option Record) :=
  if j < n then some (s.slot? j) else none

/-- The record that has `ordinal` older ones; fails if its slot is outside the ring. -/
def get (s : Store n) (ordinal : Nat) : Option (Option Record) := do
  if ordinal < (← length s) then slot s (s.slotIndex ordinal) else some none

/-- Vacate the slot under the read cursor; fails outside the ring, and if the slot is vacant. -/
def vacate (s : Store n) : Option (Store n × Option Record) := do
  match ← slot s s.readCursor with
  | some r => some (s.vacate.1, some r)
  | none => none

/-- Put `r` into the slot under the write cursor; fails outside the ring, and if the slot is
taken. -/
def occupy (s : Store n) (r : Record) : Option (Store n) := do
  match ← slot s s.writeCursor with
  | some _ => none
  | none => some (s.occupy r)

/-- Put `r` in as the newest record. -/
def insert (s : Store n) (r : Record) : Option (Store n × Option Record) := do
  if s.full then
    let (vacated, oldest) ← vacate s
    let occupied ← occupy vacated r
    return (occupied, oldest)
  else
    let occupied ← occupy s r
    return (occupied, none)

/-- Take the oldest record out. -/
def takeOldest (s : Store n) : Option (Store n × Option Record) := do
  if s.isEmpty then
    return (s, none)
  else
    let (vacated, oldest) ← vacate s
    return ({ vacated with full := false }, oldest)

end Checked

theorem WellFormed.checked_length (h : s.WellFormed) : Checked.length s = some s.length := by
  have hcursors : s.readCursor ≤ s.writeCursor + n := by
    have := h.readCursor_lt
    omega
  rw [Checked.length, Store.length, if_pos hcursors]
  split <;> rfl

theorem WellFormed.checked_get (h : s.WellFormed) (i : Nat) :
    Checked.get s i = some (s.get? i) := by
  have hin : s.slotIndex i < n := slotIndex_lt (Nat.zero_lt_of_lt h.readCursor_lt) s i
  rw [Checked.get, h.checked_length, get?, Checked.slot, if_pos hin]
  change (if i < s.length then _ else _) = _
  split <;> rfl

/-- The oldest record is under the read cursor, so there is one to give up. -/
theorem LaysOut.checked_vacate (h : s.LaysOut (r :: q)) : Checked.vacate s = some s.vacate := by
  have hr : s.slot? s.readCursor = some r := h.vacate_snd
  simp [Checked.vacate, Checked.slot, h.readCursor_lt, hr, Store.vacate]

theorem LaysOut.checked_occupy (h : s.LaysOut q) (hlt : q.length < n) (r : Record) :
    Checked.occupy s r = some (s.occupy r) := by
  simp [Checked.occupy, Checked.slot, h.writeCursor_lt, h.slot?_writeCursor hlt]

/-- **An insertion writes a slot of the ring that is vacant**, if need be after a full ring has
given up a record. -/
theorem WellFormed.checked_insert (h : s.WellFormed) (r : Record) :
    Checked.insert s r = some (s.insert r) := by
  obtain ⟨q, hq⟩ := h.exists_holds
  rw [Checked.insert, Store.insert]
  split
  · next hfull =>
    have hlength : q.length = n := hq.full_iff.1 hfull
    cases q with
    | nil => exact absurd hlength (Nat.ne_of_lt (Nat.zero_lt_of_lt h.readCursor_lt))
    | cons oldest q =>
      have hlt : q.length < n := by
        rw [← hlength]
        exact Nat.lt_succ_self _
      rw [hq.checked_vacate]
      change (Checked.occupy s.vacate.1 r).bind _ = _
      rw [hq.vacate.checked_occupy hlt]
      rfl
  · next hfull =>
    rw [hq.checked_occupy (hq.lt_of_not_full hfull)]
    rfl

theorem WellFormed.checked_takeOldest (h : s.WellFormed) :
    Checked.takeOldest s = some s.takeOldest := by
  obtain ⟨q, hq⟩ := h.exists_holds
  rw [Checked.takeOldest, Store.takeOldest]
  split
  · rfl
  · next hne =>
    cases q with
    | nil => exact absurd (hq.isEmpty_iff.2 rfl) hne
    | cons oldest q =>
      rw [hq.checked_vacate]
      rfl

/-! ### What an insertion leaves in place -/

/-- **No record is overwritten**: it stays in its slot, or is the one that is given up. -/
theorem WellFormed.slot?_insert (h : s.WellFormed) (r : Record) {old : Record}
    (hold : s.slot? j = some old) :
    (s.insert r).1.slot? j = some old ∨
      s.full = true ∧ j = s.readCursor ∧ (s.insert r).2 = some old := by
  obtain ⟨q, hq⟩ := h.exists_holds
  have hj : j < n := lt_of_slot?_eq_some hold
  rw [Store.insert]
  split
  · next hfull =>
    by_cases hfirst : s.readCursor = j
    · right
      exact ⟨hfull, hfirst.symm, by rw [← hold, ← hfirst]; rfl⟩
    · left
      -- the cursors agree, so this is not the slot that is written either
      have hwrite : s.vacate.1.writeCursor ≠ j := by
        change s.writeCursor ≠ j
        rwa [h.cursors_eq hfull]
      change (s.vacate.1.occupy r).slot? j = some old
      rw [slot?_occupy _ r hj, if_neg hwrite, slot?_vacate, if_neg hfirst, hold]
  · next hfull =>
    left
    have hwrite : s.writeCursor ≠ j := by
      rintro rfl
      rw [hq.slot?_writeCursor (hq.lt_of_not_full hfull)] at hold
      cases hold
    change (s.occupy r).slot? j = some old
    rw [slot?_occupy s r hj, if_neg hwrite, hold]

/-- A record is given up exactly by a full ring. -/
theorem WellFormed.isSome_insert_snd (h : s.WellFormed) (r : Record) :
    (s.insert r).2.isSome = true ↔ s.full = true := by
  have hn : 0 < n := Nat.zero_lt_of_lt h.readCursor_lt
  obtain ⟨q, hq⟩ := h.exists_holds
  rw [(hq.insert r).2, hq.full_iff, Queue.insert]
  by_cases hfull : q.length = n
  · have hne : q ≠ [] := List.ne_nil_of_length_pos (by omega)
    simp [hfull, hne]
  · simp [hfull]

theorem WellFormed.isSome_get? (h : s.WellFormed) (i : Nat) :
    (s.get? i).isSome = true ↔ i < s.length := by
  obtain ⟨q, hq⟩ := h.exists_holds
  rw [hq.get?_eq, hq.length_eq]
  simp

/-- **The slots of a ring are taken exactly as the cursors say**, in every store there is, a drain
under way included. So the flag tells whether all are taken, and emptiness whether none is. No
operation leaves the ring, takes a larger cursor from a smaller sum, or writes a slot that is taken:
a record stays where it is until it is given up, which an insertion into a full ring always does. -/
theorem Arises.ring_invariant (hn : 0 < n) (hs : s.Arises) :
    s.WellFormed ∧
    (s.full = true ↔ ∀ j < n, (s.slot? j).isSome = true) ∧
    (s.isEmpty = true ↔ ∀ j < n, s.slot? j = none) ∧
    (∀ i, s.slotIndex i < n) ∧ s.readCursor ≤ s.writeCursor + n ∧
    Checked.length s = some s.length ∧
    (∀ i, Checked.get s i = some (s.get? i)) ∧
    (∀ r, Checked.insert s r = some (s.insert r)) ∧
    Checked.takeOldest s = some s.takeOldest ∧
    (∀ r j old, s.slot? j = some old → (s.insert r).1.slot? j = some old ∨
      s.full = true ∧ j = s.readCursor ∧ (s.insert r).2 = some old) ∧
    (∀ r, (s.insert r).2.isSome = true ↔ s.full = true) ∧
    ∀ i, (s.get? i).isSome = true ↔ i < s.length := by
  have h : s.WellFormed := hs.wellFormed hn
  refine ⟨h, h.full_iff, h.isEmpty_iff, slotIndex_lt hn s, ?_, h.checked_length, h.checked_get,
    h.checked_insert, h.checked_takeOldest, fun r j old hold => h.slot?_insert r hold,
    h.isSome_insert_snd, h.isSome_get?⟩
  have := h.readCursor_lt
  omega

/-- A ring of three that has gone around and was full, when a drain took one record and stopped
there. The flag is down, the read cursor is at the last slot and the write cursor at the one
before it; that one is the only slot that is vacant, and the next record goes there. -/
theorem ring_invariant_half_drained :
    let calls : List StoreCall := [.insert (.ofList [97]), .insert (.ofList [98]),
      .insert (.ofList [99]), .insert (.ofList [100])]
    let wrapped : Store 3 := (StoreCall.run Store.answer empty calls).1
    ∃ s : Store 3, 0 < 3 ∧ s = (nexts Drain.next 1 wrapped.drain).1.store ∧ s.Arises ∧
      wrapped.full = true ∧ s.full = false ∧ s.readCursor = 2 ∧ s.writeCursor = 1 ∧
      s.WellFormed ∧ s.slot? 1 = none ∧ (s.slot? 0).isSome = true ∧ (s.slot? 2).isSome = true ∧
      Checked.insert s (.ofList [101]) = some (s.insert (.ofList [101])) ∧
      (s.get? 1).isSome = true ∧ ¬ (s.get? 2).isSome = true := by
  intro calls wrapped
  let s : Store 3 := (nexts Drain.next 1 wrapped.drain).1.store
  have hs : s.Arises := (Reachable.arises ⟨calls, rfl⟩).abandoned 1
  have hfull : wrapped.full = true := by cbv
  have hdown : s.full = false := by cbv
  have hread : s.readCursor = 2 := by cbv
  have hwrite : s.writeCursor = 1 := by cbv
  have hlength : s.length = 2 := by cbv
  obtain ⟨h, -, -, -, -, -, -, hinsert, -, -, -, hget⟩ := hs.ring_invariant (by decide)
  have htaken (j : Nat) (hj : j < 3) := h.taken_iff j hj
  rw [hread, hlength] at htaken
  refine ⟨s, by decide, rfl, hs, hfull, hdown, hread, hwrite, h, ?_,
    (htaken 0 (by decide)).2 (by decide), (htaken 2 (by decide)).2 (by decide), hinsert _, ?_, ?_⟩
  · have hvacant := mt (htaken 1 (by decide)).1 (by decide)
    simpa using hvacant
  · rw [hget, hlength]
    decide
  · rw [hget, hlength]
    decide

end Store

end RecordRing
