import Mathlib
import RecordRing.Store.Traversal

/-!
# The records a ring holds

The number of records in a ring is coded by two cursors and a flag, and the cursors agree both in
an empty ring and in a full one. `Store.Holds s q` says that `s` codes the list `q`, oldest record
first. Each operation is then described by what it does to the list.

## What is deliberately absent

There is no well-formedness predicate beside `Holds`. A store that holds some list is well formed,
and the list says all that is to be known about it.

## Main definitions

* `Store.LaysOut` — the slots and the cursors fit the list
* `Store.Holds` — and so does the flag
* `Walk.take` — read up to so many records

## Main results

* `Store.Holds.toList_eq`, `get?_eq`, `length_eq`, `isEmpty_iff`, `isFull_iff`, `take_walk` — what
  is observed of a store that holds a list
* `Store.Holds.insert_of_lt`, `insert_of_full`, `takeOldest_cons` — what becomes of the list
-/

namespace RecordRing

variable {n : Nat}

/-! ### Slots

Slots are counted from the read cursor on, around the ring. -/

/-- Going around a ring of `n` from a slot in it, less than once. -/
theorem add_mod_eq_ite {r i : Nat} (hr : r < n) (hi : i < n) :
    (r + i) % n = if r + i < n then r + i else r + i - n := by
  split
  · next h => exact Nat.mod_eq_of_lt h
  · next h => rw [Nat.mod_eq_sub_mod (by omega), Nat.mod_eq_of_lt (by omega)]

theorem add_mod_inj {r i j : Nat} (hr : r < n) (hi : i < n) (hj : j < n) :
    (r + i) % n = (r + j) % n ↔ i = j := by
  rw [add_mod_eq_ite hr hi, add_mod_eq_ite hr hj]
  split <;> split <;> omega

theorem advance_add_mod (r i : Nat) : (advance r n + i) % n = (r + (i + 1)) % n := by
  rw [advance, Nat.mod_add_mod, Nat.add_assoc, Nat.add_comm 1 i]

namespace Store

theorem slot?_empty (i : Nat) : (empty : Store n).slot? i = none := by
  rw [slot?, empty, Vector.getElem?_replicate]
  split <;> rfl

theorem slot?_vacate (s : Store n) (j : Nat) :
    s.vacate.1.slot? j = if s.readCursor = j then none else s.slot? j := by
  simp only [slot?, vacate, Vector.getElem?_setIfInBounds]
  split
  · split <;> rfl
  · rfl

theorem slot?_occupy (s : Store n) (r : Record) {j : Nat} (hj : j < n) :
    (s.occupy r).slot? j = if s.writeCursor = j then some r else s.slot? j := by
  simp only [slot?, occupy, Vector.getElem?_setIfInBounds]
  split
  · next h => rw [if_pos (by omega)]; rfl
  · rfl

/-! ### The list of a store -/

/-- The slots and cursors of `s` fit the list `q`: its records lie behind the read cursor in their
order, every other slot is vacant, and the write cursor is at the first of those. -/
structure LaysOut (s : Store n) (q : List Record) : Prop where
  /-- There are enough slots. -/
  length_le : q.length ≤ n
  /-- The read cursor is in the ring. -/
  readCursor_lt : s.readCursor < n
  /-- The write cursor is behind the last record. -/
  writeCursor_eq : s.writeCursor = (s.readCursor + q.length) % n
  /-- The slots hold the records and nothing else. -/
  slot?_slotIndex : ∀ i < n, s.slot? (s.slotIndex i) = q[i]?

/-- `s` holds the records `q`, oldest first. -/
structure Holds (s : Store n) (q : List Record) : Prop extends s.LaysOut q where
  /-- The flag is set when every slot is taken. -/
  full_iff : s.full = true ↔ q.length = n

theorem holds_empty (hn : 0 < n) : (empty : Store n).Holds [] where
  length_le := Nat.zero_le n
  readCursor_lt := hn
  writeCursor_eq := (Nat.zero_mod n).symm
  slot?_slotIndex i _ := slot?_empty _
  full_iff := by simp [empty]; omega

/-! ### What is observed -/

section Observed

variable {s : Store n} {q : List Record}

theorem LaysOut.writeCursor_eq_ite (h : s.LaysOut q) (hlt : q.length < n) :
    s.writeCursor =
      if s.readCursor + q.length < n then s.readCursor + q.length
      else s.readCursor + q.length - n :=
  h.writeCursor_eq.trans (add_mod_eq_ite h.readCursor_lt hlt)

theorem Holds.lt_of_not_full (h : s.Holds q) (hfull : ¬ s.full = true) : q.length < n :=
  Nat.lt_of_le_of_ne h.length_le fun heq => hfull (h.full_iff.2 heq)

theorem Holds.length_eq (h : s.Holds q) : s.length = q.length := by
  rw [Store.length]
  split
  · next hfull => exact (h.full_iff.1 hfull).symm
  · next hfull =>
    have hlt : q.length < n := h.lt_of_not_full hfull
    have hr : s.readCursor < n := h.readCursor_lt
    rw [h.writeCursor_eq_ite hlt]
    split
    · rw [show s.readCursor + q.length + n - s.readCursor = q.length + n by omega,
        Nat.add_mod_right, Nat.mod_eq_of_lt hlt]
    · rw [show s.readCursor + q.length - n + n - s.readCursor = q.length by omega,
        Nat.mod_eq_of_lt hlt]

theorem Holds.isFull_iff (h : s.Holds q) : s.isFull = true ↔ q.length = n := h.full_iff

/-- The cursors of a store that is not full agree only if it is empty. -/
theorem Holds.isEmpty_iff (h : s.Holds q) : s.isEmpty = true ↔ q = [] := by
  have hn : 0 < n := Nat.zero_lt_of_lt h.readCursor_lt
  simp only [isEmpty, Bool.and_eq_true, Bool.not_eq_true', beq_iff_eq, ← List.length_eq_zero_iff]
  constructor
  · rintro ⟨hfull, hcursors⟩
    have hlt : q.length < n := h.lt_of_not_full (by simp [hfull])
    rw [h.writeCursor_eq_ite hlt] at hcursors
    split at hcursors <;> omega
  · intro hnil
    refine ⟨?_, ?_⟩
    · rw [← Bool.not_eq_true, h.full_iff, hnil]; omega
    · rw [h.writeCursor_eq, hnil, Nat.add_zero, Nat.mod_eq_of_lt h.readCursor_lt]

theorem Holds.get?_eq (h : s.Holds q) (i : Nat) : s.get? i = q[i]? := by
  rw [get?, h.length_eq]
  split
  · next hi => exact h.slot?_slotIndex i (Nat.lt_of_lt_of_le hi h.length_le)
  · next hi => exact (List.getElem?_eq_none (Nat.le_of_not_lt hi)).symm

theorem filterMap_range_getElem? (q : List Record) :
    (List.range q.length).filterMap (q[·]?) = q := by
  induction q with
  | nil => rfl
  | cons r q ih =>
    rw [List.length_cons, List.range_succ_eq_map, List.filterMap_cons, List.filterMap_map]
    exact congrArg (r :: ·) ih

theorem Holds.toList_eq (h : s.Holds q) : s.toList = q := by
  rw [toList, h.length_eq]
  calc (List.range q.length).filterMap (fun i => s.slot? (s.slotIndex i))
      = (List.range q.length).filterMap (q[·]?) :=
        List.filterMap_congr fun i hi =>
          h.slot?_slotIndex i (Nat.lt_of_lt_of_le (List.mem_range.1 hi) h.length_le)
    _ = q := filterMap_range_getElem? q

end Observed

end Store

/-! ### Walks -/

/-- Read up to `k` records. -/
def Walk.take : Nat → Walk n → Walk n × List Record
  | 0, w => (w, [])
  | k + 1, w =>
    match w.next with
    | (w, none) => (w, [])
    | (w, some r) =>
      let (w, rs) := Walk.take k w
      (w, r :: rs)

/-- A walk finds every slot taken, so a step reads the next record, if there is one. -/
theorem Store.Holds.next_walk {s : Store n} {q : List Record} (h : s.Holds q) {k : Nat}
    (hk : k ≤ q.length) :
    (⟨s, k, q.length⟩ : Walk n).next = (⟨s, min (k + 1) q.length, q.length⟩, q[k]?) := by
  rcases Nat.lt_or_eq_of_le hk with hlt | rfl
  · have htaken : s.slot? (s.slotIndex k) = some q[k] := by
      rw [h.slot?_slotIndex k (Nat.lt_of_lt_of_le hlt h.length_le), List.getElem?_eq_getElem hlt]
    rw [Walk.next_of_lt hlt, htaken, Nat.min_eq_left (by omega : k + 1 ≤ q.length),
      List.getElem?_eq_getElem hlt]
  · rw [Walk.next_of_eq rfl, List.getElem?_eq_none (Nat.le_refl _),
      Nat.min_eq_right (Nat.le_succ _)]

/-- **A walk reads the records in their order**, and then no more. -/
theorem Store.Holds.take_walk_from {s : Store n} {q : List Record} (h : s.Holds q) {k : Nat}
    (hk : k ≤ q.length) (j : Nat) :
    (⟨s, k, q.length⟩ : Walk n).take j
      = (⟨s, min (k + j) q.length, q.length⟩, (q.drop k).take j) := by
  induction j generalizing k with
  | zero => rw [Walk.take, Nat.add_zero, Nat.min_eq_left hk, List.take_zero]
  | succ j ih =>
    rw [Walk.take, h.next_walk hk]
    rcases Nat.lt_or_eq_of_le hk with hlt | rfl
    · rw [List.getElem?_eq_getElem hlt, Nat.min_eq_left hlt]
      dsimp only
      rw [ih hlt, List.drop_eq_getElem_cons hlt, List.take_succ_cons,
        show k + (j + 1) = k + 1 + j by omega]
    · rw [List.getElem?_eq_none (Nat.le_refl _), List.drop_length, List.take_nil,
        Nat.min_eq_right (Nat.le_succ _), Nat.min_eq_right (Nat.le_add_right _ _)]

theorem Store.Holds.take_walk {s : Store n} {q : List Record} (h : s.Holds q) (j : Nat) :
    (s.walk.take j).2 = q.take j := by
  rw [Store.walk, h.length_eq, h.take_walk_from (Nat.zero_le _), List.drop_zero]

/-! ### Changes

An operation is made of two halves: a slot is vacated at one end, or taken at the other. Between the
halves of an insertion into a full ring the flag is wrong, so the halves speak of `LaysOut`. -/

namespace Store

variable {s : Store n} {q : List Record} {r : Record}

theorem LaysOut.vacate (h : s.LaysOut (r :: q)) : s.vacate.1.LaysOut q := by
  have hlen : q.length + 1 ≤ n := h.length_le
  have hr : s.readCursor < n := h.readCursor_lt
  have hadvance (i : Nat) : s.vacate.1.slotIndex i = (s.readCursor + (i + 1)) % n :=
    advance_add_mod s.readCursor i
  refine ⟨by omega, Nat.mod_lt _ (by omega), ?_, fun i hi => ?_⟩
  · change s.writeCursor = (advance s.readCursor n + q.length) % n
    rw [advance_add_mod, h.writeCursor_eq, List.length_cons]
  · rw [hadvance, slot?_vacate]
    by_cases hlast : i + 1 = n
    · -- Around the ring is the slot that was vacated.
      rw [hlast, Nat.add_mod_right, Nat.mod_eq_of_lt hr, if_pos rfl,
        List.getElem?_eq_none (by omega)]
    · have hne : s.readCursor ≠ (s.readCursor + (i + 1)) % n := by
        have := add_mod_inj hr (Nat.zero_lt_of_lt hr) (show i + 1 < n by omega)
        rw [Nat.add_zero, Nat.mod_eq_of_lt hr] at this
        omega
      rw [if_neg hne]
      exact h.slot?_slotIndex (i + 1) (by omega)

theorem LaysOut.vacate_snd (h : s.LaysOut (r :: q)) : s.vacate.2 = some r := by
  have hn : 0 < n := Nat.zero_lt_of_lt h.readCursor_lt
  have hfirst := h.slot?_slotIndex 0 hn
  rwa [slotIndex, Nat.add_zero, Nat.mod_eq_of_lt h.readCursor_lt] at hfirst

theorem LaysOut.occupy (h : s.LaysOut q) (hlt : q.length < n) (r : Record) :
    (s.occupy r).LaysOut (q ++ [r]) := by
  have hr : s.readCursor < n := h.readCursor_lt
  refine ⟨by rw [List.length_append, List.length_singleton]; omega, hr, ?_, fun i hi => ?_⟩
  · change advance s.writeCursor n = (s.readCursor + (q ++ [r]).length) % n
    rw [advance, h.writeCursor_eq, Nat.mod_add_mod, List.length_append, List.length_singleton,
      Nat.add_assoc]
  · have hplace : s.writeCursor = s.slotIndex i ↔ q.length = i := by
      rw [h.writeCursor_eq]
      exact add_mod_inj hr hlt hi
    have hin : s.slotIndex i < n := Nat.mod_lt _ (Nat.zero_lt_of_lt hr)
    change (s.occupy r).slot? (s.slotIndex i) = _
    rw [slot?_occupy s r hin, h.slot?_slotIndex i hi]
    by_cases hi' : q.length = i
    · rw [if_pos (hplace.2 hi'), ← hi', List.getElem?_concat_length]
    · rw [if_neg (mt hplace.1 hi')]
      rcases Nat.lt_or_gt_of_ne hi' with hgt | hlt'
      · rw [List.getElem?_eq_none (by omega), List.getElem?_eq_none (by simp; omega)]
      · rw [List.getElem?_append_left hlt']

/-- The cursors come to meet when the last vacant slot is taken. -/
theorem LaysOut.advance_writeCursor (h : s.LaysOut q) (hlt : q.length < n) :
    advance s.writeCursor n = s.readCursor ↔ q.length + 1 = n := by
  rw [advance, h.writeCursor_eq_ite hlt]
  have hr : s.readCursor < n := h.readCursor_lt
  split
  · rw [Nat.add_assoc]
    by_cases hend : s.readCursor + (q.length + 1) < n
    · rw [Nat.mod_eq_of_lt hend]; omega
    · rw [show s.readCursor + (q.length + 1) = n by omega, Nat.mod_self]; omega
  · rw [Nat.mod_eq_of_lt (by omega)]; omega

theorem Holds.insert_of_lt (h : s.Holds q) (hlt : q.length < n) (r : Record) :
    (s.insert r).1.Holds (q ++ [r]) ∧ (s.insert r).2 = none := by
  have hfull : s.full = false := by
    rw [← Bool.not_eq_true, h.full_iff]; omega
  have hinsert : s.insert r = (s.occupy r, none) := by simp [insert, hfull]
  rw [hinsert]
  refine ⟨⟨h.toLaysOut.occupy hlt r, ?_⟩, rfl⟩
  change (s.full || advance s.writeCursor n == s.readCursor) = true ↔ _
  rw [hfull, Bool.false_or, beq_iff_eq, h.toLaysOut.advance_writeCursor hlt, List.length_append,
    List.length_singleton]

theorem Holds.insert_of_full {oldest : Record} (h : s.Holds (oldest :: q))
    (hfull : q.length + 1 = n) (r : Record) :
    (s.insert r).1.Holds (q ++ [r]) ∧ (s.insert r).2 = some oldest := by
  have hflag : s.full = true := h.full_iff.2 hfull
  have hinsert : s.insert r = (s.vacate.1.occupy r, s.vacate.2) := by simp [insert, hflag]
  rw [hinsert]
  refine ⟨⟨h.toLaysOut.vacate.occupy (by omega) r, ?_⟩, h.toLaysOut.vacate_snd⟩
  have hstays : (s.vacate.1.occupy r).full = true := by simp [occupy, vacate, hflag]
  simpa [hstays] using hfull

theorem Holds.takeOldest_nil (h : s.Holds []) : s.takeOldest = (s, none) := by
  rw [takeOldest, if_pos (h.isEmpty_iff.2 rfl)]

theorem Holds.takeOldest_cons (h : s.Holds (r :: q)) :
    s.takeOldest.1.Holds q ∧ s.takeOldest.2 = some r := by
  have hne : ¬ s.isEmpty = true := by simp [h.isEmpty_iff]
  have htake : s.takeOldest = ({ s.vacate.1 with full := false }, s.vacate.2) := by
    rw [takeOldest, if_neg hne]
  have hlen : q.length + 1 ≤ n := h.length_le
  rw [htake]
  exact ⟨⟨⟨h.vacate.length_le, h.vacate.readCursor_lt, h.vacate.writeCursor_eq,
    h.vacate.slot?_slotIndex⟩, by simp; omega⟩, h.vacate_snd⟩

/-! ### Drains -/

theorem Holds.take_drain (h : s.Holds q) (k : Nat) :
    (s.drain.take k).1.store.Holds (q.drop k) ∧ (s.drain.take k).2 = q.take k := by
  induction k generalizing s q with
  | zero => exact ⟨h, List.take_zero.symm⟩
  | succ k ih =>
    cases q with
    | nil =>
      rw [Drain.take, Drain.next, drain, h.takeOldest_nil]
      exact ⟨h, rfl⟩
    | cons r q =>
      obtain ⟨hrest, hfound⟩ := h.takeOldest_cons
      have hstep : s.drain.next = (s.takeOldest.1.drain, some r) := by
        rw [Drain.next, drain, ← hfound]
        rfl
      rw [Drain.take, hstep]
      exact ⟨(ih hrest).1, congrArg (r :: ·) (ih hrest).2⟩

theorem Holds.teardown_snd (h : s.Holds q) : s.teardown.2 = q.length := by
  change (s.drain.take n).2.length = q.length
  rw [(h.take_drain n).2, List.take_of_length_le h.length_le]

end Store

end RecordRing
