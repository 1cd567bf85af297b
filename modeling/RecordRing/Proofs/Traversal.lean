import Mathlib.Data.List.ReduceOption
import RecordRing.Proofs.Addressing

/-!
# Walks and drains say exactly what is to come

A walk counts up to a length that it was given when it began, and passes over vacant slots; a drain
has no count, but asks the store that it empties. What either says of the records still to come is
exact only if no slot in front of it is vacant. It is: a walk and a drain are both nothing but a
list of records of which each step takes the head, and the list is as long as they say.

## One step, and all that follow

`Iteration next sizeHint Expects` says this of any iterator: in a state that expects `rs`, it
reports the length of `rs`, answers with the head, and expects the tail then. All that is said of
walks and drains after any number of steps follows from it (`Iteration.exactAfter`), also after
they have come to the end, where a step finds nothing and changes nothing that is expected.

## Which stores

A drain that is never ended leaves the store as far as it was emptied, and whoever has the store may
go on with it. `Store.Arises` admits such stores beside those that runs of calls lead to: full ones,
those that have gone around, and those that were emptied in part.

## Main definitions

* `nexts` — steps of an iterator, taken also after its end
* `ExactAfter` — what an iterator says and does after so many steps
* `Store.Arises` — the stores that there are
* `Store.StartsAnew` — what is said of a new store

## Main results

* `Iteration.exactAfter` — what one step preserves makes every step exact
* `Walk.iteration`, `Drain.iteration` — walks and drains do so
* `Store.traversals_exact` — walks and drains of a store, and the store after they were ended
-/

namespace RecordRing

variable {n : Nat} {σ : Type}

/-! ### Iterators -/

/-- The state after `k` steps, and what each of them found. An iterator is asked again also when it
has found nothing. -/
def nexts (next : σ → σ × Option Record) : Nat → σ → σ × List (Option Record)
  | 0, i => (i, [])
  | k + 1, i =>
    let (i, found) := next i
    let (i, rest) := nexts next k i
    (i, found :: rest)

/-- What an iterator that began with the records `rs` says and does when `k` steps were taken. -/
structure ExactAfter (next : σ → σ × Option Record) (sizeHint : σ → Nat × Option Nat)
    (rs : List Record) (start : σ) (k : Nat) : Prop where
  /-- As many records are said to come as were not taken yet. -/
  sizeHint_eq : sizeHint (nexts next k start).1 = (rs.length - k, some (rs.length - k))
  /-- The steps that follow find these in their order, each step one of them. -/
  found_eq : ∀ j, (nexts next j (nexts next k start).1).2.reduceOption = (rs.drop k).take j
  /-- Steps enough for all of them find as many as are said to come. -/
  count_eq : ∀ j, rs.length ≤ k + j →
    (nexts next j (nexts next k start).1).2.reduceOption.length
      = (sizeHint (nexts next k start).1).1
  /-- Behind the last of them nothing is found any more. -/
  ended : rs.length ≤ k →
    ∀ j, (nexts next j (nexts next k start).1).2 = List.replicate j none

/-- `Expects i rs` means of a state `i` that the records `rs` are still to come: it says how many
they are, and a step finds the first of them and leaves the others. -/
structure Iteration (next : σ → σ × Option Record) (sizeHint : σ → Nat × Option Nat)
    (Expects : σ → List Record → Prop) : Prop where
  /-- The length is reported. -/
  sizeHint_eq : ∀ i rs, Expects i rs → sizeHint i = (rs.length, some rs.length)
  /-- The head is found. -/
  found_eq : ∀ i rs, Expects i rs → (next i).2 = rs.head?
  /-- The tail is left. -/
  expects_next : ∀ i rs, Expects i rs → Expects (next i).1 rs.tail

namespace Iteration

variable {next : σ → σ × Option Record} {sizeHint : σ → Nat × Option Nat}
  {Expects : σ → List Record → Prop} {i : σ} {rs : List Record}

theorem expects_nexts (h : Iteration next sizeHint Expects) (hi : Expects i rs) (k : Nat) :
    Expects (nexts next k i).1 (rs.drop k) := by
  induction k generalizing i rs with
  | zero => exact hi
  | succ k ih =>
    have hrest : Expects (nexts next k (next i).1).1 (rs.tail.drop k) :=
      ih (h.expects_next i rs hi)
    rwa [List.drop_tail] at hrest

theorem found_nexts (h : Iteration next sizeHint Expects) (hi : Expects i rs) (k : Nat) :
    (nexts next k i).2.reduceOption = rs.take k := by
  induction k generalizing i rs with
  | zero => rfl
  | succ k ih =>
    have hrest : (nexts next k (next i).1).2.reduceOption = rs.tail.take k :=
      ih (h.expects_next i rs hi)
    change ((next i).2 :: (nexts next k (next i).1).2).reduceOption = rs.take (k + 1)
    rw [h.found_eq i rs hi]
    cases rs with
    | nil => rw [List.head?_nil, List.reduceOption_cons_of_none, hrest]; simp
    | cons r rs => rw [List.head?_cons, List.reduceOption_cons_of_some, hrest]; rfl

/-- Where nothing is expected, nothing is found. -/
theorem nexts_of_nil (h : Iteration next sizeHint Expects) (hi : Expects i []) (k : Nat) :
    (nexts next k i).2 = List.replicate k none := by
  induction k generalizing i with
  | zero => rfl
  | succ k ih =>
    rw [List.replicate_succ, ← ih (h.expects_next i [] hi), ← List.head?_nil, ← h.found_eq i [] hi]
    rfl

/-- **What one step preserves makes every step exact.** -/
theorem exactAfter (h : Iteration next sizeHint Expects) (hi : Expects i rs) (k : Nat) :
    ExactAfter next sizeHint rs i k := by
  have hleft : Expects (nexts next k i).1 (rs.drop k) := h.expects_nexts hi k
  have hhint : sizeHint (nexts next k i).1 = (rs.length - k, some (rs.length - k)) := by
    rw [h.sizeHint_eq _ _ hleft, List.length_drop]
  refine ⟨hhint, h.found_nexts hleft, fun j hj => ?_, fun hk j => ?_⟩
  · rw [h.found_nexts hleft, hhint, List.length_take, List.length_drop]
    omega
  · rw [List.drop_of_length_le hk] at hleft
    exact h.nexts_of_nil hleft j

end Iteration

/-! ### Walks -/

namespace Walk

/-- A walk of the records `q`, of which the last ones `rs` are still to come. -/
structure Expects (q : List Record) (w : Walk n) (rs : List Record) : Prop where
  /-- The store that is read holds the records. -/
  holds : w.store.Holds q
  /-- The walk ends behind the last of them. -/
  length_eq : w.length = q.length
  /-- It has not gone further. -/
  ordinal_le : w.ordinal ≤ q.length
  /-- The records that it has not passed are to come. -/
  rest_eq : rs = q.drop w.ordinal

theorem iteration (q : List Record) :
    Iteration (next : Walk n → _) sizeHint (Expects q) where
  sizeHint_eq := by
    rintro w _ ⟨-, hlength, -, rfl⟩
    rw [sizeHint, remaining, hlength, List.length_drop]
  found_eq := by
    rintro ⟨s, k, _⟩ _ ⟨h, rfl, hk, rfl⟩
    rw [h.next_walk hk, List.head?_drop]
  expects_next := by
    rintro ⟨s, k, _⟩ _ ⟨h, rfl, hk, rfl⟩
    rw [h.next_walk hk, List.tail_drop]
    refine ⟨h, rfl, Nat.min_le_right _ _, ?_⟩
    rcases Nat.lt_or_eq_of_le hk with hlt | rfl
    · rw [Nat.min_eq_left hlt]
    · rw [Nat.min_eq_right (Nat.le_succ _), List.drop_length,
        List.drop_of_length_le (Nat.le_succ _)]

end Walk

/-! ### Drains -/

/-- The records that a drain has left in the store are to come. -/
theorem Drain.iteration :
    Iteration (next : Drain n → _) sizeHint fun d rs => d.store.Holds rs where
  sizeHint_eq d rs h := by
    rw [sizeHint, remaining, h.length_eq]
  found_eq d rs h := by
    cases rs with
    | nil => rw [next, h.takeOldest_nil, List.head?_nil]
    | cons r rs => exact h.takeOldest_cons.2
  expects_next d rs h := by
    cases rs with
    | nil =>
      rw [next, h.takeOldest_nil]
      exact h
    | cons r rs => exact h.takeOldest_cons.1

namespace Store

variable {s : Store n} {q : List Record}

theorem Holds.expects_walk (h : s.Holds q) : s.walk.Expects q q where
  holds := h
  length_eq := h.length_eq
  ordinal_le := Nat.zero_le _
  rest_eq := rfl

/-! ### The stores that there are -/

/-- Calls, and drains that were never ended, lead to `s`. -/
inductive Arises : Store n → Prop where
  /-- A new store. -/
  | empty : Arises empty
  /-- What a call leaves. -/
  | answer {s : Store n} (h : s.Arises) (call : StoreCall) : Arises (s.answer call).1
  /-- What a drain leaves that took so many steps and was never ended. -/
  | abandoned {s : Store n} (h : s.Arises) (k : Nat) : Arises (nexts Drain.next k s.drain).1.store

theorem Arises.holds (hn : 0 < n) (h : s.Arises) : ∃ q, s.Holds q := by
  induction h with
  | empty => exact ⟨[], holds_empty hn⟩
  | answer _ call ih =>
    obtain ⟨q, hq⟩ := ih
    exact ⟨_, (hq.answer call).1⟩
  | abandoned _ k ih =>
    obtain ⟨q, hq⟩ := ih
    exact ⟨_, Drain.iteration.expects_nexts hq k⟩

/-- The stores of runs of calls are among them. -/
theorem Reachable.arises (h : s.Reachable) : s.Arises := by
  obtain ⟨calls, rfl⟩ := h
  have hrun : ∀ {s : Store n}, s.Arises → (StoreCall.run Store.answer s calls).1.Arises := by
    induction calls with
    | nil => exact id
    | cons call calls ih => exact fun h => ih (h.answer call)
  exact hrun .empty

/-! ### Beginning anew -/

/-- `s` is a new store, and nothing tells it from one. -/
structure StartsAnew (s : Store n) : Prop where
  /-- Every slot is vacant. -/
  slot?_eq : ∀ i, s.slot? i = none
  /-- Records are put in at slot zero. -/
  writeCursor_eq : s.writeCursor = 0
  /-- Records are taken out at slot zero. -/
  readCursor_eq : s.readCursor = 0
  /-- The flag is not set. -/
  full_eq : s.full = false
  /-- The store is what a new one is. -/
  eq_empty : s = empty
  /-- Calls have the answers, and lead to the stores, that they do from a new one. -/
  run_eq : ∀ calls, StoreCall.run Store.answer s calls = StoreCall.run Store.answer empty calls

theorem startsAnew_empty : (empty : Store n).StartsAnew :=
  ⟨slot?_empty, rfl, rfl, rfl, rfl, fun _ => rfl⟩

/-- **Walks and drains say exactly what is to come**, at every step and behind the last one, and
neither the ordinals that a walk subtracts nor the cursors that a drain does are ever the wrong way
around. A drain that is ended, after however many steps, leaves a new store, and so it is when
every record is taken out or forgotten. -/
theorem traversals_exact (hn : 0 < n) (hs : s.Arises) :
    s.toList.length = s.length ∧
    (∀ k, ExactAfter Walk.next Walk.sizeHint s.toList s.walk k ∧
      (nexts Walk.next k s.walk).1.ordinal ≤ (nexts Walk.next k s.walk).1.length) ∧
    (∀ k, ExactAfter Drain.next Drain.sizeHint s.toList s.drain k ∧
      (nexts Drain.next k s.drain).1.store.readCursor
        ≤ (nexts Drain.next k s.drain).1.store.writeCursor + n ∧
      (nexts Drain.next k s.drain).1.close.StartsAnew) ∧
    s.teardown.1.StartsAnew ∧ s.clear.StartsAnew := by
  obtain ⟨q, hq⟩ := hs.holds hn
  rw [hq.toList_eq, teardown_fst, clear_eq_empty]
  refine ⟨hq.length_eq.symm, fun k => ⟨?_, ?_⟩, fun k => ⟨?_, ?_, ?_⟩, startsAnew_empty,
    startsAnew_empty⟩
  · exact (Walk.iteration q).exactAfter hq.expects_walk k
  · have hw := (Walk.iteration q).expects_nexts hq.expects_walk k
    rw [hw.length_eq]
    exact hw.ordinal_le
  · exact Drain.iteration.exactAfter hq k
  · have hd := Drain.iteration.expects_nexts (i := s.drain) hq k
    exact Nat.le_trans (Nat.le_of_lt hd.readCursor_lt) (Nat.le_add_left _ _)
  · rw [Drain.close_eq_empty]
    exact startsAnew_empty

/-- A ring of three that has gone around and was full, when a drain took one record and was never
ended. A walk of it says after one step that one record is to come, and a drain that took both
finds nothing more; when this one is ended the store is new. -/
theorem traversals_exact_abandoned :
    let calls : List StoreCall := [.insert (.ofList [97]), .insert (.ofList [98]),
      .insert (.ofList [99]), .insert (.ofList [100])]
    let wrapped : Store 3 := (StoreCall.run Store.answer empty calls).1
    ∃ s : Store 3, 0 < 3 ∧ s = (nexts Drain.next 1 wrapped.drain).1.store ∧ s.Arises ∧
      wrapped.full = true ∧ s.toList = [.ofList [99], .ofList [100]] ∧
      (nexts Walk.next 1 s.walk).1.sizeHint = (1, some 1) ∧
      (nexts Drain.next 3 s.drain).1.sizeHint = (0, some 0) ∧
      (nexts Drain.next 4 (nexts Drain.next 2 s.drain).1).2 = [none, none, none, none] ∧
      (nexts Drain.next 1 s.drain).1.close.StartsAnew := by
  intro calls wrapped
  let s : Store 3 := (nexts Drain.next 1 wrapped.drain).1.store
  have hwrapped : wrapped.Arises := Reachable.arises ⟨calls, rfl⟩
  have hs : s.Arises := hwrapped.abandoned 1
  have hfull : wrapped.full = true := by cbv
  have hrs : s.toList = [.ofList [99], .ofList [100]] := by cbv
  obtain ⟨-, hwalk, hdrain, -, -⟩ := traversals_exact (by decide) hs
  rw [hrs] at hwalk hdrain
  exact ⟨s, by decide, rfl, hs, hfull, hrs, (hwalk 1).1.sizeHint_eq, (hdrain 3).1.sizeHint_eq,
    (hdrain 2).1.ended (by decide) 4, (hdrain 1).2.2⟩

end Store

end RecordRing
