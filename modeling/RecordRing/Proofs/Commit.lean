import RecordRing.Device.Session
import RecordRing.Proofs.Queue

/-!
# Putting records into a store

Sessions never touch the store but by putting records into it, one after the other, so all that a
call does to the store is told by the list of these records: `Store.Commits`. The store keeps the
last `n` of what was ever put in, and evicts the others in their order.

The log tells the same. Those of its events that are changes of the store (`Event.changesStore`)
are the events of these records, and no others.

## Main definitions

* `Event.changesStore` — the events that are changes of the store
* `committedBy`, `evictedBy`, `releasedBy` — the records that events put in and evict, and the bytes
  that leave a session in them
* `Store.Commits` — what a call does to the store and tells of it
* `Store.Retains` — a store that has the last `n` records of its log

## Main results

* `Store.Commits.trans` — calls one after the other
* `Store.Holds.commits` — the last `n` are kept and the others are evicted
* `Store.Retains.commits` — the same of a store and its whole log
-/

namespace RecordRing

variable {n : Nat}

/-! ### The last records of a run -/

section Last

variable {α : Type} {xs ys : List α}

theorem rdrop_append_rtake (n : Nat) (xs : List α) : xs.rdrop n ++ xs.rtake n = xs := by
  rw [List.rdrop, List.rtake, List.take_append_drop]

theorem rtake_of_length_le (h : xs.length ≤ n) : xs.rtake n = xs := by
  rw [List.rtake, Nat.sub_eq_zero_of_le h, List.drop_zero]

theorem rdrop_of_length_le (h : xs.length ≤ n) : xs.rdrop n = [] := by
  rw [List.rdrop, Nat.sub_eq_zero_of_le h, List.take_zero]

/-- What precedes `n` elements is not among the last `n`. -/
theorem rtake_append_of_le (xs : List α) (h : n ≤ ys.length) :
    (xs ++ ys).rtake n = ys.rtake n := by
  rw [List.rtake, List.rtake, List.length_append, List.drop_append,
    List.drop_eq_nil_of_le (by omega), List.nil_append,
    show xs.length + ys.length - n - xs.length = ys.length - n by omega]

theorem rdrop_append_of_le (xs : List α) (h : n ≤ ys.length) :
    (xs ++ ys).rdrop n = xs ++ ys.rdrop n := by
  rw [List.rdrop, List.rdrop, List.length_append, List.take_append,
    List.take_of_length_le (by omega),
    show xs.length + ys.length - n - xs.length = ys.length - n by omega]

/-- The last `n` of two runs are found among the last `n` of the first and the second. -/
theorem rtake_rtake_append (n : Nat) (xs ys : List α) :
    (xs.rtake n ++ ys).rtake n = (xs ++ ys).rtake n := by
  rcases Nat.le_total xs.length n with hle | hle
  · rw [rtake_of_length_le hle]
  · have hlen : n ≤ (xs.rtake n ++ ys).length := by
      rw [List.length_append, List.rtake, List.length_drop]; omega
    rw [← rtake_append_of_le (xs.rdrop n) hlen, ← List.append_assoc, rdrop_append_rtake]

/-- What is dropped of two runs is dropped in two steps. -/
theorem rdrop_append_rdrop (n : Nat) (xs ys : List α) :
    xs.rdrop n ++ (xs.rtake n ++ ys).rdrop n = (xs ++ ys).rdrop n := by
  rcases Nat.le_total xs.length n with hle | hle
  · rw [rtake_of_length_le hle, rdrop_of_length_le hle, List.nil_append]
  · have hlen : n ≤ (xs.rtake n ++ ys).length := by
      rw [List.length_append, List.rtake, List.length_drop]; omega
    rw [← rdrop_append_of_le _ hlen, ← List.append_assoc, rdrop_append_rtake]

end Last

/-- Insertion into a bounded queue keeps the last `n` and gives up the others. -/
theorem Queue.insert_eq {q : List Record} (hn : 0 < n) (h : q.length ≤ n) (r : Record) :
    (Queue.insert n q r).1 = (q ++ [r]).rtake n ∧
      (Queue.insert n q r).2.toList = (q ++ [r]).rdrop n := by
  rw [Queue.insert]
  split
  · next hfull =>
    cases q with
    | nil => exact absurd hfull (Nat.ne_of_lt hn)
    | cons oldest q =>
      have hlen : (oldest :: q ++ [r]).length - n = 1 := by
        rw [List.length_append, hfull, List.length_singleton]; omega
      rw [List.rtake, List.rdrop, hlen]
      exact ⟨rfl, rfl⟩
  · next hfull =>
    have hlen : (q ++ [r]).length ≤ n := by
      rw [List.length_append, List.length_singleton]; omega
    rw [rtake_of_length_le hlen, rdrop_of_length_le hlen]
    exact ⟨rfl, rfl⟩

/-! ### Events -/

namespace Event

/-- The event is a change of the store. -/
def changesStore : Event → Bool
  | .evicted _ | .committed _ _ | .tornDown _ => true
  | _ => false

/-- The bytes that leave a session in this event: those of a record put in, or those that were given
up at the end. -/
def released : Event → List UInt8
  | .committed r _ => r.bytes
  | .closedUnfinished bs => bs
  | _ => []

/-- The record put in. -/
def committed? : Event → Option Record
  | .committed r _ => some r
  | _ => none

/-- The record evicted. -/
def evicted? : Event → Option Record
  | .evicted r => some r
  | _ => none

end Event

/-- The records that were put in, in their order. -/
def committedBy (events : List Event) : List Record := events.filterMap Event.committed?

/-- The records that were evicted, in their order. -/
def evictedBy (events : List Event) : List Record := events.filterMap Event.evicted?

/-- The bytes that left a session, in their order. -/
def releasedBy (events : List Event) : List UInt8 := events.flatMap Event.released

@[simp] theorem committedBy_append (es es' : List Event) :
    committedBy (es ++ es') = committedBy es ++ committedBy es' := List.filterMap_append

@[simp] theorem evictedBy_append (es es' : List Event) :
    evictedBy (es ++ es') = evictedBy es ++ evictedBy es' := List.filterMap_append

@[simp] theorem releasedBy_append (es es' : List Event) :
    releasedBy (es ++ es') = releasedBy es ++ releasedBy es' := List.flatMap_append

/-! Events that are no change of the store may be left out. -/

theorem committedBy_filter (es : List Event) :
    committedBy (es.filter Event.changesStore) = committedBy es := by
  rw [committedBy, List.filterMap_filter, committedBy]
  exact List.filterMap_congr fun e _ => by cases e <;> rfl

theorem evictedBy_filter (es : List Event) :
    evictedBy (es.filter Event.changesStore) = evictedBy es := by
  rw [evictedBy, List.filterMap_filter, evictedBy]
  exact List.filterMap_congr fun e _ => by cases e <;> rfl

/-! ### What a call does to the store -/

namespace Store

/-- The records `rs` are put into `s`, which leads to `s'` and is told by `events`. -/
structure Commits (s : Store n) (rs : List Record) (s' : Store n) (events : List Event) : Prop where
  /-- The store has them. -/
  store_eq : s' = (s.commitAll rs).1
  /-- The log tells of them, and of no other change. -/
  filter_events : events.filter Event.changesStore = (s.commitAll rs).2

theorem commitAll_cons (s : Store n) (r : Record) (rs : List Record) :
    s.commitAll (r :: rs) =
      (((s.commit r).1.commitAll rs).1, (s.commit r).2 ++ ((s.commit r).1.commitAll rs).2) := rfl

theorem commitAll_append (s : Store n) (rs rs' : List Record) :
    s.commitAll (rs ++ rs') =
      (((s.commitAll rs).1.commitAll rs').1,
        (s.commitAll rs).2 ++ ((s.commitAll rs).1.commitAll rs').2) := by
  induction rs generalizing s with
  | nil => rfl
  | cons r rs ih => simp only [List.cons_append, commitAll_cons, ih, List.append_assoc]

theorem commit_events (s : Store n) (r : Record) :
    (s.commit r).2 = (s.insert r).2.toList.map Event.evicted ++
      [.committed r (s.insert r).1.length] := rfl

theorem filter_events_commitAll (s : Store n) (rs : List Record) :
    (s.commitAll rs).2.filter Event.changesStore = (s.commitAll rs).2 := by
  induction rs generalizing s with
  | nil => rfl
  | cons r rs ih =>
    rw [commitAll_cons, List.filter_append, ih, commit_events]
    cases (s.insert r).2 <;> rfl

theorem committedBy_commitAll (s : Store n) (rs : List Record) :
    committedBy (s.commitAll rs).2 = rs := by
  induction rs generalizing s with
  | nil => rfl
  | cons r rs ih =>
    rw [commitAll_cons, committedBy_append, ih, commit_events]
    cases (s.insert r).2 <;> rfl

theorem releasedBy_commitAll (s : Store n) (rs : List Record) :
    releasedBy (s.commitAll rs).2 = concat rs := by
  induction rs generalizing s with
  | nil => rfl
  | cons r rs ih =>
    rw [commitAll_cons, releasedBy_append, ih, commit_events, concat_cons]
    cases (s.insert r).2 <;> simp [releasedBy, Event.released]

theorem evictedBy_commit (s : Store n) (r : Record) :
    evictedBy (s.commit r).2 = (s.insert r).2.toList := by
  rw [commit_events]
  cases (s.insert r).2 <;> rfl

/-- **The store keeps the last `n` records and evicts the others in their order.** -/
theorem Holds.commitAll {s : Store n} {q : List Record} (h : s.Holds q) (rs : List Record) :
    (s.commitAll rs).1.Holds ((q ++ rs).rtake n) ∧
      evictedBy (s.commitAll rs).2 = (q ++ rs).rdrop n := by
  have hn : 0 < n := Nat.zero_lt_of_lt h.readCursor_lt
  induction rs generalizing s q with
  | nil =>
    rw [List.append_nil, rtake_of_length_le h.length_le, rdrop_of_length_le h.length_le]
    exact ⟨h, rfl⟩
  | cons r rs ih =>
    obtain ⟨hkept, hevicted⟩ := Queue.insert_eq hn h.length_le r
    have hfirst : (s.commit r).1.Holds ((q ++ [r]).rtake n) := hkept ▸ (h.insert r).1
    have hgiven : evictedBy (s.commit r).2 = (q ++ [r]).rdrop n := by
      rw [evictedBy_commit, (h.insert r).2, hevicted]
    obtain ⟨hrest, hrestEvicted⟩ := ih hfirst
    rw [commitAll_cons, evictedBy_append, hgiven, hrestEvicted, rdrop_append_rdrop,
      List.append_cons]
    exact ⟨rtake_rtake_append n _ rs ▸ hrest, rfl⟩

variable {s s' s'' : Store n} {rs rs' : List Record} {es es' : List Event}

theorem Commits.refl (s : Store n) (hes : es.filter Event.changesStore = []) :
    s.Commits [] s es where
  store_eq := rfl
  filter_events := hes

theorem commits_commitAll (s : Store n) (rs : List Record) :
    s.Commits rs (s.commitAll rs).1 (s.commitAll rs).2 where
  store_eq := rfl
  filter_events := filter_events_commitAll s rs

/-- **Calls one after the other put their records in one after the other.** -/
theorem Commits.trans (h : s.Commits rs s' es) (h' : s'.Commits rs' s'' es') :
    s.Commits (rs ++ rs') s'' (es ++ es') where
  store_eq := by rw [commitAll_append, h'.store_eq, h.store_eq]
  filter_events := by
    rw [commitAll_append, List.filter_append, h.filter_events, h'.filter_events, h.store_eq]

theorem Commits.committedBy_eq (h : s.Commits rs s' es) : committedBy es = rs := by
  rw [← committedBy_filter, h.filter_events, committedBy_commitAll]

theorem Holds.commits {q : List Record} (hq : s.Holds q) (h : s.Commits rs s' es) :
    s'.Holds ((q ++ rs).rtake n) ∧ evictedBy es = (q ++ rs).rdrop n := by
  rw [← evictedBy_filter, h.filter_events, h.store_eq]
  exact hq.commitAll rs

/-! ### A store and its whole log -/

/-- Of the records that `events` put in, `s` has the last `n`, and the others were evicted. -/
structure Retains (s : Store n) (events : List Event) : Prop where
  /-- The last `n` are there. -/
  holds : s.Holds ((committedBy events).rtake n)
  /-- The others were evicted, in their order. -/
  evictedBy_eq : evictedBy events = (committedBy events).rdrop n

theorem retains_empty (hn : 0 < n) : (empty : Store n).Retains [] where
  holds := by
    rw [show (committedBy []).rtake n = [] from rtake_of_length_le (Nat.zero_le n)]
    exact holds_empty hn
  evictedBy_eq := (rdrop_of_length_le (Nat.zero_le n)).symm

theorem Retains.commits (h : s.Retains es) (hc : s.Commits rs s' es') : s'.Retains (es ++ es') := by
  obtain ⟨hholds, hevicted⟩ := h.holds.commits hc
  have hall : committedBy (es ++ es') = committedBy es ++ rs := by
    rw [committedBy_append, hc.committedBy_eq]
  refine ⟨?_, ?_⟩
  · rw [hall, ← rtake_rtake_append]
    exact hholds
  · rw [hall, evictedBy_append, h.evictedBy_eq, hevicted, rdrop_append_rdrop]

end Store

end RecordRing
