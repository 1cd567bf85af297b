import RecordRing.Proofs.Ring

/-!
# A store is a bounded queue

What callers see of a store is a queue of at most `n` records: a list that gives up its head when a
record too many is put in. Nothing of the ring shows, neither where the cursors are nor how often
they have gone around.

## The two sides

`StoreCall.run` runs a list of calls against anything that answers calls. `Store.answer` answers
them with the ring, `Queue.answer` with a list. They are compared at the answers and at everything
that can be observed afterwards (`Store.Shows`); since every initial part of a run is a run, the
comparison holds after each call.

## Main definitions

* `Queue.insert`, `Queue.answer` — the bounded queue
* `StoreCall`, `StoreReply`, `StoreCall.run`, `Store.answer` — runs of calls
* `Store.Shows` — all that is observed of a store

## Main results

* `Store.Holds.insert` — insertion into the ring is insertion into the queue
* `StoreCall.run_simulates` — what one call preserves, a run preserves
* `Store.run_eq_queue` — a store answers and shows what the queue does
-/

namespace RecordRing

variable {n : Nat}

/-! ### The queue -/

/-- Put `r` behind `q`. A queue of `n` records gives up its head, which is returned. -/
def Queue.insert (n : Nat) (q : List Record) (r : Record) : List Record × Option Record :=
  if q.length = n then (q.tail ++ [r], q.head?) else (q ++ [r], none)

/-- What is given up and what is kept are, in this order, what there was. -/
theorem Queue.insert_append {n : Nat} (hn : 0 < n) (q : List Record) (r : Record) :
    (Queue.insert n q r).2.toList ++ (Queue.insert n q r).1 = q ++ [r] := by
  rw [Queue.insert]
  split
  · next hfull =>
    cases q with
    | nil => exact absurd hfull (Nat.ne_of_lt hn)
    | cons oldest q => rfl
  · rfl

/-- **Insertion into the ring is insertion into the queue.** -/
theorem Store.Holds.insert {s : Store n} {q : List Record} (h : s.Holds q) (r : Record) :
    (s.insert r).1.Holds (Queue.insert n q r).1 ∧ (s.insert r).2 = (Queue.insert n q r).2 := by
  rw [Queue.insert]
  split
  · next hfull =>
    cases q with
    | nil => exact absurd hfull (Nat.ne_of_lt (Nat.zero_lt_of_lt h.readCursor_lt))
    | cons oldest q => exact h.insert_of_full hfull r
  · next hfull => exact h.insert_of_lt (Nat.lt_of_le_of_ne h.length_le hfull) r

/-! ### Runs -/

/-- A call of a store. -/
inductive StoreCall where
  /-- Put a record in. -/
  | insert (record : Record)
  /-- Forget every record. -/
  | clear
  /-- Take every record out and count them. -/
  | teardown
  /-- Take up to `count` records out, and end the drain. -/
  | drain (count : Nat)
deriving DecidableEq, Repr

/-- The answer to a call of a store. -/
inductive StoreReply where
  /-- The record that was given up, if one was. -/
  | inserted (evicted : Option Record)
  /-- It is done. -/
  | cleared
  /-- So many records were taken out. -/
  | released (count : Nat)
  /-- These records were taken out. -/
  | drained (records : List Record)
deriving DecidableEq, Repr

/-- The record that an insertion gave up. -/
def StoreReply.evicted? : StoreReply → Option Record
  | .inserted evicted => evicted
  | _ => none

/-- One call of a store. -/
def Store.answer (s : Store n) : StoreCall → Store n × StoreReply
  | .insert r =>
    let (s, evicted) := s.insert r
    (s, .inserted evicted)
  | .clear => (s.clear, .cleared)
  | .teardown =>
    let (s, count) := s.teardown
    (s, .released count)
  | .drain count =>
    let (d, rs) := s.drain.take count
    (d.close, .drained rs)

/-- The same call of a queue. -/
def Queue.answer (n : Nat) (q : List Record) : StoreCall → List Record × StoreReply
  | .insert r =>
    let (q, evicted) := Queue.insert n q r
    (q, .inserted evicted)
  | .clear => ([], .cleared)
  | .teardown => ([], .released q.length)
  | .drain count => ([], .drained (q.take count))

namespace StoreCall

variable {σ τ : Type}

/-- Calls one after the other, with their answers. -/
def run (answer : σ → StoreCall → σ × StoreReply) (s : σ) : List StoreCall → σ × List StoreReply
  | [] => (s, [])
  | call :: calls =>
    let (s, reply) := answer s call
    let (s, replies) := run answer s calls
    (s, reply :: replies)

/-- What every call preserves, and answers alike, every run does. -/
theorem run_simulates {answer : σ → StoreCall → σ × StoreReply}
    {answer' : τ → StoreCall → τ × StoreReply} {R : σ → τ → Prop}
    (hstep : ∀ s q call, R s q →
      R (answer s call).1 (answer' q call).1 ∧ (answer s call).2 = (answer' q call).2)
    {s : σ} {q : τ} (h : R s q) (calls : List StoreCall) :
    R (run answer s calls).1 (run answer' q calls).1 ∧
      (run answer s calls).2 = (run answer' q calls).2 := by
  induction calls generalizing s q with
  | nil => exact ⟨h, rfl⟩
  | cons call calls ih =>
    obtain ⟨hnext, hreply⟩ := hstep s q call h
    obtain ⟨hend, hreplies⟩ := ih hnext
    exact ⟨hend, congrArg₂ List.cons hreply hreplies⟩

end StoreCall

theorem Store.Holds.answer {s : Store n} {q : List Record} (h : s.Holds q) (call : StoreCall) :
    (s.answer call).1.Holds (Queue.answer n q call).1 ∧
      (s.answer call).2 = (Queue.answer n q call).2 := by
  have hn : 0 < n := Nat.zero_lt_of_lt h.readCursor_lt
  cases call with
  | insert r => exact ⟨(h.insert r).1, congrArg StoreReply.inserted (h.insert r).2⟩
  | clear =>
    simp only [Store.answer, Queue.answer, Store.clear_eq_empty, and_true]
    exact Store.holds_empty hn
  | teardown =>
    simp only [Store.answer, Queue.answer, Store.teardown_fst, h.teardown_snd, and_true]
    exact Store.holds_empty hn
  | drain count =>
    simp only [Store.answer, Queue.answer, Drain.close_eq_empty, (h.take_drain count).2, and_true]
    exact Store.holds_empty hn

/-! ### What callers see -/

/-- All that is observed of a store is what the list `q` says. -/
structure Store.Shows (s : Store n) (q : List Record) : Prop where
  /-- The number of records. -/
  length : s.length = q.length
  /-- Whether there is none. -/
  isEmpty : s.isEmpty = true ↔ q = []
  /-- Whether there are `n`. -/
  isFull : s.isFull = true ↔ q.length = n
  /-- The record at each place, and nothing behind the last. -/
  get? : ∀ i, s.get? i = q[i]?
  /-- What a walk of any length reads. -/
  walk : ∀ k, (s.walk.take k).2 = q.take k
  /-- What a walk to the end reads. -/
  toList : s.toList = q
  /-- The number of bytes. -/
  size : s.size = (q.map Record.size).sum

theorem totalSize_eq_sum (rs : List Record) : totalSize rs = (rs.map Record.size).sum := by
  induction rs with
  | nil => rfl
  | cons r rs ih => rw [totalSize_cons, List.map_cons, List.sum_cons, ih]

theorem Store.Holds.shows {s : Store n} {q : List Record} (h : s.Holds q) : s.Shows q where
  length := h.length_eq
  isEmpty := h.isEmpty_iff
  isFull := h.isFull_iff
  get? := h.get?_eq
  walk := h.take_walk
  toList := h.toList_eq
  size := by rw [Store.size, h.toList_eq, totalSize_eq_sum]

/-- Insertions alone divide what was put in: first what was given up, then what is kept. -/
theorem Queue.run_insert {n : Nat} (hn : 0 < n) (rs q : List Record) :
    (StoreCall.run (Queue.answer n) q (rs.map .insert)).2.filterMap StoreReply.evicted?
        ++ (StoreCall.run (Queue.answer n) q (rs.map .insert)).1
      = q ++ rs := by
  induction rs generalizing q with
  | nil => exact (List.append_nil q).symm
  | cons r rs ih =>
    have hfirst := Queue.insert_append hn q r
    have hrest := ih (Queue.insert n q r).1
    have hreply (evicted : Option Record) (replies : List StoreReply) :
        (StoreReply.inserted evicted :: replies).filterMap StoreReply.evicted?
          = evicted.toList ++ replies.filterMap StoreReply.evicted? := by
      cases evicted <;> rfl
    simp only [List.map_cons, StoreCall.run, Queue.answer, hreply]
    rw [List.append_assoc, hrest, ← List.append_assoc, hfirst, List.append_assoc,
      List.singleton_append]

/-- **A store answers and shows what a bounded queue does**, after any calls. After insertions
alone, the records that were given up and those that are kept are all that were put in, in their
order. -/
theorem Store.run_eq_queue (hn : 0 < n) :
    (∀ calls : List StoreCall,
      (StoreCall.run Store.answer (empty : Store n) calls).2
          = (StoreCall.run (Queue.answer n) [] calls).2 ∧
        (StoreCall.run Store.answer (empty : Store n) calls).1.Shows
          (StoreCall.run (Queue.answer n) [] calls).1) ∧
    ∀ rs : List Record,
      (StoreCall.run Store.answer (empty : Store n) (rs.map .insert)).2.filterMap
          StoreReply.evicted?
        ++ (StoreCall.run Store.answer (empty : Store n) (rs.map .insert)).1.toList = rs := by
  have hsim := StoreCall.run_simulates
    (fun (s : Store n) q call (h : s.Holds q) => h.answer call) (holds_empty hn)
  refine ⟨fun calls => ⟨(hsim calls).2, (hsim calls).1.shows⟩, fun rs => ?_⟩
  rw [(hsim _).1.toList_eq, (hsim _).2, Queue.run_insert hn]
  rfl

/-- A ring of two that goes around, is drained halfway, and is used again. -/
theorem Store.run_eq_queue_two :
    0 < 2 ∧
      (StoreCall.run Store.answer (empty : Store 2)
        [.insert (.ofList [1]), .insert (.ofList [2]), .insert (.ofList [3]), .drain 1,
          .insert (.ofList [4]), .teardown]).2
      = [.inserted none, .inserted none, .inserted (some (.ofList [1])), .drained [.ofList [2]],
          .inserted none, .released 1] :=
  ⟨by decide, ((Store.run_eq_queue (by decide)).1 _).1.trans rfl⟩

end RecordRing
