import RecordRing.Proofs.Response

/-!
# Calls that are denied the lock

A session asks for the lock only where it needs the store, and before it moves anything. So there
are two kinds of calls. One that does not ask does not notice who has the lock, and leaves the store
alone. One that asks and is denied leaves everything as it was, so it may as well not have been
made: deleted from a run, it is missed by no other call.

Ending a session is the exception. A session that is denied the lock then ends all the same, and
gives up its finished records; only the store is as it was.

Writing is where the order matters. Whether a chunk completes a record is known before it is taken
in, since the session looks ahead; had it to take the chunk in first, a denied write would leave it
there.

## Main definitions

* `Session.NeedsLock` — the calls for which a session asks for the lock
* `Response.SpeaksNotOfLock` — an answer for which it did not
* `Device.Entry.isDenied`, `Device.undenied` — calls that failed because the lock was denied, and
  the others

## Main results

* `Session.respond_of_not_needsLock` — a call that does not ask
* `Session.respond_denied`, `respond_of_reply` — a call that asks and is denied
* `Device.step_of_reply` — a denied call leaves the device as it was
* `Device.run_undenied` — denied calls may be deleted
* `Device.denial_leaves_no_trace` — all of this, of every device
-/

namespace RecordRing

variable {n : Nat}

/-! ### Calls of a session -/

/-- An answer for which the lock was not asked: the store is as it was, and nothing is said of the
lock. -/
structure Response.SpeaksNotOfLock (r : Response n) (store : Store n) : Prop where
  /-- The store is left alone. -/
  store_eq : r.store = store
  /-- The call does not fail for the lock. -/
  reply_ne : r.reply ≠ .failed (.lock .cancelled)
  /-- Nor does the log tell that it was denied. -/
  notMem_events : .lockNotAcquired .cancelled ∉ r.events

namespace Session

variable {s : Session} {store : Store n} {c : Conditions} {call : Call} {chunk : List UInt8}

/-- Whether a session asks for the lock to answer a call. What it has buffered it can give up
without, and whether it has anything buffered is read off the session alone
(`Session.hasPending`). -/
def NeedsLock (s : Session) : Call → Prop
  | .write _ chunk => chunk ≠ [] ∧ s.assembler.completesWith chunk = true
  | .flush _ | .close _ => s.assembler.hasComplete = true
  | .read _ count => 0 < count
  | .seek _ _ | .seekTo _ _ => True
  | .open _ | .abandon _ | .stats | .records | .contents | .shutdown => False

/-- A chunk that completes no record is taken in, or not, without the lock. -/
theorem respond_write_unlocked (h : ¬ (chunk ≠ [] ∧ s.assembler.completesWith chunk = true))
    (store : Store n) (memory : Allocator) (id : SessionId) :
    ∃ r : Response n, (∀ lock, s.respond store ⟨lock, memory⟩ (.write id chunk) = r) ∧
      r.SpeaksNotOfLock store := by
  by_cases hchunk : chunk.isEmpty = true
  · refine ⟨⟨some s, store, .number 0, []⟩, fun lock => ?_, rfl, by simp, by simp⟩
    rw [respond, write, if_pos hchunk]
    rfl
  · have hne : chunk ≠ [] := mt List.isEmpty_iff.2 hchunk
    have hunlocked : s.writeNeedsLock chunk = false := by
      rw [writeNeedsLock, ← Bool.not_eq_true]
      exact fun hcompletes => h ⟨hne, hcompletes⟩
    rcases hfeed : s.assembler.feed memory chunk with ⟨assembler, e | first⟩
    · refine ⟨⟨some { s with assembler }, store, .failed (.assemble e), []⟩, fun lock => ?_, rfl,
        by simp, by simp⟩
      rw [respond, write, if_neg hchunk, hunlocked]
      simp [hfeed, Outcome.response, Reply.ofResult]
    · let fed : Session := { s with assembler, position := s.position + chunk.length }
      refine ⟨⟨some fed, store, .number chunk.length,
        [.wrote chunk.length assembler.heldSize fed.position]⟩, fun lock => ?_, rfl, by simp,
        by simp⟩
      rw [respond, write, if_neg hchunk, hunlocked]
      simp [hfeed, fed, Outcome.response, Reply.ofResult]

/-- **A call that does not ask for the lock does not notice who has it**, and leaves the store
alone. -/
theorem respond_of_not_needsLock (h : ¬ s.NeedsLock call) (store : Store n) (memory : Allocator) :
    ∃ r : Response n, (∀ lock, s.respond store ⟨lock, memory⟩ call = r) ∧
      r.SpeaksNotOfLock store := by
  cases call with
  | write id chunk => exact respond_write_unlocked h store memory id
  | flush id =>
    refine ⟨⟨some s, store, .done, []⟩, fun lock => ?_, rfl, by simp, by simp⟩
    rw [respond, flush_of_not_hasComplete h]
    rfl
  | close id =>
    refine ⟨⟨none, store, .done, s.assembler.pending?.toList.map .closedUnfinished⟩, fun lock => ?_,
      rfl, by simp, by simp⟩
    rw [respond, close, flush_of_not_hasComplete h]
    rfl
  | read id count =>
    obtain rfl : count = 0 := Nat.eq_zero_of_not_pos h
    exact ⟨⟨some s, store, .bytes [], []⟩, fun lock => rfl, rfl, by simp, by simp⟩
  | seek _ _ | seekTo _ _ => exact absurd trivial h
  | abandon id =>
    exact ⟨⟨some s.abandon.1, store, .abandoned s.abandon.2, []⟩, fun lock => rfl, rfl, by simp,
      by simp⟩
  | «open» _ | stats | records | contents | shutdown =>
    exact ⟨⟨some s, store, .absent, []⟩, fun lock => rfl, rfl, by simp, by simp⟩

/-- **A call that asks for the lock and is denied it** does nothing but say so. -/
theorem respond_denied (h : s.NeedsLock call) (hclose : ∀ id, call ≠ .close id) (store : Store n)
    (memory : Allocator) : s.respond store ⟨.cancelled, memory⟩ call =
      ⟨some s, store, .failed (.lock .cancelled), [.lockNotAcquired .cancelled]⟩ := by
  cases call with
  | write id chunk =>
    obtain ⟨hne, hcompletes⟩ := h
    have hlocked : (s.writeNeedsLock chunk && Acquisition.cancelled == .cancelled) = true := by
      rw [writeNeedsLock, hcompletes]
      rfl
    rw [respond, write, if_neg (mt List.isEmpty_iff.1 hne), if_pos hlocked]
    rfl
  | flush id =>
    have hlocked : s.flushNeedsLock = true := h
    rw [respond, flush, if_pos hlocked]
    rfl
  | read id count =>
    rw [respond, read, if_neg (Nat.ne_of_gt h)]
    rfl
  | seek _ _ | seekTo _ _ => rfl
  | close id => exact absurd rfl (hclose id)
  | «open» _ | abandon _ | stats | records | contents | shutdown => exact absurd h id

/-- A session that is denied the lock at its end gives its finished records up, and says so. -/
theorem close_denied (h : s.assembler.hasComplete = true) (store : Store n) (memory : Allocator) :
    s.close store ⟨.cancelled, memory⟩ =
      (store, .lockNotAcquired .cancelled :: .closedUncommitted (.lock .cancelled) ::
        s.assembler.pending?.toList.map .closedUnfinished) := by
  have hlocked : s.flushNeedsLock = true := h
  rw [close, flush, if_pos hlocked]
  rfl

/-- **A call asks for the lock exactly where it needs it**: where it is denied, the log tells. -/
theorem mem_events_respond_iff (s : Session) (store : Store n) (memory : Allocator) (call : Call) :
    .lockNotAcquired .cancelled ∈ (s.respond store ⟨.cancelled, memory⟩ call).events ↔
      s.NeedsLock call := by
  constructor
  · intro hmem
    by_contra h
    obtain ⟨r, hr, hsilent⟩ := respond_of_not_needsLock h store memory
    rw [hr] at hmem
    exact hsilent.notMem_events hmem
  · intro h
    by_cases hclose : ∃ id, call = .close id
    · obtain ⟨id, rfl⟩ := hclose
      rw [respond, close_denied h]
      exact List.mem_cons_self
    · rw [respond_denied h fun id heq => hclose ⟨id, heq⟩]
      exact List.mem_cons_self

/-- A call that has the lock does not fail for it. -/
theorem reply_respond_granted (s : Session) (store : Store n) (memory : Allocator) (call : Call) :
    (s.respond store ⟨.granted, memory⟩ call).reply ≠ .failed (.lock .cancelled) := by
  cases call with
  | write id chunk =>
    rw [respond, write]
    split
    · simp [Outcome.response, Reply.ofResult]
    · rcases s.assembler.feed memory chunk with ⟨assembler, e | first⟩ <;>
        simp [Outcome.response, Reply.ofResult]
  | flush id =>
    rw [respond, flush]
    split
    · cases hfault : (s.commitBuffered store memory).2.2.2 <;>
        simp [Outcome.response, Reply.ofResult, hfault]
    · simp [Outcome.response, Reply.ofResult]
  | read id count =>
    rw [respond, read]
    split
    · simp [Outcome.response, Reply.ofResult]
    · cases store.locate? s.position <;> simp [Outcome.response, Reply.ofResult]
  | seek id origin =>
    rw [respond, seek]
    cases hmoved : RecordRing.seek s.position store.size origin <;>
      simp [Outcome.response, Reply.ofResult, hmoved]
  | seekTo id target =>
    rw [respond, seekTo]
    cases store.address target.record.toNat target.offset.toNat <;>
      simp [Outcome.response, Reply.ofResult]
  | close _ | abandon _ | «open» _ | stats | records | contents | shutdown => simp [respond]

/-- **A call that fails for the lock has changed nothing.** -/
theorem respond_of_reply (h : (s.respond store c call).reply = .failed (.lock .cancelled)) :
    s.respond store c call =
      ⟨some s, store, .failed (.lock .cancelled), [.lockNotAcquired .cancelled]⟩ := by
  obtain ⟨lock, memory⟩ := c
  by_cases hneeds : s.NeedsLock call
  · cases lock with
    | granted => exact absurd h (s.reply_respond_granted store memory call)
    | cancelled =>
      refine respond_denied hneeds ?_ store memory
      rintro id rfl
      exact absurd h nofun
  · obtain ⟨r, hr, hsilent⟩ := respond_of_not_needsLock hneeds store memory
    rw [hr] at h
    exact absurd h hsilent.reply_ne

/-- A session that is denied the lock at its end leaves the store alone, whether it asked or not. -/
theorem store_close_cancelled (s : Session) (store : Store n) (memory : Allocator) :
    (s.close store ⟨.cancelled, memory⟩).1 = store := by
  by_cases h : s.assembler.hasComplete = true
  · rw [close_denied h]
  · rw [close, flush_of_not_hasComplete h]

end Session

namespace Device

/-! ### Denied calls in the log -/

/-- Whether the call failed because the lock was denied. The end of a session never fails. -/
def Entry.isDenied (e : Entry) : Bool := e.reply == .failed (.lock .cancelled)

/-- The calls that did not fail because the lock was denied. -/
def undenied (log : List Entry) : List Entry := log.filter (!·.isDenied)

variable {d : Device n} {c : Conditions} {call : Call} {id : SessionId} {s : Session}

/-! ### Calls of a device -/

/-- **A call that fails for the lock leaves the device as it was**: the store and every session. -/
theorem step_of_reply (h : (d.step c call).2.1 = .failed (.lock .cancelled)) :
    (d.step c call).1 = d := by
  rcases d.step_cases c call with
    ⟨id, s, -, hs, hstep⟩ | ⟨id, -, -, hstep⟩ | ⟨token, -, hstep⟩ | ⟨-, hstep⟩ |
      ⟨-, reply, es, hstep, -⟩ <;>
    rw [hstep] at h ⊢
  · rw [Session.respond_of_reply h]
    exact congrArg (Device.mk d.config d.store) (sessions_set_self hs)
  · exact absurd h nofun
  · exact absurd h nofun

/-- A call that does not ask for the lock. -/
theorem step_of_not_needsLock (hid : call.session? = some id) (hs : d.session? id = some s)
    (h : ¬ s.NeedsLock call) (lock : Acquisition) (memory : Allocator) :
    d.step ⟨lock, memory⟩ call = d.step ⟨.granted, memory⟩ call ∧
      (d.step ⟨lock, memory⟩ call).1.store = d.store := by
  obtain ⟨r, hr, hsilent⟩ := Session.respond_of_not_needsLock h d.store memory
  rw [step_of_session hid hs, step_of_session hid hs, hr, hr]
  exact ⟨rfl, hsilent.store_eq⟩

theorem store_step_close_cancelled (d : Device n) (id : SessionId) (memory : Allocator) :
    (d.step ⟨.cancelled, memory⟩ (.close id)).1.store = d.store := by
  cases hs : d.session? id with
  | none => rw [step_of_absent rfl hs]
  | some s =>
    rw [step_of_session rfl hs]
    exact s.store_close_cancelled d.store memory

/-! ### Runs -/

/-- **Denied calls may be deleted from a run**: it leads to the same device, and answers the other
calls as before. -/
theorem run_undenied (d : Device n) (calls : List (Call × Conditions)) :
    d.run ((undenied (d.run calls).2).map Entry.request) =
      ((d.run calls).1, undenied (d.run calls).2) := by
  induction calls generalizing d with
  | nil => rfl
  | cons x calls ih =>
    obtain ⟨call, c⟩ := x
    rw [run_cons, undenied]
    by_cases hdenied : (d.entry c call).isDenied = true
    · -- the device is where it was, so the rest of the run is a run of it
      have hsame : (d.step c call).1 = d := step_of_reply (beq_iff_eq.1 hdenied)
      rw [List.filter_cons_of_neg (by simp [hdenied]), hsame]
      exact ih d
    · rw [List.filter_cons_of_pos (by simp [hdenied]), List.map_cons]
      have hrest := ih (d.step c call).1
      rw [show (d.entry c call).request = (call, c) from rfl, run_cons, ← undenied, hrest]

/-- **A denied call leaves no trace.** A session asks for the lock exactly where it needs it; a call
that does not ask is answered alike whoever has the lock, leads to the same sessions, and leaves the
store alone. A call that fails because the lock was denied leaves the store and every session as
they were. So these calls may be deleted from a run: the other calls are answered as before, and the
end is the same. The end of a session that is denied the lock is not such a call, but leaves the
store as it was, too. -/
theorem denial_leaves_no_trace (d : Device n) :
    (∀ call id s, call.session? = some id → d.session? id = some s → ∀ memory,
      (.lockNotAcquired .cancelled ∈ (d.step ⟨.cancelled, memory⟩ call).2.2 ↔ s.NeedsLock call) ∧
      (¬ s.NeedsLock call → ∀ lock,
        d.step ⟨lock, memory⟩ call = d.step ⟨.granted, memory⟩ call ∧
          (d.step ⟨lock, memory⟩ call).1.store = d.store)) ∧
    (∀ c call, (d.step c call).2.1 = .failed (.lock .cancelled) → (d.step c call).1 = d) ∧
    (∀ calls, ((undenied (d.run calls).2).map Entry.request).Sublist calls ∧
      d.run ((undenied (d.run calls).2).map Entry.request) =
        ((d.run calls).1, undenied (d.run calls).2)) ∧
    ∀ id memory, (d.step ⟨.cancelled, memory⟩ (.close id)).1.store = d.store := by
  refine ⟨?_, fun c call => step_of_reply, ?_, d.store_step_close_cancelled⟩
  · intro call id s hid hs memory
    constructor
    · rw [step_of_session hid hs]
      exact s.mem_events_respond_iff d.store memory call
    · intro h lock
      exact step_of_not_needsLock hid hs h lock memory
  · intro calls
    have hall := (List.filter_sublist (p := (!·.isDenied)) (l := (d.run calls).2)).map Entry.request
    rw [map_request_run] at hall
    exact ⟨hall, d.run_undenied calls⟩

/-- One session has a finished record left buffered. It is denied the lock for it, and ends; the
other is denied the lock for a record, and writes the beginning of one without. -/
theorem denial_leaves_no_trace_two_sessions :
    let denied : Conditions := ⟨.cancelled, .generous⟩
    let calls : List (Call × Conditions) :=
      [(.write 0 [98, 10], denied), (.write 0 [98], denied), (.flush 1, denied),
        (.read 0 2, denied), (.shutdown, denied), (.write 0 [99, 10], .clear), (.stats, denied),
        (.close 1, denied)]
    ∃ (d : Device 2) (s : Session), d.Reachable ∧ d.session? 0 = some s ∧
      s.NeedsLock (.write 0 [98, 10]) ∧
      .lockNotAcquired .cancelled ∈ (d.step denied (.write 0 [98, 10])).2.2 ∧
      ¬ s.NeedsLock (.write 0 [98]) ∧
      d.step denied (.write 0 [98]) = d.step .clear (.write 0 [98]) ∧
      (d.step denied .shutdown).2.1 = .failed (.lock .cancelled) ∧
      (d.step denied .shutdown).1 = d ∧
      (d.run [(.write 0 [98], denied), (.write 0 [99, 10], .clear), (.close 1, denied)]).1 =
        (d.run calls).1 ∧
      (d.run calls).1.store.toList.map Record.bytes = [[120, 10], [98, 99, 10]] ∧
      (d.step denied (.close 1)).1.store = d.store := by
  intro denied calls
  let d : Device 2 := ((⟨.default, .empty, []⟩ : Device 2).run [(.open ⟨0⟩, .clear),
    (.open ⟨1⟩, .clear), (.write 1 [120, 10, 121, 10, 122, 122, 10], ⟨.granted, .refusing 3⟩)]).1
  have hreachable : d.Reachable := ⟨.default, _, _, _, rfl, rfl⟩
  have hs : d.session? 0 = some (.new 10 ⟨0⟩) := rfl
  have hlocked : (Session.new 10 ⟨0⟩).NeedsLock (.write 0 [98, 10]) := ⟨by decide, by cbv⟩
  have hunlocked : ¬ (Session.new 10 ⟨0⟩).NeedsLock (.write 0 [98]) := by
    rintro ⟨-, hcompletes⟩
    revert hcompletes
    decide
  have hshutdown : (d.step denied .shutdown).2.1 = .failed (.lock .cancelled) := rfl
  have hkept : (undenied (d.run calls).2).map Entry.request =
      [(.write 0 [98], denied), (.write 0 [99, 10], .clear), (.close 1, denied)] := by
    cbv
  have hstore : (d.run calls).1.store.toList.map Record.bytes = [[120, 10], [98, 99, 10]] := by
    cbv
  obtain ⟨hasks, hsame, hrun, hclose⟩ := d.denial_leaves_no_trace
  -- nothing below is evaluated
  clear_value d
  obtain ⟨-, herased⟩ := hrun calls
  rw [hkept] at herased
  exact ⟨d, _, hreachable, hs, hlocked, (hasks _ 0 _ rfl hs .generous).1.2 hlocked, hunlocked,
    ((hasks _ 0 _ rfl hs .generous).2 hunlocked .cancelled).1, hshutdown, hsame _ _ hshutdown,
    by rw [herased], hstore, hclose 1 .generous⟩

end Device

end RecordRing
