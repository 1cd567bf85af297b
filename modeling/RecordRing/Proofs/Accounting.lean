import RecordRing.Proofs.Response

/-!
# Where the bytes of a run are

Any number of sessions write to one store, in any order, and every call may be denied the lock or
refused memory. This file says where the bytes are that a run took in.

Each byte that a session took in is in a record that the session put into the store, or was given up
by it, or is still in its buffer; and read in the order in which they left, these are the bytes of
the accepted chunks in their order. The store has the last records that sessions put in since it was
emptied last, and the others were evicted.

The first is shown call by call for one session, whose bytes no call of another moves. The second is
about the end of a log, and is shown by adding a call at the end.

## Main definitions

* `Device.accepted`, `Device.released`, `Device.held` — the bytes that a session took in, those that
  left it, and those that it holds
* `Device.sinceShutdown` — the end of a log, from the last time the store was emptied

## Main results

* `Device.Valid.run_bytes` — the bytes of one session
* `Device.Valid.run_retains` — the records of the store
* `Device.run_conserves` — both
-/

namespace RecordRing

variable {n : Nat}

namespace Device

/-! ### What a log says -/

/-- The entries of one session. -/
def entriesOf (id : SessionId) (log : List Entry) : List Entry :=
  log.filter fun e => e.call.session? == some id

/-- The bytes that a session took in. -/
def accepted (id : SessionId) (log : List Entry) : List UInt8 :=
  (entriesOf id log).flatMap Entry.accepted

/-- The bytes that left a session: in a record put into the store, or given up. -/
def released (id : SessionId) (log : List Entry) : List UInt8 :=
  (entriesOf id log).flatMap Entry.released

/-- The bytes that a session holds. -/
def held (d : Device n) (id : SessionId) : List UInt8 := heldBy (d.session? id)

/-- Everything that happened. -/
def events (log : List Entry) : List Event := log.flatMap Entry.events

/-- The call emptied the store. -/
def Entry.isShutdown : Entry → Bool
  | ⟨.shutdown, _, .number _, _⟩ => true
  | _ => false

/-- What came after the store was emptied last. -/
def sinceShutdown (log : List Entry) : List Entry := log.rtakeWhile fun e => !e.isShutdown

variable {d : Device n} {id : SessionId} {e : Entry} {log : List Entry}

theorem entriesOf_cons_of_eq (h : e.call.session? = some id) :
    entriesOf id (e :: log) = e :: entriesOf id log := List.filter_cons_of_pos (beq_iff_eq.2 h)

theorem entriesOf_cons_of_ne (h : e.call.session? ≠ some id) :
    entriesOf id (e :: log) = entriesOf id log :=
  List.filter_cons_of_neg fun heq => h (beq_iff_eq.1 heq)

@[simp] theorem events_append (log log' : List Entry) :
    events (log ++ log') = events log ++ events log' := List.flatMap_append

/-! ### The bytes of a session -/

/-- A call of another session, or of none, leaves a session's bytes where they are. -/
theorem held_step_of_ne (c : Conditions) {call : Call} (h : call.session? ≠ some id) :
    (d.step c call).1.held id = d.held id := by
  rcases d.step_cases c call with
    ⟨j, s, hj, hs, hstep⟩ | ⟨j, -, -, hstep⟩ | ⟨token, -, hstep⟩ | ⟨-, hstep⟩ |
      ⟨-, reply, es, hstep, -⟩ <;>
    rw [hstep]
  · have hne : id ≠ j := fun heq => h (heq ▸ hj)
    rw [held, session?_set hs, if_neg hne, held]
  · rw [held, session?_openSession, held]
    split
    · next hid =>
      -- a number that is given out was not in use
      have hnone : d.session? id = none := by
        rw [session?, hid, List.getElem?_eq_none (Nat.le_refl _)]
        rfl
      rw [hnone]
      rfl
    · rfl
  · rfl

/-- A call of a session moves its bytes on, and loses none. -/
theorem Valid.step_bytes (hv : d.Valid) (c : Conditions) {call : Call}
    (h : call.session? = some id) :
    (d.entry c call).released ++ (d.step c call).1.held id =
      d.held id ++ (d.entry c call).accepted := by
  rw [entry, held, held]
  cases hs : d.session? id with
  | some s =>
    obtain ⟨rs, hr⟩ := Session.respond_answers (hv id s hs).1 d.store c call
    rw [step_of_session h hs, session?_set hs, if_pos rfl]
    exact hr.released_append
  | none =>
    rw [step_of_absent h hs, hs]
    cases call <;> rfl

/-- **The bytes of one session.** What left it and what it holds are what it held and took in. -/
theorem Valid.run_bytes (hv : d.Valid) (id : SessionId) (calls : List (Call × Conditions)) :
    released id (d.run calls).2 ++ (d.run calls).1.held id =
      d.held id ++ accepted id (d.run calls).2 := by
  induction calls generalizing d with
  | nil => exact (List.append_nil _).symm
  | cons x calls ih =>
    obtain ⟨call, c⟩ := x
    have hrest := ih (hv.step c call)
    rw [run_cons, released, accepted]
    by_cases hid : call.session? = some id
    · rw [entriesOf_cons_of_eq hid, List.flatMap_cons, List.flatMap_cons, List.append_assoc,
        ← released, ← accepted, hrest, ← List.append_assoc, hv.step_bytes c hid,
        List.append_assoc]
    · rw [held_step_of_ne c hid] at hrest
      rw [entriesOf_cons_of_ne hid]
      exact hrest

/-! ### The records of the store -/

/-- A call empties the store, or puts in records of the session that it names. -/
theorem Valid.step_commits (hv : d.Valid) (c : Conditions) (call : Call) :
    ((d.entry c call).isShutdown = true ∧ (d.step c call).1.store = .empty) ∨
      (d.entry c call).isShutdown = false ∧
        ∃ rs, d.store.Commits rs (d.step c call).1.store (d.entry c call).events := by
  rcases d.step_cases c call with
    ⟨id, s, hid, hs, hstep⟩ | ⟨id, hid, -, hstep⟩ | ⟨token, rfl, hstep⟩ | ⟨rfl, hstep⟩ |
      ⟨-, reply, es, hstep, hes, hreply⟩ <;>
    rw [entry, hstep]
  · obtain ⟨rs, hr⟩ := Session.respond_answers (hv id s hs).1 d.store c call
    refine .inr ⟨?_, rs, hr.commits⟩
    cases call with
    | shutdown => exact absurd hid nofun
    | _ => rfl
  · exact .inr ⟨by cases call <;> rfl, [], .refl _ rfl⟩
  · exact .inr ⟨rfl, [], .refl _ rfl⟩
  · exact .inl ⟨rfl, Store.teardown_fst _⟩
  · refine .inr ⟨?_, [], .refl _ hes⟩
    cases call with
    | shutdown =>
      cases reply with
      | number k => exact absurd rfl (hreply rfl k)
      | _ => rfl
    | _ => rfl

/-- **The records of the store.** Of those that were put in since it was emptied last, it has the
last `n`. -/
theorem Valid.run_retains (hv : d.Valid) (hn : 0 < n) (hempty : d.store = .empty)
    (calls : List (Call × Conditions)) :
    (d.run calls).1.store.Retains (events (sinceShutdown (d.run calls).2)) := by
  induction calls using List.reverseRecOn with
  | nil =>
    rw [show (d.run []).1.store = .empty from hempty]
    exact Store.retains_empty hn
  | append_singleton calls x ih =>
    obtain ⟨call, c⟩ := x
    rw [run_concat, sinceShutdown, List.rtakeWhile_concat]
    rcases (hv.run calls).step_commits c call with ⟨hdown, hstore⟩ | ⟨hgoes, rs, hcommits⟩
    · rw [if_neg (by simp [hdown])]
      exact hstore ▸ Store.retains_empty hn
    · rw [if_pos (by simp [hgoes]), events_append]
      have hlast : events [(d.run calls).1.entry c call] =
          ((d.run calls).1.entry c call).events := List.append_nil _
      rw [hlast]
      exact ih.commits hcommits

theorem Entry.call_of_isShutdown (h : e.isShutdown = true) : e.call = .shutdown := by
  obtain ⟨call, c, reply, es⟩ := e
  cases call with
  | shutdown => rfl
  | _ => exact absurd h nofun

/-- Where the store is not emptied, it has the last `n` of all the records that were put in. -/
theorem Valid.retains_run (hv : d.Valid) {es : List Event} (h : d.store.Retains es)
    {calls : List (Call × Conditions)} (hcalls : ∀ x ∈ calls, x.1 ≠ .shutdown) :
    (d.run calls).1.store.Retains (es ++ events (d.run calls).2) := by
  induction calls generalizing d es with
  | nil =>
    rw [show es ++ events (d.run []).2 = es from List.append_nil es]
    exact h
  | cons x calls ih =>
    obtain ⟨call, c⟩ := x
    obtain ⟨hcall, hrest⟩ := List.forall_mem_cons.1 hcalls
    rcases hv.step_commits c call with ⟨hdown, -⟩ | ⟨-, rs, hcommits⟩
    · exact absurd (Entry.call_of_isShutdown hdown) hcall
    · have hrun := ih (hv.step c call) (h.commits hcommits) hrest
      rwa [List.append_assoc] at hrun

/-! ### Whole runs -/

/-- Only sessions put records in. -/
theorem step_of_session?_eq_none (d : Device n) (c : Conditions) (call : Call)
    (h : call.session? = none) :
    committedBy (d.entry c call).events = [] ∧ evictedBy (d.entry c call).events = [] := by
  rcases d.step_cases c call with
    ⟨id, s, hid, -⟩ | ⟨id, hid, -⟩ | ⟨token, -, hstep⟩ | ⟨-, hstep⟩ | ⟨-, reply, es, hstep, hes, -⟩
  · exact absurd (h.symm.trans hid) nofun
  · exact absurd (h.symm.trans hid) nofun
  · rw [entry, hstep]; exact ⟨rfl, rfl⟩
  · rw [entry, hstep]; exact ⟨rfl, rfl⟩
  · rw [entry, hstep, ← committedBy_filter, ← evictedBy_filter, hes]; exact ⟨rfl, rfl⟩

theorem run_of_session?_eq_none (d : Device n) (calls : List (Call × Conditions)) :
    ∀ e ∈ (d.run calls).2, e.call.session? = none →
      committedBy e.events = [] ∧ evictedBy e.events = [] := by
  induction calls generalizing d with
  | nil =>
    intro e he
    exact absurd he List.not_mem_nil
  | cons x calls ih =>
    obtain ⟨call, c⟩ := x
    intro e he hnone
    rw [run_cons] at he
    rcases List.mem_cons.1 he with rfl | hmem
    · exact d.step_of_session?_eq_none c call hnone
    · exact ih _ e hmem hnone

/-- **No byte of a run is lost, made up, or moved.** Whatever sessions do, in whatever order, and
whatever they are denied: what left a session, in the records that it put in and the bytes that it
gave up, and what it holds are the chunks that were accepted from it, in their order. Of the records
put in since the store was emptied last, the store has the last `n`, and the others were evicted in
their order. And only sessions put records in. -/
theorem run_conserves (hn : 0 < n) {config : Config} {created : List Event}
    (h : new n config = .ok (d, created)) (calls : List (Call × Conditions)) :
    (∀ id, released id (d.run calls).2 ++ (d.run calls).1.held id = accepted id (d.run calls).2) ∧
      (d.run calls).1.store.toList
        = (committedBy (events (sinceShutdown (d.run calls).2))).rtake n ∧
      evictedBy (events (sinceShutdown (d.run calls).2))
        = (committedBy (events (sinceShutdown (d.run calls).2))).rdrop n ∧
      ∀ e ∈ (d.run calls).2, e.call.session? = none →
        committedBy e.events = [] ∧ evictedBy e.events = [] := by
  obtain ⟨rfl, -⟩ := new_eq h
  have hv : Valid (⟨config, .empty, []⟩ : Device n) := valid_of_sessions_eq_nil rfl
  have hretains := hv.run_retains hn rfl calls
  refine ⟨fun id => ?_, hretains.holds.toList_eq, hretains.evictedBy_eq,
    run_of_session?_eq_none _ calls⟩
  have hheld : held (⟨config, .empty, []⟩ : Device n) id = [] := rfl
  rw [hv.run_bytes id calls, hheld, List.nil_append]

/-- Two sessions take turns. The first is refused the memory for a second record of its chunk, and
puts it in with the next chunk; the second is denied the lock, and gives its bytes back. -/
theorem run_conserves_two_sessions :
    let calls : List (Call × Conditions) :=
      [(.open ⟨0⟩, .clear), (.open ⟨1⟩, .clear), (.write 1 [120], .clear),
        (.write 0 [97, 10, 98, 10, 99], ⟨.granted, .refusing 1⟩),
        (.write 1 [10], ⟨.cancelled, .generous⟩), (.abandon 1, .clear), (.shutdown, .clear),
        (.write 1 [121, 10], .clear), (.write 0 [100, 10, 101], .clear)]
    ∃ d : Device 1, 0 < 1 ∧ new 1 .default = .ok (d, [.created 1 10]) ∧
      released 0 (d.run calls).2 ++ (d.run calls).1.held 0 = [97, 10, 98, 10, 99, 100, 10, 101] ∧
      released 1 (d.run calls).2 ++ (d.run calls).1.held 1 = [120, 121, 10] ∧
      (d.run calls).1.store.toList.map Record.bytes = [[99, 100, 10]] ∧
      (evictedBy (events (sinceShutdown (d.run calls).2))).map Record.bytes
        = [[121, 10], [98, 10]] := by
  intro calls
  have hnew : new 1 .default = .ok ((⟨.default, .empty, []⟩ : Device 1), [.created 1 10]) := rfl
  obtain ⟨hbytes, hstore, hevicted, -⟩ := run_conserves (by decide) hnew calls
  refine ⟨_, by decide, hnew, (hbytes 0).trans (by cbv), (hbytes 1).trans (by cbv), ?_, ?_⟩
  · rw [hstore]
    cbv
  · rw [hevicted]
    cbv

end Device

end RecordRing
