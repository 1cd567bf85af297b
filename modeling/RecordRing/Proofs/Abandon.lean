import RecordRing.Proofs.Writing

/-!
# Finished records that wait, and giving them up

A session usually has no more in its buffer than the beginning of the next record. After a refusal
it can have more: finished records, which are still to be put into the store, and the unfinished one
behind them. The reading of the buffer tells them apart (`Session.finished`, `Session.unfinished`).

Every call but two keeps the finished records. It puts some of them into the store, in their order,
and the others go on waiting; a flush that succeeds puts all of them in, a write that succeeds the
first one at least, and ending the session does the same as a flush before the rest is given up.

Abandoning does not tell them apart. It gives back the whole buffer, and the finished records with
it; these are never put into the store. So it is about the unfinished record alone where no finished
one waits, and nowhere else (`Session.abandon_eq_unfinished_iff`).

## Main definitions

* `Session.finished`, `Session.unfinished` — what a session has in its buffer

## Main results

* `Session.abandon_eq_unfinished_iff` — what abandoning gives back
* `Session.Accounts.finished_append` — finished records are put in, or go on waiting
* `Session.flush_finished`, `close_finished`, `write_finished` — calls that succeed
* `Device.step_keeps_finished` — calls that need not
* `Device.finished_records_wait` — where the finished records of a session go
-/

namespace RecordRing

variable {n : Nat}

/-- A buffer is there for its bytes, so these are told from it. -/
theorem getD_ite_nil (bs : List UInt8) : (if bs = [] then none else some bs).getD [] = bs := by
  split
  · next h => exact h.symm
  · rfl

/-- A call that was not answered with an error has a result. -/
theorem Reply.exists_ok_of_ofResult {α : Type} {answer : α → Reply} {result : Except Error α}
    {reply : Reply} (h : ofResult answer result = reply) (hreply : ∀ e, reply ≠ .failed e) :
    ∃ a, result = .ok a ∧ answer a = reply := by
  cases result with
  | ok a => exact ⟨a, rfl, h⟩
  | error e => exact absurd h.symm (hreply e)

namespace Session

variable {s s' : Session} {store store' : Store n} {c : Conditions} {chunk input : List UInt8}
  {rs : List Record} {es : List Event}

/-! ### What is buffered -/

/-- The finished records in the buffer. -/
def finished (s : Session) : List Record :=
  (pieces s.assembler.terminator s.assembler.held).map .ofList

/-- The bytes behind the last finished record. -/
def unfinished (s : Session) : List UInt8 := remainder s.assembler.terminator s.assembler.held

theorem concat_finished_append (s : Session) :
    concat s.finished ++ s.unfinished = s.assembler.held := by
  have hbytes : s.finished.map Record.bytes = pieces s.assembler.terminator s.assembler.held := by
    rw [finished, List.map_map]
    exact List.map_id _
  rw [← flatten_map_bytes, hbytes]
  exact (isCut_pieces _ _).flatten_append

theorem finished_eq_nil_iff : s.finished = [] ↔ s.assembler.terminator ∉ s.assembler.held := by
  rw [finished, List.map_eq_nil_iff, pieces_eq_nil_iff]

theorem finished_ne_nil_iff : s.finished ≠ [] ↔ s.assembler.terminator ∈ s.assembler.held := by
  rw [Ne, finished_eq_nil_iff, Decidable.not_not]

theorem unfinished_eq_held_iff : s.unfinished = s.assembler.held ↔ s.finished = [] := by
  rw [unfinished, remainder_eq_self_iff, finished, List.map_eq_nil_iff]

theorem hasPending_iff (hv : s.assembler.Valid) :
    s.hasPending = true ↔ s.assembler.held ≠ [] := by
  have hp : s.hasPending = s.assembler.pending?.isSome := Option.isSome_map.symm
  rw [hp, hv.pending?_eq]
  by_cases hheld : s.assembler.held = [] <;> simp [hheld]

/-! ### Abandoning -/

/-- What abandoning gives back: everything, if there is anything. -/
theorem abandon_snd (hv : s.assembler.Valid) :
    s.abandon.2 = if s.assembler.held = [] then none else some s.assembler.held := hv.pending?_eq

/-- **Abandoning gives the unfinished record back, and nothing else, exactly if no finished record
waits.** -/
theorem abandon_eq_unfinished_iff (hv : s.assembler.Valid) :
    s.abandon.2 = (if s.unfinished = [] then none else some s.unfinished) ↔ s.finished = [] := by
  rw [abandon_snd hv]
  constructor
  · intro h
    have hbytes := congrArg (Option.getD · []) h
    rw [getD_ite_nil, getD_ite_nil] at hbytes
    exact unfinished_eq_held_iff.1 hbytes.symm
  · intro h
    rw [unfinished_eq_held_iff.2 h]

/-- Where a finished record waits, it is given back, too. -/
theorem abandon_of_finished (hv : s.assembler.Valid) (h : s.finished ≠ []) :
    s.hasPending = true ∧ s.abandon.2 = some (concat s.finished ++ s.unfinished) := by
  have hne : s.assembler.held ≠ [] := List.ne_nil_of_mem (finished_ne_nil_iff.1 h)
  rw [hasPending_iff hv, abandon_snd hv, if_neg hne, concat_finished_append]
  exact ⟨hne, rfl⟩

/-! ### Waiting -/

/-- **Finished records are put in, or go on waiting.** Those that are finished by what is taken in
come behind them. -/
theorem Accounts.finished_append (h : s.Accounts store input rs s' store' es) :
    rs ++ s'.finished = s.finished ++
      (pieces s.assembler.terminator (s.unfinished ++ input)).map .ofList := by
  have hpieces := congrArg (List.map Record.ofList) h.advances.append_pieces
  have hrs : (rs.map Record.bytes).map Record.ofList = rs := by
    rw [List.map_map]
    exact List.map_id rs
  rw [pieces_append, List.map_append, List.map_append, hrs] at hpieces
  rw [finished, finished, unfinished, h.advances.terminator_eq, hpieces]

/-- Where nothing is taken in and no finished record is left, all were put in. -/
theorem Accounts.of_notMem (h : s.Accounts store [] rs s' store' es)
    (hnot : s.assembler.terminator ∉ s'.assembler.held) :
    rs = s.finished ∧ s'.assembler.held = s.unfinished := by
  obtain ⟨hrs, hheld⟩ := h.advances.eq_pieces hnot
  rw [List.append_nil] at hrs hheld
  exact ⟨hrs, hheld⟩

/-- **A flush that succeeds puts every finished record in.** -/
theorem flush_finished (hv : s.assembler.Valid) (h : (s.flush store c).result = .ok ()) :
    store.Commits s.finished (s.flush store c).store (s.flush store c).events ∧
      (s.flush store c).session.assembler.held = s.unfinished := by
  obtain ⟨⟨rs, hall⟩, -, hdone, -⟩ := flush_accounts hv store c
  obtain ⟨rfl, hheld⟩ := hall.of_notMem (hdone h)
  exact ⟨hall.commits, hheld⟩

/-- **Ending puts every finished record in**, unless the log says that one was lost. -/
theorem close_finished (hv : s.assembler.Valid)
    (h : ∀ e, .closedUncommitted e ∉ (s.close store c).2) :
    store.Commits s.finished (s.close store c).1 (s.close store c).2 ∧
      releasedBy (s.close store c).2 = concat s.finished ++ s.unfinished := by
  cases hresult : (s.flush store c).result with
  | error e => exact absurd (by simp [close, hresult]) (h e)
  | ok _ =>
    obtain ⟨hcommits, hheld⟩ := flush_finished hv hresult
    obtain ⟨rs, b, hadv, hclosed, hreleased, -⟩ := close_cases hv store c
    -- only a flush puts records in, so what is put in by the end is what the flush put in
    have hrs : rs = s.finished := by
      rw [← hclosed.committedBy_eq, ← hcommits.committedBy_eq, close, hresult]
      cases (s.flush store c).session.abandon.2 <;> simp [committedBy, Event.committed?]
    rw [hreleased, hadv.concat_append, List.append_nil, concat_finished_append]
    exact ⟨hrs ▸ hclosed, rfl⟩

/-- **A write that succeeds puts the first finished record in**, and those behind it up to the first
one that is refused memory. -/
theorem write_finished (hv : s.assembler.Valid) (hne : chunk ≠ []) {k : Nat}
    (h : (s.write store c chunk).result = .ok k) :
    ∃ rs, store.Commits rs (s.write store c chunk).store (s.write store c chunk).events ∧
      rs ++ (s.write store c chunk).session.finished = s.finished ++
        (pieces s.assembler.terminator (s.unfinished ++ chunk)).map .ofList ∧
      (s.finished ≠ [] → rs ≠ []) ∧
      ((s.write store c chunk).session.finished ≠ [] →
        ∃ e, refusal? c.memory ((s.write store c chunk).session.assembler.demands .pop) = some e ∧
          .leftBuffered (.assemble e) ∈ (s.write store c chunk).events) := by
  cases hhindered : s.hindrance? c chunk with
  | some e =>
    obtain ⟨es, hwrite, -⟩ := write_of_hindrance? hv hhindered store
    rw [hwrite] at h
    exact absurd h nofun
  | none =>
    obtain ⟨rs, s', store', es, hwrite, -, hall, hfirst⟩ := write_unhindered hv hhindered store
    obtain ⟨hfirst, hleft⟩ := hfirst hne
    rw [hwrite]
    refine ⟨rs, hall.commits, hall.finished_append, fun hfinished => ?_, fun hfinished => ?_⟩
    · have hmem : s.assembler.terminator ∈ s.assembler.held := finished_ne_nil_iff.1 hfinished
      obtain ⟨first, later, rfl, -⟩ := hfirst (List.mem_append_left _ hmem)
      exact List.cons_ne_nil _ _
    · rw [finished_ne_nil_iff, hall.advances.terminator_eq] at hfinished
      exact hleft hfinished

end Session

namespace Device

variable {d : Device n} {id : SessionId} {s : Session}

/-- What a session gives back is told to its caller, and the store is as it was. -/
theorem step_abandon (hs : d.session? id = some s) (c : Conditions) :
    d.step c (.abandon id) =
      ({ d with sessions := d.sessions.set id (some s.abandon.1) }, .abandoned s.abandon.2, []) :=
  step_of_session rfl hs c

/-- **Every call keeps the finished records of a session**, but the two that take its buffer away:
those that it does not put into the store are waiting still, in front of any others. -/
theorem step_keeps_finished (hv : s.assembler.Valid) (hs : d.session? id = some s)
    (c : Conditions) {call : Call} (hclose : call ≠ .close id) (habandon : call ≠ .abandon id) :
    ∃ rs s', (d.step c call).1.session? id = some s' ∧
      (call.session? = some id →
        d.store.Commits rs (d.step c call).1.store (d.step c call).2.2) ∧
      (call.session? ≠ some id → rs = []) ∧ s.finished <+: rs ++ s'.finished := by
  by_cases hid : call.session? = some id
  · have hnotClose : ∀ j, call ≠ .close j := by
      rintro j rfl
      obtain rfl : j = id := Option.some.inj hid
      exact hclose rfl
    have hnotAbandon : ∀ j, call ≠ .abandon j := by
      rintro j rfl
      obtain rfl : j = id := Option.some.inj hid
      exact habandon rfl
    obtain ⟨rs, s', hnext, hall, -⟩ :=
      Session.respond_accounts hv d.store c hnotClose hnotAbandon
    rw [step_of_session hid hs]
    refine ⟨rs, s', ?_, fun _ => hall.commits, absurd hid, ?_⟩
    · rw [session?_set hs, if_pos rfl, hnext]
    · rw [hall.finished_append]
      exact List.prefix_append _ _
  · refine ⟨[], s, ?_, fun h => absurd h hid, fun _ => rfl, List.prefix_rfl⟩
    rw [session?_step_of_ne c hid (lt_length_of_session? hs), hs]

theorem step_flush_finished (hv : s.assembler.Valid) (hs : d.session? id = some s)
    {c : Conditions} (h : (d.step c (.flush id)).2.1 = .done) :
    d.store.Commits s.finished (d.step c (.flush id)).1.store (d.step c (.flush id)).2.2 ∧
      ∃ s', (d.step c (.flush id)).1.session? id = some s' ∧ s'.assembler.held = s.unfinished := by
  rw [step_of_session rfl hs] at h ⊢
  obtain ⟨⟨⟩, hresult, -⟩ := Reply.exists_ok_of_ofResult h nofun
  obtain ⟨hcommits, hheld⟩ := Session.flush_finished hv hresult
  refine ⟨hcommits, (s.flush d.store c).session, ?_, hheld⟩
  rw [session?_set hs, if_pos rfl]
  rfl

theorem step_write_finished (hv : s.assembler.Valid) (hs : d.session? id = some s)
    {c : Conditions} {chunk : List UInt8} (hne : chunk ≠ []) {k : Nat}
    (h : (d.step c (.write id chunk)).2.1 = .number k) :
    ∃ rs s', (d.step c (.write id chunk)).1.session? id = some s' ∧
      d.store.Commits rs (d.step c (.write id chunk)).1.store (d.step c (.write id chunk)).2.2 ∧
      rs ++ s'.finished = s.finished ++
        (pieces s.assembler.terminator (s.unfinished ++ chunk)).map .ofList ∧
      (s.finished ≠ [] → rs ≠ []) ∧
      (s'.finished ≠ [] → ∃ e, refusal? c.memory (s'.assembler.demands .pop) = some e ∧
        .leftBuffered (.assemble e) ∈ (d.step c (.write id chunk)).2.2) := by
  rw [step_of_session rfl hs] at h ⊢
  obtain ⟨_, hresult, -⟩ := Reply.exists_ok_of_ofResult h nofun
  obtain ⟨rs, hcommits, hrecords, hfirst, hleft⟩ := Session.write_finished hv hne hresult
  refine ⟨rs, (s.write d.store c chunk).session, ?_, hcommits, hrecords, hfirst, hleft⟩
  rw [session?_set hs, if_pos rfl]
  rfl

theorem step_close_finished (hv : s.assembler.Valid) (hs : d.session? id = some s)
    {c : Conditions} (h : ∀ e, .closedUncommitted e ∉ (d.step c (.close id)).2.2) :
    d.store.Commits s.finished (d.step c (.close id)).1.store (d.step c (.close id)).2.2 ∧
      releasedBy (d.step c (.close id)).2.2 = concat s.finished ++ s.unfinished := by
  rw [step_of_session rfl hs] at h ⊢
  exact Session.close_finished hv h

/-- **Where the finished records of a session go.** Abandoning gives back all that a session has
buffered, leaves it without a buffer, and does not touch the store. This is the unfinished record
and nothing else exactly if no finished record waits; then the session says that it holds bytes
exactly if it holds some of that record. If a finished record waits, the session says that it holds
bytes, and the finished records are given back in front of the unfinished one.

All other calls that the session survives keep its finished records: they put them into the store or
let them wait. A flush that succeeds puts them all in and leaves the unfinished record. A write of
some bytes that succeeds puts the first one in; after it, a finished record waits only if the memory
to cut it was refused once more, and the log says so. Ending the session puts them all in, unless
the log says that it could not. -/
theorem finished_records_wait (hd : d.Reachable) (hs : d.session? id = some s) :
    (∀ c, d.step c (.abandon id) =
      ({ d with sessions := d.sessions.set id (some s.abandon.1) },
        .abandoned s.abandon.2, [])) ∧
    s.abandon.1.assembler.pending? = none ∧
    (s.abandon.2 = (if s.unfinished = [] then none else some s.unfinished) ↔ s.finished = []) ∧
    (s.finished = [] → (s.hasPending = true ↔ s.unfinished ≠ [])) ∧
    (s.finished ≠ [] →
      s.hasPending = true ∧ s.abandon.2 = some (concat s.finished ++ s.unfinished)) ∧
    (∀ c call, call ≠ .close id → call ≠ .abandon id →
      ∃ rs s', (d.step c call).1.session? id = some s' ∧
        (call.session? = some id →
          d.store.Commits rs (d.step c call).1.store (d.step c call).2.2) ∧
        (call.session? ≠ some id → rs = []) ∧ s.finished <+: rs ++ s'.finished) ∧
    (∀ c, (d.step c (.flush id)).2.1 = .done →
      d.store.Commits s.finished (d.step c (.flush id)).1.store (d.step c (.flush id)).2.2 ∧
      ∃ s', (d.step c (.flush id)).1.session? id = some s' ∧ s'.assembler.held = s.unfinished) ∧
    (∀ c chunk k, chunk ≠ [] → (d.step c (.write id chunk)).2.1 = .number k →
      ∃ rs s', (d.step c (.write id chunk)).1.session? id = some s' ∧
        d.store.Commits rs (d.step c (.write id chunk)).1.store
          (d.step c (.write id chunk)).2.2 ∧
        rs ++ s'.finished = s.finished ++
          (pieces d.config.terminator (s.unfinished ++ chunk)).map .ofList ∧
        (s.finished ≠ [] → rs ≠ []) ∧
        (s'.finished ≠ [] → ∃ e, refusal? c.memory (s'.assembler.demands .pop) = some e ∧
          .leftBuffered (.assemble e) ∈ (d.step c (.write id chunk)).2.2)) ∧
    ∀ c, (∀ e, .closedUncommitted e ∉ (d.step c (.close id)).2.2) →
      d.store.Commits s.finished (d.step c (.close id)).1.store (d.step c (.close id)).2.2 ∧
      releasedBy (d.step c (.close id)).2.2 = concat s.finished ++ s.unfinished := by
  obtain ⟨hv, hterm⟩ := hd.valid id s hs
  rw [← hterm]
  refine ⟨step_abandon hs, rfl, Session.abandon_eq_unfinished_iff hv, fun h => ?_,
    Session.abandon_of_finished hv, fun c _ => step_keeps_finished hv hs c,
    fun _ => step_flush_finished hv hs,
    fun _ _ _ hne h => step_write_finished hv hs hne h, fun _ => step_close_finished hv hs⟩
  rw [Session.hasPending_iff hv, Session.unfinished_eq_held_iff.2 h]

/-- The first record of a chunk is put in, and the memory to cut the second one is refused. The
second one is put in by a flush; but if the session is abandoned instead, it is given back, in front
of the two bytes that are unfinished. -/
theorem finished_records_wait_behind_refusal :
    let calls : List (Call × Conditions) :=
      [(.open ⟨0⟩, .clear),
        (.write 0 [97, 97, 97, 10, 98, 98, 10, 99, 99], ⟨.granted, .refusing 2⟩)]
    let d : Device 4 := ((⟨.default, .empty, []⟩ : Device 4).run calls).1
    ∃ s, d.Reachable ∧ d.session? 0 = some s ∧ s.finished = [.ofList [98, 98, 10]] ∧
      s.unfinished = [99, 99] ∧
      (d.step .clear (.abandon 0)).2.1 = .abandoned (some [98, 98, 10, 99, 99]) ∧
      s.abandon.2 ≠ some s.unfinished ∧
      (d.step .clear (.flush 0)).2.1 = .done ∧
      committedBy (d.step .clear (.flush 0)).2.2 = [.ofList [98, 98, 10]] := by
  intro calls d
  have hreachable : d.Reachable := ⟨.default, _, _, calls, rfl, rfl⟩
  have hsome : (d.session? 0).isSome = true := by cbv
  have hfinished : (d.session? 0).map Session.finished = some [.ofList [98, 98, 10]] := by cbv
  have hunfinished : (d.session? 0).map Session.unfinished = some [99, 99] := by cbv
  have hdone : (d.step .clear (.flush 0)).2.1 = .done := by cbv
  -- nothing below is evaluated
  clear_value d
  obtain ⟨s, hs⟩ := Option.isSome_iff_exists.1 hsome
  rw [hs, Option.map_some, Option.some.injEq] at hfinished hunfinished
  obtain ⟨habandon, -, hexact, -, hback, -, hflush, -⟩ := finished_records_wait hreachable hs
  have hne : s.finished ≠ [] := by
    rw [hfinished]
    exact List.cons_ne_nil _ _
  obtain ⟨-, hbytes⟩ := hback hne
  rw [hfinished, hunfinished] at hbytes
  refine ⟨s, hreachable, hs, hfinished, hunfinished, ?_, ?_, hdone, ?_⟩
  · rw [habandon, hbytes]
    rfl
  · rw [hunfinished] at hexact ⊢
    exact mt hexact.1 hne
  · rw [(hflush .clear hdone).1.committedBy_eq, hfinished]

end Device

end RecordRing
