import RecordRing.Proofs.Accounting

/-!
# A session that was refused something comes back for it

A session that is denied the lock, or refused the memory to cut a record, keeps what it could not
put in, and the next call that can puts it in. So nothing remains of a refusal but that its chunk
was not accepted, or that its records came later: once a flush is done, the store and the session
are those of a session that wrote the accepted chunks and met with no refusal at all.

Two runs are compared, but never call by call, since one is ahead of the other in between. Each has
its account of the same bytes. Where an account ends with no finished record left behind, the bytes
fix its records and its remainder, and both runs end like this.

## Main definitions

* `Call.Supplies` — the calls that are compared
* `Device.Leads` — the account of a session's own calls
* `Device.acceptedChunks`, `Device.writes` — the chunks that were accepted, and the run that writes
  these and meets with no refusal

## Main results

* `Device.run_leads` — the account of a run
* `Device.Leads.unique`, `Leads.close_unique` — the bytes fix where calls lead to
* `Device.run_writes` — a run that meets with no refusal
* `Device.flush_recovers` — after a flush, nothing remains of a refusal
-/

namespace RecordRing

variable {n : Nat}

/-- A write or a flush of one session. -/
def Call.Supplies (id : SessionId) (call : Call) : Prop :=
  call = .flush id ∨ ∃ chunk, call = .write id chunk

namespace Device

/-- The chunks that were accepted. -/
def acceptedChunks (log : List Entry) : List (List UInt8) := log.filterMap Entry.chunk?

/-- Write chunks, and meet with no refusal. -/
def writes (id : SessionId) (chunks : List (List UInt8)) : List (Call × Conditions) :=
  chunks.map fun chunk => (.write id chunk, .clear)

/-- Calls of session `id` lead from `d`, where it is `s`, to `d'`, where it is `s'`: they take
`input` in, and put the records `rs` into the store. -/
structure Leads (d : Device n) (id : SessionId) (s : Session) (input : List UInt8)
    (rs : List Record) (d' : Device n) (s' : Session) (es : List Event) : Prop where
  /-- The session goes on. -/
  session?_eq : d'.session? id = some s'
  /-- Its account, and that of the store. -/
  accounts : s.Accounts d.store input rs s' d'.store es
  /-- The position goes forward by what was taken in. -/
  position_eq : s'.position = s.position + input.length

theorem flatten_acceptedChunks_cons (e : Entry) (log : List Entry) :
    (acceptedChunks (e :: log)).flatten = e.accepted ++ (acceptedChunks log).flatten := by
  rw [acceptedChunks, List.filterMap_cons, Entry.accepted]
  cases e.chunk? <;> rfl

variable {d d' d'' : Device n} {id : SessionId} {s s' s'' : Session} {input input' : List UInt8}
  {rs rs' : List Record} {es es' : List Event}

theorem Leads.refl (hv : s.assembler.Valid) (hs : d.session? id = some s) :
    d.Leads id s [] [] d s [] where
  session?_eq := hs
  accounts := .refl hv d.store rfl rfl
  position_eq := rfl

theorem Leads.trans (h : d.Leads id s input rs d' s' es)
    (h' : d'.Leads id s' input' rs' d'' s'' es') :
    d.Leads id s (input ++ input') (rs ++ rs') d'' s'' (es ++ es') where
  session?_eq := h'.session?_eq
  accounts := h.accounts.trans h'.accounts
  position_eq := by
    rw [h'.position_eq, h.position_eq, List.length_append, Nat.add_assoc]

/-- **The bytes fix where calls lead to**, once no finished record is left behind. -/
theorem Leads.unique (h : d.Leads id s input rs d' s' es) (h' : d.Leads id s input rs' d'' s'' es')
    (hnot : s.assembler.terminator ∉ s'.assembler.held)
    (hnot' : s.assembler.terminator ∉ s''.assembler.held) :
    d'.store = d''.store ∧ s'.assembler.pending? = s''.assembler.pending? ∧
      s'.position = s''.position ∧ committedBy es = committedBy es' := by
  obtain ⟨rfl, hpending⟩ := h.accounts.advances.unique h'.accounts.advances hnot hnot'
  refine ⟨?_, hpending, ?_, ?_⟩
  · rw [h.accounts.commits.store_eq, h'.accounts.commits.store_eq]
  · rw [h.position_eq, h'.position_eq]
  · rw [h.accounts.commits.committedBy_eq, h'.accounts.commits.committedBy_eq]

/-! ### One call -/

theorem leads_step {call : Call} {c : Conditions} {r : Response n} (hid : call.session? = some id)
    (hs : d.session? id = some s) (hr : s.respond d.store c call = r) (hnext : r.next = some s')
    (hall : s.Accounts d.store input rs s' r.store r.events)
    (hposition : s'.position = s.position + input.length) :
    d.Leads id s input rs (d.step c call).1 s' (d.entry c call).events := by
  subst hr
  rw [entry, step_of_session hid hs]
  refine ⟨?_, hall, hposition⟩
  rw [session?_set hs, if_pos rfl, hnext]

/-- A write takes its chunk in, or fails. Where nothing stands in the way it takes the chunk in, and
leaves no finished record behind. -/
theorem step_write (hv : s.assembler.Valid) (hs : d.session? id = some s) (c : Conditions)
    (chunk : List UInt8) :
    ∃ rs s', d.Leads id s (d.entry c (.write id chunk)).accepted rs
        (d.step c (.write id chunk)).1 s' (d.entry c (.write id chunk)).events ∧
      (c = .clear → (d.entry c (.write id chunk)).reply = .number chunk.length ∧
        (s.assembler.terminator ∉ s.assembler.held →
          s.assembler.terminator ∉ s'.assembler.held)) := by
  rcases s.write_cases hv d.store c chunk with
    ⟨e, es, h, hc, hall⟩ | ⟨rs, s', store', es, h, hposition, hall, hclear⟩
  · have hr : s.respond d.store c (.write id chunk) = ⟨some s, d.store, .failed e, es⟩ := by
      rw [Session.respond, h]
      rfl
    have haccepted : (d.entry c (.write id chunk)).accepted = [] := by
      rw [entry, step_of_session rfl hs, hr]
      rfl
    rw [haccepted]
    exact ⟨[], s, leads_step rfl hs hr rfl hall rfl, fun hclear => absurd hclear hc⟩
  · have hr : s.respond d.store c (.write id chunk) =
        ⟨some s', store', .number chunk.length, es⟩ := by
      rw [Session.respond, h]
      rfl
    have hentry : d.entry c (.write id chunk) =
        ⟨.write id chunk, c, .number chunk.length, es⟩ := by
      rw [entry, step_of_session rfl hs, hr]
    have haccepted : (d.entry c (.write id chunk)).accepted = chunk := by
      rw [hentry]
      rfl
    rw [haccepted]
    exact ⟨rs, s', leads_step rfl hs hr rfl hall hposition,
      fun hgranted => ⟨by rw [hentry], hclear hgranted⟩⟩

theorem accepted_write {c : Conditions} {chunk : List UInt8} {k : Nat}
    (h : (d.entry c (.write id chunk)).reply = .number k) :
    (d.entry c (.write id chunk)).accepted = chunk := by
  have hentry : d.entry c (.write id chunk) =
      ⟨.write id chunk, c, .number k, (d.entry c (.write id chunk)).events⟩ := by
    rw [← h]
    rfl
  rw [hentry]
  rfl

/-- A write that meets with no refusal. -/
theorem step_write_clear (hv : s.assembler.Valid) (hs : d.session? id = some s)
    (hnot : s.assembler.terminator ∉ s.assembler.held) (chunk : List UInt8) :
    ∃ rs s', d.Leads id s chunk rs (d.step .clear (.write id chunk)).1 s'
        (d.entry .clear (.write id chunk)).events ∧
      (d.entry .clear (.write id chunk)).reply = .number chunk.length ∧
      s.assembler.terminator ∉ s'.assembler.held := by
  obtain ⟨rs, s', hstep, hclear⟩ := step_write hv hs .clear chunk
  obtain ⟨hreply, hnot'⟩ := hclear rfl
  rw [accepted_write hreply] at hstep
  exact ⟨rs, s', hstep, hreply, hnot' hnot⟩

/-- A flush takes nothing in. It is done only if no finished record is left behind, and where
nothing stands in the way it is done. -/
theorem step_flush (hv : s.assembler.Valid) (hs : d.session? id = some s) (c : Conditions) :
    ∃ rs s', d.Leads id s [] rs (d.step c (.flush id)).1 s' (d.entry c (.flush id)).events ∧
      ((d.entry c (.flush id)).reply = .done → s.assembler.terminator ∉ s'.assembler.held) ∧
      (c = .clear → (d.entry c (.flush id)).reply = .done) := by
  obtain ⟨⟨rs, hall⟩, hposition, hdone, hclear⟩ := s.flush_accounts hv d.store c
  have hreply : (d.entry c (.flush id)).reply =
      .ofResult (fun _ => .done) (s.flush d.store c).result := by
    rw [entry, step_of_session rfl hs]
    rfl
  refine ⟨rs, _, leads_step rfl hs rfl rfl hall hposition, fun h => hdone ?_, fun h => ?_⟩
  · rw [hreply] at h
    cases hresult : (s.flush d.store c).result with
    | error e =>
      rw [hresult] at h
      exact absurd h (by simp [Reply.ofResult])
    | ok _ => rfl
  · rw [hreply, hclear h]
    rfl

/-- **Flushing where no finished record is buffered changes nothing.** -/
theorem step_flush_of_notMem (hv : s.assembler.Valid) (hs : d.session? id = some s)
    (hnot : s.assembler.terminator ∉ s.assembler.held) (c : Conditions) :
    d.step c (.flush id) = (d, .done, []) := by
  have hr : s.respond d.store c (.flush id) = ⟨some s, d.store, .done, []⟩ := by
    rw [Session.respond, Session.flush_of_notMem hv hnot]
    rfl
  rw [step_of_session rfl hs, hr]
  show ({ d with sessions := d.sessions.set id (some s) }, _, _) = _
  rw [sessions_set_self hs]

/-- Ending the session, where nothing stands in the way. -/
theorem Leads.close (h : d.Leads id s input rs d' s' es) :
    ∃ rs' b, s.assembler.Advances input (rs ++ rs') b ∧
      d.store.Commits (rs ++ rs') (d'.step .clear (.close id)).1.store
        (es ++ (d'.step .clear (.close id)).2.2) ∧
      releasedBy (d'.step .clear (.close id)).2.2 = concat rs' ++ b.held ∧
      s.assembler.terminator ∉ b.held := by
  obtain ⟨rs', b, hadv, hcommits, hreleased, hnot⟩ :=
    s'.close_cases h.accounts.advances.valid d'.store .clear
  rw [step_of_session rfl h.session?_eq]
  have hall := h.accounts.advances.trans hadv
  rw [List.append_nil] at hall
  refine ⟨rs', b, hall, h.accounts.commits.trans hcommits, hreleased, ?_⟩
  rw [← h.accounts.advances.terminator_eq]
  exact hnot rfl

/-- Ended there, the session leaves the same store wherever calls that took in the same bytes lead
to, and gives up nothing but the remainder. -/
theorem Leads.close_unique (h : d.Leads id s input rs d' s' es)
    (h' : d.Leads id s input rs' d'' s'' es') :
    (d'.step .clear (.close id)).1.store = (d''.step .clear (.close id)).1.store ∧
      committedBy (es ++ (d'.step .clear (.close id)).2.2) =
        committedBy (es' ++ (d''.step .clear (.close id)).2.2) ∧
      releasedBy (d'.step .clear (.close id)).2.2 =
        concat (committedBy (d'.step .clear (.close id)).2.2) ++
          remainder s.assembler.terminator (s.assembler.held ++ input) := by
  obtain ⟨rs₁, b₁, hadv, hcommits, hreleased, hnot⟩ := h.close
  obtain ⟨rs₂, b₂, hadv', hcommits', -, hnot'⟩ := h'.close
  obtain ⟨hrecords, -⟩ := hadv.unique hadv' hnot hnot'
  refine ⟨?_, ?_, ?_⟩
  · rw [hcommits.store_eq, hcommits'.store_eq, hrecords]
  · rw [hcommits.committedBy_eq, hcommits'.committedBy_eq, hrecords]
  · have hclosed : committedBy (d'.step .clear (.close id)).2.2 = rs₁ := by
      have hall := hcommits.committedBy_eq
      rw [committedBy_append, h.accounts.commits.committedBy_eq] at hall
      exact List.append_cancel_left hall
    rw [hreleased, hclosed, (hadv.isCut hnot).eq_remainder]

/-! ### Runs -/

/-- **The account of a run** of a session's own calls. -/
theorem run_leads (hv : s.assembler.Valid) (hs : d.session? id = some s)
    {calls : List (Call × Conditions)} (hcalls : ∀ x ∈ calls, x.1.Supplies id) :
    ∃ rs s', d.Leads id s (acceptedChunks (d.run calls).2).flatten rs (d.run calls).1 s'
      (events (d.run calls).2) := by
  induction calls generalizing d s with
  | nil => exact ⟨[], s, .refl hv hs⟩
  | cons x calls ih =>
    obtain ⟨call, c⟩ := x
    obtain ⟨hcall, hrest⟩ := List.forall_mem_cons.1 hcalls
    have hfirst : ∃ rs s', d.Leads id s (d.entry c call).accepted rs (d.step c call).1 s'
        (d.entry c call).events := by
      rcases hcall with rfl | ⟨chunk, rfl⟩
      · obtain ⟨rs, s', h, -⟩ := step_flush hv hs c
        exact ⟨rs, s', h⟩
      · obtain ⟨rs, s', h, -⟩ := step_write hv hs c chunk
        exact ⟨rs, s', h⟩
    obtain ⟨rs, s', hstep⟩ := hfirst
    obtain ⟨rs', s'', hrun⟩ := ih hstep.accounts.advances.valid hstep.session?_eq hrest
    refine ⟨rs ++ rs', s'', ?_⟩
    rw [run_cons, flatten_acceptedChunks_cons]
    exact hstep.trans hrun

/-- A run that meets with no refusal accepts every chunk, and leaves no finished record behind. -/
theorem run_writes (hv : s.assembler.Valid) (hs : d.session? id = some s)
    (hnot : s.assembler.terminator ∉ s.assembler.held) (chunks : List (List UInt8)) :
    ∃ rs s', d.Leads id s chunks.flatten rs (d.run (writes id chunks)).1 s'
        (events (d.run (writes id chunks)).2) ∧
      s.assembler.terminator ∉ s'.assembler.held ∧
      (d.run (writes id chunks)).2.map Entry.reply =
        chunks.map fun chunk => .number chunk.length := by
  induction chunks generalizing d s with
  | nil => exact ⟨[], s, .refl hv hs, hnot, rfl⟩
  | cons chunk chunks ih =>
    obtain ⟨rs, s', hstep, hreply, hnot'⟩ := step_write_clear hv hs hnot chunk
    have hterm : s'.assembler.terminator = s.assembler.terminator :=
      hstep.accounts.advances.terminator_eq
    obtain ⟨rs', s'', hrun, hlast, hreplies⟩ :=
      ih hstep.accounts.advances.valid hstep.session?_eq (hterm ▸ hnot')
    refine ⟨rs ++ rs', s'', hstep.trans hrun, hterm ▸ hlast, ?_⟩
    exact congrArg₂ List.cons hreply hreplies

/-- **Nothing remains of a refusal.** A session writes and flushes, and may be denied the lock and
refused memory anywhere; compare it with the run that writes the chunks it accepted and meets with
no refusal. Once a flush is done, the store, the buffered bytes and the position are those of that
run, the same records were put in, and flushing again changes nothing. Ending the session, with or
without that flush, leaves the same store as ending it in that run, after the same records; and
nothing but the remainder is given up. -/
theorem flush_recovers (hd : d.Reachable) (hs : d.session? id = some s)
    (hfinished : s.assembler.hasComplete = false) {calls : List (Call × Conditions)}
    (hcalls : ∀ x ∈ calls, x.1.Supplies id) :
    let faulty := d.run calls
    let chunks := acceptedChunks faulty.2
    let clean := d.run (writes id chunks)
    clean.2.map Entry.reply = chunks.map (fun chunk => .number chunk.length) ∧
      (faulty.1.step .clear (.flush id)).2.1 = .done ∧
      (∀ c d' es, faulty.1.step c (.flush id) = (d', .done, es) →
        d'.store = clean.1.store ∧
        (∃ s' s'', d'.session? id = some s' ∧ clean.1.session? id = some s'' ∧
          s'.assembler.pending? = s''.assembler.pending? ∧ s'.position = s''.position) ∧
        committedBy (events faulty.2 ++ es) = committedBy (events clean.2) ∧
        ∀ c', d'.step c' (.flush id) = (d', .done, [])) ∧
      (faulty.1.step .clear (.close id)).1.store = (clean.1.step .clear (.close id)).1.store ∧
      committedBy (events faulty.2 ++ (faulty.1.step .clear (.close id)).2.2) =
        committedBy (events clean.2 ++ (clean.1.step .clear (.close id)).2.2) ∧
      releasedBy (faulty.1.step .clear (.close id)).2.2 =
        concat (committedBy (faulty.1.step .clear (.close id)).2.2) ++
          remainder d.config.terminator (s.assembler.held ++ chunks.flatten) := by
  intro faulty chunks clean
  obtain ⟨hv, hterm⟩ := hd.valid id s hs
  have hnot : s.assembler.terminator ∉ s.assembler.held := by
    rw [← hv.hasComplete_iff, hfinished]
    exact nofun
  -- the two runs take in the same bytes, and that is all that is compared before their ends
  obtain ⟨rs, s₁, hfaulty⟩ := run_leads hv hs hcalls
  obtain ⟨rs', s₂, hclean, hnot', hreplies⟩ := run_writes hv hs hnot chunks
  have hv₁ : s₁.assembler.Valid := hfaulty.accounts.advances.valid
  have hterm₁ : s₁.assembler.terminator = s.assembler.terminator :=
    hfaulty.accounts.advances.terminator_eq
  refine ⟨hreplies, ?_, ?_, ?_⟩
  · obtain ⟨_, _, -, -, hdone⟩ := step_flush hv₁ hfaulty.session?_eq .clear
    exact hdone rfl
  · intro c d' es hstep
    obtain ⟨rs'', s₃, hflush, hdone, -⟩ := step_flush hv₁ hfaulty.session?_eq c
    have hentry : faulty.1.entry c (.flush id) = ⟨.flush id, c, .done, es⟩ := by
      rw [entry, hstep]
    rw [hentry, hstep] at hflush
    have hall := hfaulty.trans hflush
    rw [List.append_nil] at hall
    have hnot₃ : s.assembler.terminator ∉ s₃.assembler.held := by
      rw [← hterm₁]
      exact hdone (by rw [hentry])
    obtain ⟨hstore, hpending, hposition, hcommitted⟩ := hall.unique hclean hnot₃ hnot'
    refine ⟨hstore, ⟨s₃, s₂, hall.session?_eq, hclean.session?_eq, hpending, hposition⟩,
      hcommitted, fun c' => ?_⟩
    refine step_flush_of_notMem hall.accounts.advances.valid hall.session?_eq ?_ c'
    rw [hall.accounts.advances.terminator_eq]
    exact hnot₃
  · rw [← hterm]
    exact hfaulty.close_unique hclean

/-- Two records of a chunk are left buffered, and a chunk and a flush fail before they are put
in. -/
theorem flush_recovers_after_refusals :
    let calls : List (Call × Conditions) :=
      [(.write 0 [97, 10, 98, 10, 99, 10, 100], ⟨.granted, .refusing 3⟩),
        (.write 0 [101], ⟨.cancelled, .generous⟩), (.flush 0, ⟨.granted, .refusing 3⟩),
        (.write 0 [102, 10], ⟨.granted, .refusing 3⟩)]
    ∃ (d : Device 2) (s : Session), d.Reachable ∧ d.session? 0 = some s ∧
      s.assembler.hasComplete = false ∧ (∀ x ∈ calls, x.1.Supplies 0) ∧
      (d.run calls).1.store.toList.map Record.bytes = [[97, 10], [98, 10]] ∧
      ((d.run calls).1.step .clear (.flush 0)).1.store =
        (d.run (writes 0 [[97, 10, 98, 10, 99, 10, 100], [102, 10]])).1.store ∧
      ((d.run calls).1.step .clear (.flush 0)).1.store.toList.map Record.bytes =
        [[99, 10], [100, 102, 10]] := by
  intro calls
  let d : Device 2 := ((⟨.default, .empty, []⟩ : Device 2).run [(.open ⟨0⟩, .clear)]).1
  have hreachable : d.Reachable := ⟨.default, _, _, _, rfl, rfl⟩
  have hs : d.session? 0 = some (.new 10 ⟨0⟩) := rfl
  have hcalls : ∀ x ∈ calls, x.1.Supplies 0 := by
    simp [calls, Call.Supplies]
  have hchunks : acceptedChunks (d.run calls).2 = [[97, 10, 98, 10, 99, 10, 100], [102, 10]] := by
    cbv
  have hbefore : (d.run calls).1.store.toList.map Record.bytes = [[97, 10], [98, 10]] := by
    cbv
  have hafter : ((d.run calls).1.step .clear (.flush 0)).1.store.toList.map Record.bytes =
      [[99, 10], [100, 102, 10]] := by
    cbv
  obtain ⟨-, hdone, hflush, -⟩ := flush_recovers hreachable hs rfl hcalls
  rw [hchunks] at hflush
  -- nothing below is evaluated
  clear_value d
  obtain ⟨hstore, -⟩ := hflush .clear _ _ (Prod.ext rfl (Prod.ext hdone rfl))
  exact ⟨d, _, hreachable, hs, rfl, hcalls, hbefore, hstore, hafter⟩

end Device

end RecordRing
