import RecordRing.Proofs.Recovery

/-!
# Sessions that write at the same time

Sessions that share a store are told apart by nothing but their numbers, and each has buffered the
beginning of a record while others put theirs in. Yet what a session puts in depends on its own
chunks alone: they are cut as if it were the only one, and its records reach the store in their
order. The others decide only what stands between the records of one chunk and those of the next.

A run of such sessions is any order of their calls in which those of each session are in theirs
(`Interleaves`). So the calls of one session may be looked at as a list of its own, as long as it is
shown that a call of another session leaves it as it was.

## Main definitions

* `script`, `Interleaves` — what each session does, and the runs of all of them
* `unhindered` — calls that meet with no refusal
* `Device.committedOf` — the records that a session put in

## Main results

* `Device.run_writes_among` — the writes of a session, among calls of others
* `Interleaves.write_split`, `Interleaves.close_split` — where a call of a session stands in a run
* `Device.committedBy_eq_sum` — all records that were put in, session by session
* `Device.run_interleaving` — sessions do not depend on each other
-/

namespace RecordRing

variable {n : Nat}

/-! ### Runs of many sessions -/

/-- Calls that meet with no refusal. -/
def unhindered (calls : List Call) : List (Call × Conditions) := calls.map (·, .clear)

/-- What one session does: it writes its chunks, and ends. -/
def script (id : SessionId) (chunks : List (List UInt8)) : List Call :=
  chunks.map (.write id) ++ [.close id]

/-- The calls of one session. -/
def callsOf (id : SessionId) (calls : List Call) : List Call :=
  calls.filter fun call => call.session? == some id

/-- Sessions `0` to `m - 1` write their chunks and end, in any interleaving. -/
structure Interleaves (m : Nat) (chunks : SessionId → List (List UInt8)) (calls : List Call) :
    Prop where
  /-- There are no other calls. -/
  session_lt : ∀ call ∈ calls, ∃ id, call.session? = some id ∧ id < m
  /-- The calls of a session are in their order. -/
  callsOf_eq : ∀ id, id < m → callsOf id calls = script id (chunks id)

variable {m : Nat} {chunks : SessionId → List (List UInt8)} {calls before after : List Call}
  {call : Call} {id : SessionId} {chunk : List UInt8}

theorem callsOf_append (id : SessionId) (calls calls' : List Call) :
    callsOf id (calls ++ calls') = callsOf id calls ++ callsOf id calls' := List.filter_append ..

theorem callsOf_cons_of_eq (h : call.session? = some id) (calls : List Call) :
    callsOf id (call :: calls) = call :: callsOf id calls :=
  List.filter_cons_of_pos (beq_iff_eq.2 h)

theorem callsOf_cons_of_ne (h : call.session? ≠ some id) (calls : List Call) :
    callsOf id (call :: calls) = callsOf id calls :=
  List.filter_cons_of_neg fun heq => h (beq_iff_eq.1 heq)

/-- Before the end of a script there are only writes, and nothing comes behind it. -/
theorem eq_of_append_close_eq_script {xs ys : List Call} {bs : List (List UInt8)}
    (h : xs ++ .close id :: ys = script id bs) : xs = bs.map (.write id) ∧ ys = [] := by
  rcases List.eq_nil_or_concat ys with rfl | ⟨ys, last, rfl⟩
  · exact ⟨(List.append_inj' h rfl).1, rfl⟩
  · rw [List.concat_eq_append, ← List.cons_append, ← List.append_assoc] at h
    obtain ⟨hwrites, -⟩ := List.append_inj' h rfl
    have hmem : Call.close id ∈ bs.map (Call.write id) := by
      rw [← hwrites]
      simp
    obtain ⟨_, -, hwrite⟩ := List.mem_map.1 hmem
    exact absurd hwrite nofun

theorem eq_of_append_write_eq_script {xs ys : List Call} {bs : List (List UInt8)}
    (h : xs ++ .write id chunk :: ys = script id bs) :
    ∃ earlier later, bs = earlier ++ chunk :: later ∧ xs = earlier.map (.write id) := by
  rcases List.eq_nil_or_concat ys with rfl | ⟨ys, last, rfl⟩
  · obtain ⟨-, hlast⟩ := List.append_inj' h rfl
    exact absurd hlast (by simp)
  · rw [List.concat_eq_append, ← List.cons_append, ← List.append_assoc] at h
    obtain ⟨hwrites, -⟩ := List.append_inj' h rfl
    obtain ⟨earlier, rest, rfl, hearlier, hrest⟩ := List.map_eq_append_iff.1 hwrites.symm
    obtain ⟨b, later, rfl, hb, -⟩ := List.map_eq_cons_iff.1 hrest
    obtain ⟨-, rfl⟩ := Call.write.inj hb
    exact ⟨earlier, later, rfl, hearlier.symm⟩

/-- Where a session writes, it wrote the chunks that come before. -/
theorem Interleaves.write_split (h : Interleaves m chunks calls)
    (hcalls : calls = before ++ .write id chunk :: after) :
    id < m ∧ ∃ earlier later, chunks id = earlier ++ chunk :: later ∧
      callsOf id before = earlier.map (.write id) := by
  obtain ⟨j, hj, hlt⟩ := h.session_lt (.write id chunk) (by simp [hcalls])
  obtain rfl : id = j := Option.some.inj hj
  have hscript := h.callsOf_eq id hlt
  rw [hcalls, callsOf_append, callsOf_cons_of_eq rfl] at hscript
  exact ⟨hlt, eq_of_append_write_eq_script hscript⟩

/-- Where a session ends, it wrote all its chunks, and it does nothing behind that. -/
theorem Interleaves.close_split (h : Interleaves m chunks calls)
    (hcalls : calls = before ++ .close id :: after) :
    id < m ∧ callsOf id before = (chunks id).map (.write id) ∧ callsOf id after = [] := by
  obtain ⟨j, hj, hlt⟩ := h.session_lt (.close id) (by simp [hcalls])
  obtain rfl : id = j := Option.some.inj hj
  have hscript := h.callsOf_eq id hlt
  rw [hcalls, callsOf_append, callsOf_cons_of_eq rfl] at hscript
  exact ⟨hlt, eq_of_append_close_eq_script hscript⟩

theorem Interleaves.ne_shutdown (h : Interleaves m chunks calls) :
    ∀ x ∈ unhindered calls, x.1 ≠ .shutdown := by
  intro x hx hdown
  obtain ⟨call, hcall, rfl⟩ := List.mem_map.1 hx
  obtain ⟨id, hid, -⟩ := h.session_lt call hcall
  rw [show call = .shutdown from hdown] at hid
  exact absurd hid nofun

/-- Every session ends. -/
theorem Interleaves.exists_close (h : Interleaves m chunks calls) (hlt : id < m) :
    ∃ before after, calls = before ++ .close id :: after := by
  have hmem : Call.close id ∈ callsOf id calls := by
    rw [h.callsOf_eq id hlt, script]
    simp
  exact List.append_of_mem (List.mem_filter.1 hmem).1

namespace Device

/-! ### The records of a session -/

/-- The records that session `id` put in, in their order. -/
def committedOf (id : SessionId) (log : List Entry) : List Record :=
  committedBy (events (entriesOf id log))

variable {d d' : Device n} {s s' : Session} {e : Entry} {log : List Entry}

theorem committedOf_append (id : SessionId) (log log' : List Entry) :
    committedOf id (log ++ log') = committedOf id log ++ committedOf id log' := by
  rw [committedOf, entriesOf, List.filter_append, events_append, committedBy_append, committedOf,
    committedOf, entriesOf, entriesOf]

theorem committedOf_cons_of_eq (h : e.call.session? = some id) (log : List Entry) :
    committedOf id (e :: log) = committedBy e.events ++ committedOf id log := by
  rw [committedOf, entriesOf_cons_of_eq h, events, List.flatMap_cons, committedBy_append,
    committedOf, events]

theorem committedOf_cons_of_ne (h : e.call.session? ≠ some id) (log : List Entry) :
    committedOf id (e :: log) = committedOf id log := by
  rw [committedOf, entriesOf_cons_of_ne h, committedOf]

theorem committedBy_events_cons (e : Entry) (log : List Entry) :
    committedBy (events (e :: log)) = committedBy e.events ++ committedBy (events log) := by
  rw [events, List.flatMap_cons, committedBy_append, events]

/-- A session's records are put in in the order of the session. -/
theorem committedOf_sublist (id : SessionId) (log : List Entry) :
    (committedOf id log).Sublist (committedBy (events log)) := by
  induction log with
  | nil => exact List.Sublist.slnil
  | cons e log ih =>
    rw [committedBy_events_cons]
    by_cases h : e.call.session? = some id
    · rw [committedOf_cons_of_eq h]
      exact (List.Sublist.refl _).append ih
    · rw [committedOf_cons_of_ne h]
      exact ih.trans (List.sublist_append_right _ _)

/-- **All records, session by session.** Where only sessions `0` to `m - 1` are called, every record
that was put in is of one of them. -/
theorem committedBy_eq_sum (h : ∀ e ∈ log, ∃ id, e.call.session? = some id ∧ id < m) :
    (committedBy (events log) : Multiset Record) =
      ∑ id ∈ Finset.range m, (committedOf id log : Multiset Record) := by
  induction log with
  | nil => exact (Finset.sum_eq_zero fun _ _ => rfl).symm
  | cons e log ih =>
    obtain ⟨⟨id, hid, hlt⟩, hrest⟩ := List.forall_mem_cons.1 h
    have hsplit : ∀ j, (committedOf j (e :: log) : Multiset Record) =
        (if j = id then ↑(committedBy e.events) else 0) + ↑(committedOf j log) := by
      intro j
      by_cases hj : j = id
      · rw [if_pos hj, committedOf_cons_of_eq (hj ▸ hid), ← Multiset.coe_add]
      · have hne : e.call.session? ≠ some j := by
          rw [hid]
          exact fun heq => hj (Option.some.inj heq).symm
        rw [if_neg hj, committedOf_cons_of_ne hne, zero_add]
    calc (committedBy (events (e :: log)) : Multiset Record)
        = ↑(committedBy e.events) + ↑(committedBy (events log)) := by
          rw [committedBy_events_cons, ← Multiset.coe_add]
      _ = (∑ j ∈ Finset.range m, if j = id then ↑(committedBy e.events) else 0) +
            ∑ j ∈ Finset.range m, ↑(committedOf j log) := by
          rw [Finset.sum_ite_eq', if_pos (Finset.mem_range.2 hlt), ih hrest]
      _ = ∑ j ∈ Finset.range m, ↑(committedOf j (e :: log)) := by
          rw [← Finset.sum_add_distrib]
          exact Finset.sum_congr rfl fun j _ => (hsplit j).symm

/-! ### Runs -/

theorem mem_of_mem_run {e : Entry} (he : e ∈ (d.run (unhindered calls)).2) : e.call ∈ calls := by
  have hmem : e.call ∈ (d.run (unhindered calls)).2.map Entry.call := List.mem_map_of_mem he
  rw [map_call_run, unhindered, List.map_map] at hmem
  simpa using hmem

/-- All records of an interleaving, session by session. -/
theorem committedBy_run_eq_sum (d : Device n) (hcalls : Interleaves m chunks calls) :
    (committedBy (events (d.run (unhindered calls)).2) : Multiset Record) =
      ∑ id ∈ Finset.range m, (committedOf id (d.run (unhindered calls)).2 : Multiset Record) :=
  committedBy_eq_sum fun e he => hcalls.session_lt e.call (mem_of_mem_run he)

theorem entriesOf_run_eq_nil (d : Device n) (h : callsOf id calls = []) :
    entriesOf id (d.run (unhindered calls)).2 = [] := by
  rw [entriesOf, List.filter_eq_nil_iff]
  intro e he hid
  exact List.filter_eq_nil_iff.1 h e.call (mem_of_mem_run he) hid

/-- **The writes of a session, among calls of others.** The session takes in its own chunks and puts
in their pieces, and leaves no finished record behind. -/
theorem run_writes_among (hv : s.assembler.Valid) (hs : d.session? id = some s)
    (hnot : s.assembler.terminator ∉ s.assembler.held) {bs : List (List UInt8)}
    (hcalls : callsOf id calls = bs.map (.write id)) :
    ∃ s', (d.run (unhindered calls)).1.session? id = some s' ∧
      s.assembler.Advances bs.flatten (committedOf id (d.run (unhindered calls)).2) s'.assembler ∧
      s'.position = s.position + bs.flatten.length ∧
      s.assembler.terminator ∉ s'.assembler.held := by
  induction calls generalizing d s bs with
  | nil =>
    obtain rfl : bs = [] := List.map_eq_nil_iff.1 hcalls.symm
    exact ⟨s, hs, .refl hv, rfl, hnot⟩
  | cons call calls ih =>
    rw [unhindered, List.map_cons, ← unhindered, run_cons]
    by_cases hid : call.session? = some id
    · rw [callsOf_cons_of_eq hid] at hcalls
      obtain ⟨chunk, bs, rfl, rfl, hrest⟩ := List.map_eq_cons_iff.1 hcalls.symm
      obtain ⟨rs, s₁, hstep, -, hnot₁⟩ := step_write_clear hv hs hnot chunk
      have hadv : s.assembler.Advances chunk rs s₁.assembler := hstep.accounts.advances
      obtain ⟨s', hs', hadv', hposition, hnot'⟩ :=
        ih hadv.valid hstep.session?_eq (hadv.terminator_eq ▸ hnot₁) hrest.symm
      refine ⟨s', hs', ?_, ?_, hadv.terminator_eq ▸ hnot'⟩
      · rw [committedOf_cons_of_eq rfl, hstep.accounts.commits.committedBy_eq, List.flatten_cons]
        exact hadv.trans hadv'
      · rw [hposition, hstep.position_eq, List.flatten_cons, List.length_append, Nat.add_assoc]
    · rw [callsOf_cons_of_ne hid] at hcalls
      have hsame : (d.step .clear call).1.session? id = some s := by
        rw [session?_step_of_ne .clear hid (lt_length_of_session? hs), hs]
      rw [committedOf_cons_of_ne hid]
      exact ih hv hsame hnot hcalls

/-- A session that ends where no finished record is buffered puts nothing in. -/
theorem committedBy_close (hv : s.assembler.Valid) (hs : d.session? id = some s)
    (hnot : s.assembler.terminator ∉ s.assembler.held) (c : Conditions) :
    committedBy (d.entry c (.close id)).events = [] := by
  rw [entry, step_of_session rfl hs, Session.respond, Session.close_of_notMem hv hnot]
  cases s.assembler.pending? <;> rfl

/-- Sessions that are opened on a device without any. -/
theorem run_open (config : Config) (tokens : List CancelToken) (store : Store n)
    (sessions : List (Option Session)) :
    ((⟨config, store, sessions⟩ : Device n).run (unhindered (tokens.map .open))).1 =
      ⟨config, store, sessions ++ tokens.map fun token => some (.new config.terminator token)⟩ := by
  induction tokens generalizing sessions with
  | nil => exact congrArg (Device.mk config store) (List.append_nil sessions).symm
  | cons token tokens ih =>
    rw [List.map_cons, unhindered, List.map_cons, ← unhindered, run_cons]
    refine (ih (sessions ++ [some (.new config.terminator token)])).trans ?_
    rw [List.append_assoc, List.map_cons, List.singleton_append]

/-- A run of an interleaving is the run up to one of its calls, this call, and the rest. -/
theorem run_unhindered_split (d : Device n) (before after : List Call) (call : Call) :
    (d.run (unhindered (before ++ call :: after))).2 =
      (d.run (unhindered before)).2 ++
        (d.run (unhindered before)).1.entry .clear call ::
          (((d.run (unhindered before)).1.step .clear call).1.run (unhindered after)).2 := by
  rw [unhindered, List.map_append, List.map_cons, run_append, ← unhindered, ← unhindered, run_cons]

section Interleaving

variable {t : UInt8} {token : CancelToken} {calls' : List Call}

/-- So a session that is new has put in the pieces of what it wrote, has the remainder buffered, and
is behind all of it. -/
theorem run_new_writes (hs : d.session? id = some (.new t token)) {bs : List (List UInt8)}
    (hcalls : callsOf id calls = bs.map (.write id)) :
    ∃ s, (d.run (unhindered calls)).1.session? id = some s ∧ s.assembler.Valid ∧
      s.assembler.terminator = t ∧ s.assembler.held = remainder t bs.flatten ∧
      s.assembler.terminator ∉ s.assembler.held ∧ s.position = bs.flatten.length ∧
      (committedOf id (d.run (unhindered calls)).2).map Record.bytes = pieces t bs.flatten := by
  obtain ⟨s, hs', hadv, hposition, hnot⟩ :=
    run_writes_among (Assembler.valid_new t) hs List.not_mem_nil hcalls
  have hcut := hadv.isCut hnot
  have hterm : s.assembler.terminator = t := hadv.terminator_eq
  exact ⟨s, hs', hadv.valid, hterm, hcut.eq_remainder, hterm.symm ▸ hnot,
    hposition.trans (Nat.zero_add _), hcut.eq_pieces⟩

/-- **A session does not depend on the others.** It puts in the pieces of its own chunks, and just
before it ends, its position is at the end of them. -/
theorem run_script (hcalls : Interleaves m chunks calls)
    (hs : d.session? id = some (.new t token)) (hlt : id < m) :
    (committedOf id (d.run (unhindered calls)).2).map Record.bytes = pieces t (chunks id).flatten ∧
      ∀ before after, calls = before ++ .close id :: after →
        ∃ s, (d.run (unhindered before)).1.session? id = some s ∧
          s.position = (chunks id).flatten.length := by
  refine ⟨?_, fun before after hsplit => ?_⟩
  · obtain ⟨before, after, hsplit⟩ := hcalls.exists_close hlt
    obtain ⟨-, hwrites, hafter⟩ := hcalls.close_split hsplit
    obtain ⟨s, hs', hv, -, -, hnot, -, hbytes⟩ := run_new_writes hs hwrites
    have hlast : committedOf id (((d.run (unhindered before)).1.step .clear (.close id)).1.run
        (unhindered after)).2 = [] := by
      rw [committedOf, entriesOf_run_eq_nil _ hafter]
      rfl
    rw [hsplit, run_unhindered_split, committedOf_append, committedOf_cons_of_eq rfl,
      committedBy_close hv hs' hnot .clear, hlast, List.append_nil, List.append_nil, hbytes]
  · obtain ⟨-, hwrites, -⟩ := hcalls.close_split hsplit
    obtain ⟨s, hs', -, -, -, -, hposition, -⟩ := run_new_writes hs hwrites
    exact ⟨s, hs', hposition⟩

/-- **The records of one write stand together**: they are those that its chunk completes after the
earlier chunks of its session, and nothing comes between them. -/
theorem run_write_adjacent (hcalls : Interleaves m chunks calls)
    (hs : d.session? id = some (.new t token))
    (hsplit : calls = before ++ .write id chunk :: after) :
    ∃ earlier later rs rest, chunks id = earlier ++ chunk :: later ∧
      callsOf id before = earlier.map (.write id) ∧
      committedBy ((d.run (unhindered before)).1.entry .clear (.write id chunk)).events = rs ∧
      rs.map Record.bytes = pieces t (remainder t earlier.flatten ++ chunk) ∧
      committedBy (events (d.run (unhindered calls)).2) =
        committedBy (events (d.run (unhindered before)).2) ++ rs ++ rest := by
  obtain ⟨-, earlier, later, hchunks, hearlier⟩ := hcalls.write_split hsplit
  obtain ⟨s, hs', hv, hterm, hheld, hnot, -⟩ := run_new_writes hs hearlier
  obtain ⟨rs, s₁, hstep, -, hnot₁⟩ := step_write_clear hv hs' hnot chunk
  have hcut := hstep.accounts.advances.isCut hnot₁
  have hrs := hstep.accounts.commits.committedBy_eq
  let rest := (((d.run (unhindered before)).1.step .clear (.write id chunk)).1.run
    (unhindered after)).2
  refine ⟨earlier, later, rs, committedBy (events rest), hchunks, hearlier, hrs, ?_, ?_⟩
  · rw [hcut.eq_pieces, hterm, hheld]
  · rw [hsplit, run_unhindered_split, events_append, committedBy_append, committedBy_events_cons,
      hrs, ← List.append_assoc]

/-- **The order does not matter for what is put in**, up to order. -/
theorem run_committed_perm (hcalls : Interleaves m chunks calls)
    (hcalls' : Interleaves m chunks calls')
    (hs : ∀ id, id < m → ∃ token, d.session? id = some (.new t token)) :
    (committedBy (events (d.run (unhindered calls')).2) : Multiset Record) =
      committedBy (events (d.run (unhindered calls)).2) := by
  rw [committedBy_run_eq_sum d hcalls, committedBy_run_eq_sum d hcalls']
  refine Finset.sum_congr rfl fun id hid => congrArg _ ?_
  have hlt : id < m := Finset.mem_range.1 hid
  obtain ⟨token, hnew⟩ := hs id hlt
  obtain ⟨hbytes, -⟩ := run_script hcalls hnew hlt
  obtain ⟨hbytes', -⟩ := run_script hcalls' hnew hlt
  exact (List.map_inj_right fun _ _ => Record.eq_iff_bytes_eq.2).1 (hbytes'.trans hbytes.symm)

end Interleaving

/-- **Sessions do not depend on each other.** Any number of sessions of a new device write their
chunks and end, in any interleaving, and nothing is refused. Each puts in the pieces of its own
chunks, in their order, and just before its end its position is that of all its bytes. The records
of one write stand together. The store has the last `n` of all records; so if there are no more, the
same records are retained whatever the interleaving. -/
theorem run_interleaving (hn : 0 < n) {config : Config} {created : List Event}
    (h : new n config = .ok (d, created)) {tokens : List CancelToken}
    (hcalls : Interleaves tokens.length chunks calls) :
    let opened := (d.run (unhindered (tokens.map .open))).1
    let log := (opened.run (unhindered calls)).2
    let committed := committedBy (events log)
    (∀ id, id < tokens.length →
      (committedOf id log).map Record.bytes = pieces config.terminator (chunks id).flatten ∧
      (committedOf id log).Sublist committed ∧
      ∀ before after, calls = before ++ .close id :: after →
        ∃ s, (opened.run (unhindered before)).1.session? id = some s ∧
          s.position = (chunks id).flatten.length) ∧
      (∀ before id chunk after, calls = before ++ .write id chunk :: after →
        ∃ earlier later rs rest, chunks id = earlier ++ chunk :: later ∧
          callsOf id before = earlier.map (.write id) ∧
          committedBy
            ((opened.run (unhindered before)).1.entry .clear (.write id chunk)).events = rs ∧
          rs.map Record.bytes =
            pieces config.terminator (remainder config.terminator earlier.flatten ++ chunk) ∧
          committed = committedBy (events (opened.run (unhindered before)).2) ++ rs ++ rest) ∧
      (committed : Multiset Record) =
        ∑ id ∈ Finset.range tokens.length, (committedOf id log : Multiset Record) ∧
      (opened.run (unhindered calls)).1.store.toList = committed.rtake n ∧
      ∀ calls', Interleaves tokens.length chunks calls' → committed.length ≤ n →
        ((opened.run (unhindered calls')).1.store.toList : Multiset Record) =
          (opened.run (unhindered calls)).1.store.toList := by
  intro opened log committed
  obtain ⟨rfl, -⟩ := new_eq h
  have hopened : opened = ⟨config, .empty, tokens.map fun token =>
      some (.new config.terminator token)⟩ := run_open config tokens .empty []
  have hsession : ∀ id, id < tokens.length →
      ∃ token, opened.session? id = some (.new config.terminator token) := by
    intro id hlt
    exact ⟨tokens[id], by simp [hopened, session?, hlt]⟩
  have hv : opened.Valid := (valid_of_sessions_eq_nil rfl).run _
  have hempty : opened.store.Retains [] := by
    rw [hopened]
    exact Store.retains_empty hn
  have hretained : ∀ {calls}, Interleaves tokens.length chunks calls →
      (opened.run (unhindered calls)).1.store.toList =
        (committedBy (events (opened.run (unhindered calls)).2)).rtake n := fun hcalls =>
    (hv.retains_run hempty hcalls.ne_shutdown).holds.toList_eq
  refine ⟨fun id hlt => ?_, fun before id chunk after hsplit => ?_,
    committedBy_run_eq_sum opened hcalls, hretained hcalls, fun calls' hcalls' hfew => ?_⟩
  · obtain ⟨token, hs⟩ := hsession id hlt
    obtain ⟨hbytes, hposition⟩ := run_script hcalls hs hlt
    exact ⟨hbytes, committedOf_sublist id log, hposition⟩
  · obtain ⟨hlt, -⟩ := hcalls.write_split hsplit
    obtain ⟨token, hs⟩ := hsession id hlt
    exact run_write_adjacent hcalls hs hsplit
  · have hperm := run_committed_perm hcalls hcalls' hsession
    have hfew' : (committedBy (events (opened.run (unhindered calls')).2)).length ≤ n :=
      (Multiset.coe_eq_coe.1 hperm).length_eq.symm ▸ hfew
    rw [hretained hcalls, hretained hcalls', rtake_of_length_le hfew, rtake_of_length_le hfew']
    exact hperm

/-- Two sessions, in two interleavings. One session has put in a record while the other has only the
beginning of one. -/
theorem run_interleaving_two_sessions :
    let chunks : SessionId → List (List UInt8) :=
      fun id => if id = 0 then [[97], [98, 10]] else [[99, 10, 100, 10, 101]]
    let calls : List Call :=
      [.write 0 [97], .write 1 [99, 10, 100, 10, 101], .close 1, .write 0 [98, 10], .close 0]
    let calls' : List Call :=
      [.write 0 [97], .write 0 [98, 10], .close 0, .write 1 [99, 10, 100, 10, 101], .close 1]
    ∃ d opened : Device 3, 0 < 3 ∧ new 3 .default = .ok (d, [.created 3 10]) ∧
      opened = (d.run (unhindered ([⟨0⟩, ⟨1⟩].map .open))).1 ∧
      Interleaves 2 chunks calls ∧ Interleaves 2 chunks calls' ∧
      (committedOf 0 (opened.run (unhindered calls)).2).map Record.bytes = [[97, 98, 10]] ∧
      (committedOf 1 (opened.run (unhindered calls)).2).map Record.bytes =
        [[99, 10], [100, 10]] ∧
      ((opened.run (unhindered calls)).1.store.toList.map Record.bytes =
        [[99, 10], [100, 10], [97, 98, 10]]) ∧
      ((opened.run (unhindered calls')).1.store.toList : Multiset Record) =
        (opened.run (unhindered calls)).1.store.toList := by
  intro chunks calls calls'
  let d : Device 3 := ⟨.default, .empty, []⟩
  have hnew : new 3 .default = .ok (d, [.created 3 10]) := rfl
  have hcalls : Interleaves 2 chunks calls := by
    refine ⟨by simp [calls, Call.session?], fun id hid => ?_⟩
    interval_cases id <;> rfl
  have hcalls' : Interleaves 2 chunks calls' := by
    refine ⟨by simp [calls', Call.session?], fun id hid => ?_⟩
    interval_cases id <;> rfl
  let opened : Device 3 := (d.run (unhindered ([⟨0⟩, ⟨1⟩].map .open))).1
  have hfew : (committedBy (events (opened.run (unhindered calls)).2)).length ≤ 3 := by cbv
  have hstore : (opened.run (unhindered calls)).1.store.toList.map Record.bytes =
      [[99, 10], [100, 10], [97, 98, 10]] := by
    cbv
  obtain ⟨hown, -, -, -, hsame⟩ :=
    run_interleaving (by decide) hnew (show Interleaves [⟨0⟩, ⟨1⟩].length chunks calls from hcalls)
  exact ⟨d, opened, by decide, hnew, rfl, hcalls, hcalls', (hown 0 (by decide)).1,
    (hown 1 (by decide)).1, hstore, hsame calls' hcalls' hfew⟩

end Device

end RecordRing
