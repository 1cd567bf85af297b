import RecordRing.Proofs.Session

/-!
# A call of a device as a call of one session

A call of a device is answered by the session that it names, or by the device itself. What a session
does with a call depends on the session and the store alone (`Session.respond`); the device then has
the session that is left and the store, and its other sessions are as they were. `Device.step_cases`
says all that a call of a device can do, so that a statement about every call is a statement about
`Session.respond`, and a few words about the calls that name no session.

Of an answer it is then enough to know what it moves (`Session.Answers`): which records reach the
store, and that each byte the session had or took in has left it or is still there. That the session
may have ended by then, or have given its bytes back to the caller, makes no difference to this.

## Main definitions

* `Call.session?` — the session that a call names
* `Response`, `Session.respond` — the answer of a session
* `Device.Entry.accepted`, `Device.Entry.released` — the bytes that a call takes in, and those that
  leave its session
* `Session.Answers` — what an answer moves
* `Device.Valid` — every session's assembler is valid, and has the device's terminator
* `Device.Reachable` — the devices that runs lead to

## Main results

* `Device.step_cases` — all that a call of a device can do
* `Device.session?_step_of_ne` — a call leaves the sessions alone that it does not name
* `Session.respond_accounts`, `Session.respond_answers` — what a session's answer moves
* `Device.Valid.step`, `Device.Valid.run` — the assemblers stay valid
-/

namespace RecordRing

variable {n : Nat}

/-- The session that a call names. -/
def Call.session? : Call → Option SessionId
  | .close id | .write id _ | .flush id | .read id _ | .seek id _ | .seekTo id _ | .abandon id =>
    some id
  | .open _ | .stats | .records | .contents | .shutdown => none

/-! ### Answers of a session -/

/-- What a call of a session leaves behind and answers. -/
structure Response (n : Nat) where
  /-- The session afterwards, or nothing if it has ended. -/
  next : Option Session
  /-- The store afterwards. -/
  store : Store n
  /-- The answer. -/
  reply : Reply
  /-- What happened, in order. -/
  events : List Event

/-- The outcome of a call as an answer. -/
def Outcome.response {α : Type} (o : Outcome n α) (answer : α → Reply) : Response n :=
  ⟨some o.session, o.store, .ofResult answer o.result, o.events⟩

/-- The answer of session `s` to a call. A call that names no session is none of its business. -/
def Session.respond (s : Session) (store : Store n) (c : Conditions) : Call → Response n
  | .close _ => ⟨none, (s.close store c).1, .done, (s.close store c).2⟩
  | .write _ chunk => (s.write store c chunk).response .number
  | .flush _ => (s.flush store c).response fun _ => .done
  | .read _ count => (s.read store c count).response .bytes
  | .seek _ origin => (s.seek store c origin).response .number
  | .seekTo _ target => (s.seekTo store c target).response .number
  | .abandon _ => ⟨some s.abandon.1, store, .abandoned s.abandon.2, []⟩
  | _ => ⟨some s, store, .absent, []⟩

/-! ### What an answer moves -/

/-- The bytes that a session holds, if it has not ended. -/
def heldBy (s? : Option Session) : List UInt8 := (s?.map fun s => s.assembler.held).getD []

namespace Device.Entry

/-- The chunk taken in, if the call was a write and was answered with a number. -/
def chunk? : Entry → Option (List UInt8)
  | ⟨.write _ chunk, _, .number _, _⟩ => some chunk
  | _ => none

/-- The bytes taken in. -/
def accepted (e : Entry) : List UInt8 := e.chunk?.getD []

/-- The bytes that a session gave back to its caller. -/
def givenBack : Entry → List UInt8
  | ⟨.abandon _, _, .abandoned bytes, _⟩ => bytes.getD []
  | _ => []

/-- The call as it was made, with what it met. -/
def request (e : Entry) : Call × Conditions := (e.call, e.conditions)

/-- The bytes that left a session: into the store, or because it ended, or back to its caller. -/
def released (e : Entry) : List UInt8 := releasedBy e.events ++ e.givenBack

end Device.Entry

/-- An answer as the log has it. -/
def Response.entry (r : Response n) (c : Conditions) (call : Call) : Device.Entry :=
  ⟨call, c, r.reply, r.events⟩

/-- The answer `r` to a call of `s` puts the records `rs` into the store, and loses no byte. -/
structure Session.Answers (s : Session) (store : Store n) (c : Conditions) (call : Call)
    (rs : List Record) (r : Response n) : Prop where
  /-- The assembler stays valid and keeps its terminator. -/
  valid : ∀ s', r.next = some s' →
    s'.assembler.Valid ∧ s'.assembler.terminator = s.assembler.terminator
  /-- Every record is a piece. -/
  isPiece : ∀ r ∈ rs, IsPiece s.assembler.terminator r.bytes
  /-- The store gets the records. -/
  commits : store.Commits rs r.store r.events
  /-- What the session had or took in has left it or is still there. -/
  released_append : (r.entry c call).released ++ heldBy r.next =
    s.assembler.held ++ (r.entry c call).accepted

namespace Session

variable {s s' : Session} {store : Store n} {c : Conditions} {call : Call} {rs : List Record}
  {r : Response n} {input : List UInt8}

/-- The answer of a session that goes on and gives nothing back. -/
theorem Accounts.answers (h : s.Accounts store input rs s' r.store r.events)
    (hnext : r.next = some s') (haccepted : (r.entry c call).accepted = input)
    (hback : (r.entry c call).givenBack = []) : s.Answers store c call rs r where
  valid := by
    intro s'' hs''
    obtain rfl : s' = s'' := Option.some.inj (hnext.symm.trans hs'')
    exact ⟨h.advances.valid, h.advances.terminator_eq⟩
  isPiece := h.advances.isPiece
  commits := h.commits
  released_append := by
    rw [Device.Entry.released, hback, List.append_nil, hnext, haccepted]
    exact (congrArg (· ++ s'.assembler.held) h.releasedBy_eq).trans h.advances.concat_append

theorem respond_close (hv : s.assembler.Valid) (store : Store n) (c : Conditions)
    (id : SessionId) : ∃ rs, s.Answers store c (.close id) rs (s.respond store c (.close id)) := by
  obtain ⟨rs, b, hadv, hcommits, hreleased, -⟩ := close_cases hv store c
  refine ⟨rs, fun _ h => absurd h nofun, hadv.isPiece, hcommits, ?_⟩
  show releasedBy (s.close store c).2 ++ [] ++ [] = s.assembler.held ++ []
  rw [hreleased, List.append_nil, List.append_nil]
  exact hadv.concat_append

/-- **A session that goes on has an account**, unless it gave its bytes back to its caller. -/
theorem respond_accounts (hv : s.assembler.Valid) (store : Store n) (c : Conditions)
    (hclose : ∀ id, call ≠ .close id) (habandon : ∀ id, call ≠ .abandon id) :
    ∃ rs s', (s.respond store c call).next = some s' ∧
      s.Accounts store ((s.respond store c call).entry c call).accepted rs s'
        (s.respond store c call).store (s.respond store c call).events ∧
      ((s.respond store c call).entry c call).givenBack = [] := by
  have hidle : s.Accounts store [] [] s store [] := .refl hv store rfl rfl
  cases call with
  | close id => exact absurd rfl (hclose id)
  | abandon id => exact absurd rfl (habandon id)
  | write id chunk =>
    rcases write_cases hv store c chunk with
      ⟨e, es, h, -, hall⟩ | ⟨rs, s', store', es, h, -, hall, -⟩ <;>
      rw [respond, h]
    · exact ⟨[], s, rfl, hall, rfl⟩
    · exact ⟨rs, s', rfl, hall, rfl⟩
  | flush id =>
    obtain ⟨⟨rs, hall⟩, -⟩ := flush_accounts hv store c
    exact ⟨rs, _, rfl, hall, rfl⟩
  | read id count => exact ⟨[], _, rfl, read_accounts hv store c count, rfl⟩
  | seek id origin => exact ⟨[], _, rfl, seek_accounts hv store c origin, rfl⟩
  | seekTo id target => exact ⟨[], _, rfl, seekTo_accounts hv store c target, rfl⟩
  | «open» _ | stats | records | contents | shutdown => exact ⟨[], s, rfl, hidle, rfl⟩

/-- **No answer loses a byte**, whatever the call met with. -/
theorem respond_answers (hv : s.assembler.Valid) (store : Store n) (c : Conditions)
    (call : Call) : ∃ rs, s.Answers store c call rs (s.respond store c call) := by
  by_cases hclose : ∃ id, call = .close id
  · obtain ⟨id, rfl⟩ := hclose
    exact respond_close hv store c id
  by_cases habandon : ∃ id, call = .abandon id
  · obtain ⟨id, rfl⟩ := habandon
    refine ⟨[], ?_, nofun, .refl store rfl, (List.append_nil _).trans (List.append_nil _).symm⟩
    intro s' hs'
    obtain rfl : s.abandon.1 = s' := Option.some.inj hs'
    exact ⟨Assembler.valid_of_scanned_eq_zero nofun rfl, rfl⟩
  obtain ⟨rs, s', hnext, hall, hback⟩ :=
    respond_accounts hv store c (not_exists.1 hclose) (not_exists.1 habandon)
  exact ⟨rs, hall.answers hnext rfl hback⟩

end Session

namespace Device

variable {d : Device n} {id : SessionId} {s : Session} {call : Call}

/-! ### Runs -/

/-- A call as the log has it. -/
def entry (d : Device n) (c : Conditions) (call : Call) : Entry :=
  ⟨call, c, (d.step c call).2.1, (d.step c call).2.2⟩

theorem run_cons (d : Device n) (call : Call) (c : Conditions) (calls : List (Call × Conditions)) :
    d.run ((call, c) :: calls) =
      (((d.step c call).1.run calls).1, d.entry c call :: ((d.step c call).1.run calls).2) := rfl

theorem run_append (d : Device n) (calls calls' : List (Call × Conditions)) :
    d.run (calls ++ calls') =
      (((d.run calls).1.run calls').1, (d.run calls).2 ++ ((d.run calls).1.run calls').2) := by
  induction calls generalizing d with
  | nil => rfl
  | cons x calls ih =>
    obtain ⟨call, c⟩ := x
    rw [List.cons_append, run_cons, ih, run_cons, List.cons_append]

theorem run_concat (d : Device n) (calls : List (Call × Conditions)) (call : Call)
    (c : Conditions) :
    d.run (calls ++ [(call, c)]) =
      (((d.run calls).1.step c call).1, (d.run calls).2 ++ [(d.run calls).1.entry c call]) := by
  rw [run_append]
  rfl

/-- The log of a run is of its calls, with what they met. -/
theorem map_request_run (d : Device n) (calls : List (Call × Conditions)) :
    (d.run calls).2.map Entry.request = calls := by
  induction calls generalizing d with
  | nil => rfl
  | cons x calls ih =>
    rw [run_cons, List.map_cons, ih]
    rfl

theorem map_call_run (d : Device n) (calls : List (Call × Conditions)) :
    (d.run calls).2.map Entry.call = calls.map Prod.fst := by
  conv_rhs => rw [← d.map_request_run calls, List.map_map]
  rfl

theorem length_run (d : Device n) (calls : List (Call × Conditions)) :
    (d.run calls).2.length = calls.length := by
  rw [← List.length_map Entry.request, map_request_run]

/-- **A call that names a session is answered by it.** -/
theorem step_of_session (hid : call.session? = some id) (hs : d.session? id = some s)
    (c : Conditions) :
    d.step c call =
      ({ d with
          store := (s.respond d.store c call).store
          sessions := d.sessions.set id (s.respond d.store c call).next },
        (s.respond d.store c call).reply, (s.respond d.store c call).events) := by
  cases call with
  | close _ | abandon _ =>
    obtain rfl : _ = id := Option.some.inj hid
    simp only [step, close, abandon, hs, Session.respond]
  | write _ _ | flush _ | read _ _ | seek _ _ | seekTo _ _ =>
    obtain rfl : _ = id := Option.some.inj hid
    simp only [step, answerSession, onSession, hs, Session.respond, Outcome.response,
      Reply.ofResult?]
  | «open» _ | stats | records | contents | shutdown => exact absurd hid (by simp [Call.session?])

theorem step_of_absent (hid : call.session? = some id) (hs : d.session? id = none)
    (c : Conditions) : d.step c call = (d, .absent, []) := by
  cases call with
  | close _ | abandon _ =>
    obtain rfl : _ = id := Option.some.inj hid
    simp only [step, hs]
  | write _ _ | flush _ | read _ _ | seek _ _ | seekTo _ _ =>
    obtain rfl : _ = id := Option.some.inj hid
    simp only [step, answerSession, onSession, hs, Reply.ofResult?]
  | «open» _ | stats | records | contents | shutdown => exact absurd hid (by simp [Call.session?])

theorem lt_length_of_session? (hs : d.session? id = some s) : id < d.sessions.length := by
  by_contra hge
  rw [session?, List.getElem?_eq_none (Nat.le_of_not_lt hge)] at hs
  exact absurd hs nofun

/-- The other sessions are as they were. -/
theorem session?_set (hs : d.session? id = some s) (store : Store n) (next : Option Session)
    (j : SessionId) :
    session? { d with store, sessions := d.sessions.set id next } j =
      if j = id then next else d.session? j := by
  have hlt : id < d.sessions.length := lt_length_of_session? hs
  rw [session?, List.getElem?_set]
  by_cases hj : id = j
  · rw [if_pos hj, if_pos hj.symm, if_pos hlt]; rfl
  · rw [if_neg hj, if_neg (Ne.symm hj)]; rfl

/-- A session that is as it was. -/
theorem sessions_set_self (hs : d.session? id = some s) :
    d.sessions.set id (some s) = d.sessions := by
  obtain ⟨hlt, hget⟩ := List.getElem?_eq_some_iff.1 (Option.join_eq_some_iff.1 hs)
  rw [← hget, List.set_getElem_self hlt]

/-- A session that is opened gets a number of its own. -/
theorem session?_openSession (d : Device n) (token : CancelToken) (j : SessionId) :
    (d.openSession token).1.session? j =
      if j = d.sessions.length then some (.new d.config.terminator token) else d.session? j := by
  rw [session?, openSession, List.getElem?_append]
  split
  · next hlt => rw [if_neg (Nat.ne_of_lt hlt)]; rfl
  · next hge =>
    split
    · next hj => rw [hj, Nat.sub_self]; rfl
    · next hj =>
      have hgt : d.sessions.length < j := Nat.lt_of_le_of_ne (Nat.le_of_not_lt hge) (Ne.symm hj)
      have hpast : j ≥ d.sessions.length := Nat.le_of_lt hgt
      have hpast' : j - d.sessions.length ≥ [some (Session.new d.config.terminator token)].length :=
        Nat.sub_pos_of_lt hgt
      rw [session?, List.getElem?_eq_none hpast, List.getElem?_eq_none hpast']

/-- **All that a call can do.** A session answers it, or is absent; a session is opened; the store
is emptied; or the device only says something. -/
theorem step_cases (d : Device n) (c : Conditions) (call : Call) :
    (∃ id s, call.session? = some id ∧ d.session? id = some s ∧
      d.step c call =
        ({ d with
            store := (s.respond d.store c call).store
            sessions := d.sessions.set id (s.respond d.store c call).next },
          (s.respond d.store c call).reply, (s.respond d.store c call).events)) ∨
    (∃ id, call.session? = some id ∧ d.session? id = none ∧ d.step c call = (d, .absent, [])) ∨
    (∃ token, call = .open token ∧
      d.step c call = ((d.openSession token).1, .opened d.sessions.length, [])) ∨
    (call = .shutdown ∧
      d.step c call =
        ({ d with store := d.store.teardown.1 }, .number d.store.teardown.2,
          [.tornDown d.store.teardown.2])) ∨
    (call.session? = none ∧ ∃ reply es, d.step c call = (d, reply, es) ∧
      es.filter Event.changesStore = [] ∧ (call = .shutdown → ∀ k, reply ≠ .number k)) := by
  cases hid : call.session? with
  | some id =>
    cases hs : d.session? id with
    | some s => exact .inl ⟨id, s, rfl, hs, step_of_session hid hs c⟩
    | none => exact .inr (.inl ⟨id, rfl, hs, step_of_absent hid hs c⟩)
  | none =>
    refine .inr (.inr ?_)
    obtain ⟨lock, memory⟩ := c
    cases call with
    | «open» token => exact .inl ⟨token, rfl, rfl⟩
    | shutdown =>
      cases lock with
      | granted => exact .inr (.inl ⟨rfl, rfl⟩)
      | cancelled => exact .inr (.inr ⟨rfl, _, _, rfl, rfl, fun _ _ => nofun⟩)
    | stats | records | contents =>
      cases lock <;> exact .inr (.inr ⟨rfl, _, _, rfl, rfl, nofun⟩)
    | close _ | write _ _ | flush _ | read _ _ | seek _ _ | seekTo _ _ | abandon _ =>
      exact absurd hid nofun

/-! ### Other sessions

A number that was given out is not given out again, so a session that has one is either as the last
call that named it left it, or has ended. -/

theorem length_sessions_step (d : Device n) (c : Conditions) (call : Call) :
    d.sessions.length ≤ (d.step c call).1.sessions.length := by
  rcases d.step_cases c call with
    ⟨j, s, -, -, h⟩ | ⟨j, -, -, h⟩ | ⟨token, -, h⟩ | ⟨-, h⟩ | ⟨-, reply, es, h, -⟩ <;> rw [h]
  · exact Nat.le_of_eq List.length_set.symm
  · rw [openSession, List.length_append]
    omega

theorem length_sessions_run (d : Device n) (calls : List (Call × Conditions)) :
    d.sessions.length ≤ (d.run calls).1.sessions.length := by
  induction calls generalizing d with
  | nil => exact Nat.le_refl _
  | cons x calls ih => exact Nat.le_trans (d.length_sessions_step x.2 x.1) (ih _)

/-- **A call leaves every session alone that it does not name.** -/
theorem session?_step_of_ne (c : Conditions) (hne : call.session? ≠ some id)
    (hlt : id < d.sessions.length) : (d.step c call).1.session? id = d.session? id := by
  rcases d.step_cases c call with
    ⟨j, s, hj, hs, h⟩ | ⟨j, -, -, h⟩ | ⟨token, -, h⟩ | ⟨-, h⟩ | ⟨-, reply, es, h, -⟩ <;> rw [h]
  · rw [session?_set hs, if_neg]
    rintro rfl
    exact hne hj
  · rw [session?_openSession, if_neg (Nat.ne_of_lt hlt)]
  · rfl

/-- A session that is there after a call was there before, or its number is new. -/
theorem exists_session?_of_step {c : Conditions} {s' : Session} (hlt : id < d.sessions.length)
    (hs' : (d.step c call).1.session? id = some s') : ∃ s, d.session? id = some s := by
  by_cases hid : call.session? = some id
  · cases hs : d.session? id with
    | some s => exact ⟨s, rfl⟩
    | none =>
      rw [step_of_absent hid hs] at hs'
      exact absurd (hs.symm.trans hs') nofun
  · rw [session?_step_of_ne c hid hlt] at hs'
    exact ⟨s', hs'⟩

/-! ### Valid devices -/

/-- Every session's assembler is valid, and has the device's terminator. -/
def Valid (d : Device n) : Prop :=
  ∀ id s, d.session? id = some s →
    s.assembler.Valid ∧ s.assembler.terminator = d.config.terminator

theorem new_eq {config : Config} {created : List Event} (h : new n config = .ok (d, created)) :
    d = ⟨config, .empty, []⟩ ∧ created = [.created n config.terminator] := by
  rw [new] at h
  split at h
  · exact absurd h nofun
  · obtain ⟨rfl, rfl⟩ := Prod.mk.inj (Except.ok.inj h)
    exact ⟨rfl, rfl⟩

theorem valid_of_sessions_eq_nil (h : d.sessions = []) : d.Valid := by
  intro id s hs
  rw [session?, h] at hs
  exact absurd hs nofun

theorem Valid.step (hv : d.Valid) (c : Conditions) (call : Call) : (d.step c call).1.Valid := by
  rcases d.step_cases c call with
    ⟨id, s, hid, hs, h⟩ | ⟨id, -, -, h⟩ | ⟨token, -, h⟩ | ⟨-, h⟩ | ⟨-, reply, es, h, -⟩ <;> rw [h]
  · obtain ⟨hsv, hterm⟩ := hv id s hs
    obtain ⟨rs, hr⟩ := Session.respond_answers hsv d.store c call
    intro j s' hs'
    rw [session?_set hs] at hs'
    split at hs'
    · obtain ⟨hv', hterm'⟩ := hr.valid s' hs'
      exact ⟨hv', hterm'.trans hterm⟩
    · exact hv j s' hs'
  · exact hv
  · intro j s' hs'
    rw [session?_openSession] at hs'
    split at hs'
    · obtain rfl : Session.new d.config.terminator token = s' := Option.some.inj hs'
      exact ⟨Assembler.valid_new _, rfl⟩
    · exact hv j s' hs'
  · exact hv
  · exact hv

theorem Valid.run (hv : d.Valid) (calls : List (Call × Conditions)) : (d.run calls).1.Valid := by
  induction calls generalizing d with
  | nil => exact hv
  | cons x calls ih => exact ih (hv.step x.2 x.1)

/-! ### Reachable devices -/

/-- Some run of a new device leads to `d`. -/
def Reachable (d : Device n) : Prop :=
  ∃ config d₀ created calls, new n config = .ok (d₀, created) ∧ d = (d₀.run calls).1

/-- What new devices have and every call preserves, all reachable devices have. -/
theorem Reachable.preserves {P : Device n → Prop} (h : d.Reachable)
    (hnew : ∀ config, P ⟨config, .empty, []⟩)
    (hstep : ∀ (d : Device n) c call, P d → P (d.step c call).1) : P d := by
  obtain ⟨config, d₀, created, calls, hd, rfl⟩ := h
  obtain ⟨rfl, -⟩ := new_eq hd
  have hrun (d : Device n) (hd : P d) : P (d.run calls).1 := by
    induction calls generalizing d with
    | nil => exact hd
    | cons x calls ih => exact ih _ (hstep d x.2 x.1 hd)
  exact hrun _ (hnew config)

theorem Reachable.valid (h : d.Reachable) : d.Valid :=
  h.preserves (fun _ => valid_of_sessions_eq_nil rfl) fun _ c call hv => hv.step c call

end Device

end RecordRing
