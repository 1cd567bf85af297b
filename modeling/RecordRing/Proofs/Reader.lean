import RecordRing.Proofs.Accounting
import RecordRing.Proofs.Reading

/-!
# Readers against evicting writers

A position counts from the oldest retained record on, and this record is evicted whenever a writer
needs its slot. What a reader gets is therefore told of the *stream*, the bytes of all records that
were ever put in. Some of its bytes were *lost* to evictions, and these are the first ones; the
store has the others. So position `p` is the place `lost + p` of the stream.

A record that is put in changes neither number, and no reader notices. An eviction of `e` bytes
changes the first one only: the place of every reader moves `e` bytes forward, and what it skips are
exactly these bytes.

## What moves a position

Calls of other sessions do not (`Device.onlyReadsMove_of_forall`), but a session moves its own by
writing and seeking too. Statements about successive reads suppose that nothing but reads moved it
(`Device.OnlyReadsMove`).

## Main definitions

* `Call.moves?` — the session whose position a call may move
* `Device.stream`, `Device.lost` — all bytes that were put in, and how many of them were evicted
* `Device.bytesRead` — what the reads of a session gave
* `Device.movedTo` — a device with a session at another place
* `Device.OnlyReadsMove` — a run in which the position of a session changes by reads alone

## Main results

* `Device.step_read`, `Device.step_read_moved` — one read
* `Device.OnlyReadsMove.position_eq` — the position counts the bytes that were read
* `Device.OnlyReadsMove.bytesRead_prefix` — where nothing is evicted, reads follow the stream
* `Device.run_reads` — readers in any run
-/

namespace RecordRing

variable {n : Nat}

/-- The session whose position the call may move. -/
def Call.moves? : Call → Option SessionId
  | .write id _ | .read id _ | .seek id _ | .seekTo id _ => some id
  | _ => none

/-! ### The contents in the stream -/

section Retained

variable {s : Store n} {es : List Event}

/-- What was evicted and what is there are all that was put in. -/
theorem Store.Retains.append_toList (h : s.Retains es) :
    evictedBy es ++ s.toList = committedBy es := by
  rw [h.evictedBy_eq, h.holds.toList_eq, rdrop_append_rtake]

/-- The contents are what was put in, without what was evicted. -/
theorem Store.Retains.contents_eq (h : s.Retains es) :
    s.contents = (concat (committedBy es)).drop (totalSize (evictedBy es)) := by
  rw [← h.append_toList, concat_append, ← length_concat, List.drop_left, Store.contents]

theorem Store.Retains.length_eq (h : s.Retains es) :
    (concat (committedBy es)).length = totalSize (evictedBy es) + s.size := by
  rw [← h.append_toList, length_concat, totalSize_append, Store.size]

/-- A read of the retained records is a read of all records that were put in. -/
theorem Store.Retains.copies (h : s.Retains es) {position count k : Nat}
    (hk : Copies s.toList position count k) :
    Copies (committedBy es) (totalSize (evictedBy es) + position) count k :=
  h.append_toList ▸ hk.append_left (evictedBy es)

end Retained

namespace Device

/-! ### What readers get -/

/-- The bytes that a read gave. -/
def Entry.bytesRead : Entry → List UInt8
  | ⟨.read _ _, _, .bytes bs, _⟩ => bs
  | _ => []

/-- The bytes of all records that were put in, in their order. -/
def stream (log : List Entry) : List UInt8 := concat (committedBy (events log))

/-- How many of them were in records that were evicted. -/
def lost (log : List Entry) : Nat := totalSize (evictedBy (events log))

/-- The bytes that the reads of session `id` gave, in their order. -/
def bytesRead (id : SessionId) (log : List Entry) : List UInt8 :=
  (entriesOf id log).flatMap Entry.bytesRead

/-- In the run of `calls` from `d`, nothing but reads changes the position of session `id`. -/
def OnlyReadsMove (d : Device n) (id : SessionId) (calls : List (Call × Conditions)) : Prop :=
  ∀ before call c after, calls = before ++ (call, c) :: after → (∀ count, call ≠ .read id count) →
    ∀ s s', (d.run before).1.session? id = some s →
      ((d.run before).1.step c call).1.session? id = some s' → s'.position = s.position

/-- The device with session `id`, which is `s`, at `position`. -/
def movedTo (d : Device n) (id : SessionId) (s : Session) (position : Nat) : Device n :=
  { d with sessions := d.sessions.set id (some { s with position }) }

variable {d : Device n} {id : SessionId} {s s' : Session} {call : Call} {c : Conditions}
  {calls : List (Call × Conditions)} {log log' : List Entry} {e : Entry}

theorem stream_append (log log' : List Entry) :
    stream (log ++ log') = stream log ++ stream log' := by
  rw [stream, events_append, committedBy_append, concat_append, stream, stream]

theorem bytesRead_append (id : SessionId) (log log' : List Entry) :
    bytesRead id (log ++ log') = bytesRead id log ++ bytesRead id log' := by
  rw [bytesRead, entriesOf, List.filter_append, List.flatMap_append, bytesRead, bytesRead,
    entriesOf, entriesOf]

theorem Entry.bytesRead_of_ne (h : ∀ id count, e.call ≠ .read id count) : e.bytesRead = [] := by
  obtain ⟨call, c, reply, es⟩ := e
  cases call with
  | read id count => exact absurd rfl (h id count)
  | _ => rfl

theorem bytesRead_singleton (h : e.call.session? = some id) : bytesRead id [e] = e.bytesRead := by
  rw [bytesRead, entriesOf_cons_of_eq h]
  exact List.append_nil _

/-- Only the reads of a session count for it. -/
theorem bytesRead_singleton_of_ne (h : ∀ count, e.call ≠ .read id count) :
    bytesRead id [e] = [] := by
  by_cases hid : e.call.session? = some id
  · rw [bytesRead_singleton hid]
    refine Entry.bytesRead_of_ne fun j count hread => ?_
    rw [hread] at hid
    obtain rfl : j = id := Option.some.inj hid
    exact h count hread
  · rw [bytesRead, entriesOf_cons_of_ne hid]
    rfl

theorem bytesRead_run_eq_nil (h : ∀ x ∈ calls, ∀ count, x.1 ≠ .read id count) :
    bytesRead id (d.run calls).2 = [] := by
  induction calls generalizing d with
  | nil => rfl
  | cons x calls ih =>
    obtain ⟨call, c⟩ := x
    obtain ⟨hcall, hrest⟩ := List.forall_mem_cons.1 h
    rw [run_cons, ← List.singleton_append, bytesRead_append, bytesRead_singleton_of_ne hcall,
      ih hrest, List.append_nil]

/-! ### A session at another place -/

@[simp] theorem store_movedTo (d : Device n) (id : SessionId) (s : Session) (position : Nat) :
    (d.movedTo id s position).store = d.store := rfl

theorem session?_movedTo (hs : d.session? id = some s) (position : Nat) :
    (d.movedTo id s position).session? id = some { s with position } :=
  (session?_set hs d.store _ id).trans (if_pos rfl)

theorem movedTo_self (hs : d.session? id = some s) : d.movedTo id s s.position = d := by
  rw [movedTo, sessions_set_self hs]

@[simp] theorem movedTo_movedTo (d : Device n) (id : SessionId) (s : Session) (p q : Nat) :
    (d.movedTo id s p).movedTo id { s with position := p } q = d.movedTo id s q := by
  simp only [movedTo, List.set_set]

/-! ### One call -/

/-- **A read of a session** gives bytes that the contents have at its position, and moves the
position behind them. Where it fails, it gives none. -/
theorem step_read (hs : d.session? id = some s) (c : Conditions) (count : Nat) :
    (d.step c (.read id count)).1.session? id =
        some { s with position := s.position + (d.entry c (.read id count)).bytesRead.length } ∧
      (d.entry c (.read id count)).bytesRead <+: d.store.contents.drop s.position := by
  rw [entry, step_of_session rfl hs, session?_set hs, if_pos rfl, Session.respond]
  rcases s.read_cases d.store c count with ⟨e, es, h⟩ | ⟨bs, es, h, hbs⟩ <;> rw [h]
  · exact ⟨rfl, List.nil_prefix⟩
  · exact ⟨rfl, hbs⟩

/-- **A read that has the lock and a buffer moves nothing but the position of its session**, over
the bytes that it copies, which are as many as the records say. -/
theorem step_read_moved (hs : d.session? id = some s) (hc : c.lock = .granted) {count : Nat}
    (hcount : 0 < count) :
    ∃ k es, Copies d.store.toList s.position count k ∧
      d.step c (.read id count) = (d.movedTo id s (s.position + k),
        .bytes ((d.store.contents.drop s.position).take k), es) := by
  obtain ⟨k, es, hcopies, hread⟩ := s.read_granted d.store hc hcount
  refine ⟨k, es, hcopies, ?_⟩
  rw [step_of_session rfl hs, Session.respond, hread]
  rfl

/-- So the store is as it was, and the session is behind these bytes. -/
theorem step_read_granted (hs : d.session? id = some s) (hc : c.lock = .granted) {count : Nat}
    (hcount : 0 < count) :
    ∃ k, Copies d.store.toList s.position count k ∧
      (d.step c (.read id count)).2.1 = .bytes ((d.store.contents.drop s.position).take k) ∧
      (d.step c (.read id count)).1.session? id = some { s with position := s.position + k } ∧
      (d.step c (.read id count)).1.store = d.store := by
  obtain ⟨k, es, hcopies, hstep⟩ := step_read_moved hs hc hcount
  rw [hstep]
  exact ⟨k, hcopies, rfl, session?_movedTo hs _, rfl⟩

/-- A call that does not write, read or seek with a session leaves its position where it is. -/
theorem position_step (hv : d.Valid) (hs : d.session? id = some s)
    (hs' : (d.step c call).1.session? id = some s') (hmoves : call.moves? ≠ some id) :
    s'.position = s.position := by
  by_cases hid : call.session? = some id
  · rw [step_of_session hid hs, session?_set hs, if_pos rfl] at hs'
    cases call with
    | close _ => exact absurd hs' nofun
    | flush _ =>
      obtain rfl := Option.some.inj hs'
      exact (s.flush_accounts (hv id s hs).1 d.store c).2.1
    | abandon _ =>
      obtain rfl := Option.some.inj hs'
      rfl
    | write _ _ | read _ _ | seek _ _ | seekTo _ _ => exact absurd hid hmoves
    | «open» _ | stats | records | contents | shutdown => exact absurd hid nofun
  · rw [session?_step_of_ne c hid (lt_length_of_session? hs), hs] at hs'
    rw [Option.some.inj hs']

/-! ### Runs -/

/-- **Other sessions move no reader.** In a run in which a session only reads, flushes and abandons,
only its reads move its position. -/
theorem onlyReadsMove_of_forall (hv : d.Valid)
    (h : ∀ x ∈ calls, x.1.moves? = some id → ∃ count, x.1 = .read id count) :
    d.OnlyReadsMove id calls := by
  rintro before call c after rfl hread s s' hs hs'
  refine position_step (hv.run before) hs hs' fun hmoves => ?_
  obtain ⟨count, rfl⟩ := h (call, c) (by simp) hmoves
  exact hread count rfl

theorem OnlyReadsMove.of_append {calls' : List (Call × Conditions)}
    (h : d.OnlyReadsMove id (calls ++ calls')) : d.OnlyReadsMove id calls := by
  rintro before call c after rfl
  exact h before call c (after ++ calls') (by rw [List.append_assoc, List.cons_append])

/-- **The position counts the bytes that were read.** -/
theorem OnlyReadsMove.position_eq (hmoves : d.OnlyReadsMove id calls) (hs : d.session? id = some s)
    (hs' : (d.run calls).1.session? id = some s') :
    s'.position = s.position + (bytesRead id (d.run calls).2).length := by
  induction calls using List.reverseRecOn generalizing s' with
  | nil =>
    obtain rfl := Option.some.inj (hs.symm.trans hs')
    rfl
  | append_singleton calls x ih =>
    obtain ⟨call, c⟩ := x
    rw [run_concat] at hs' ⊢
    have hlt : id < (d.run calls).1.sessions.length :=
      Nat.lt_of_lt_of_le (lt_length_of_session? hs) (d.length_sessions_run calls)
    obtain ⟨s₁, hs₁⟩ := exists_session?_of_step hlt hs'
    have hbefore := ih hmoves.of_append hs₁
    rw [bytesRead_append, List.length_append, ← Nat.add_assoc, ← hbefore]
    by_cases hread : ∃ count, call = .read id count
    · obtain ⟨count, rfl⟩ := hread
      obtain ⟨hnext, -⟩ := step_read hs₁ c count
      obtain rfl := Option.some.inj (hnext.symm.trans hs')
      rw [bytesRead_singleton rfl]
    · have hne : ∀ count, call ≠ .read id count := not_exists.1 hread
      rw [bytesRead_singleton_of_ne hne]
      exact hmoves calls call c [] rfl hne s₁ s' hs₁ hs'

/-- **Where nothing is evicted, reads follow the stream**: one after the other they give what the
stream has from the place of the reader on, and skip and repeat nothing. -/
theorem OnlyReadsMove.bytesRead_prefix (hmoves : d.OnlyReadsMove id calls) (hv : d.Valid)
    {es : List Event} (hretains : d.store.Retains es) (hs : d.session? id = some s)
    (hcalls : ∀ x ∈ calls, x.1 ≠ .shutdown) (hkept : evictedBy (events (d.run calls).2) = []) :
    bytesRead id (d.run calls).2 <+:
      (concat (committedBy es) ++ stream (d.run calls).2).drop
        (totalSize (evictedBy es) + s.position) := by
  induction calls using List.reverseRecOn with
  | nil => exact List.nil_prefix
  | append_singleton calls x ih =>
    obtain ⟨call, c⟩ := x
    obtain ⟨hbefore, -⟩ := List.forall_mem_append.1 hcalls
    rw [run_concat] at hkept ⊢
    rw [events_append, evictedBy_append, List.append_eq_nil_iff] at hkept
    have hfirst := ih hmoves.of_append hbefore hkept.1
    rw [bytesRead_append, stream_append, ← List.append_assoc]
    set seen := concat (committedBy es) ++ stream (d.run calls).2 with hseen
    set place := totalSize (evictedBy es) + s.position with hplace
    refine List.IsPrefix.trans ?_ (List.IsPrefix.drop (List.prefix_append _ _) place)
    by_cases hread : ∃ count, call = .read id count
    · obtain ⟨count, rfl⟩ := hread
      rw [bytesRead_singleton rfl]
      cases hs₁ : (d.run calls).1.session? id with
      | none =>
        rw [entry, step_of_absent rfl hs₁]
        exact (List.append_nil _).symm ▸ hfirst
      | some s₁ =>
        -- the place moved by what was read before, since nothing was evicted
        obtain ⟨-, hbytes⟩ := step_read hs₁ c count
        rw [(hv.retains_run hretains hbefore).contents_eq, List.drop_drop,
          hmoves.of_append.position_eq hs hs₁, committedBy_append, concat_append, evictedBy_append,
          hkept.1, List.append_nil, ← stream, ← hseen, ← Nat.add_assoc, ← hplace] at hbytes
        obtain ⟨rest, hrest⟩ := hfirst
        rw [← List.drop_drop, ← hrest, List.drop_left] at hbytes
        rw [← hrest]
        exact (List.prefix_append_right_inj _).2 hbytes
    · rw [bytesRead_singleton_of_ne (not_exists.1 hread), List.append_nil]
      exact hfirst

/-- Two parts of a list, with a gap of known length between them. -/
theorem exists_gap {α : Type} {xs ys zs : List α} {place gap : Nat} (hx : xs <+: zs.drop place)
    (hy : ys <+: zs.drop (place + xs.length + gap)) (hle : place + xs.length + gap ≤ zs.length) :
    ∃ front between back, zs = front ++ xs ++ between ++ ys ++ back ∧ front.length = place ∧
      between.length = gap := by
  obtain ⟨rest, hrest⟩ := hx
  obtain ⟨back, hback⟩ := hy
  have hlen : xs.length + rest.length = zs.length - place := by
    rw [← List.length_append, hrest, List.length_drop]
  have hskip : rest.drop gap = ys ++ back := by
    rw [hback, Nat.add_assoc, ← List.drop_drop, ← hrest, ← List.drop_drop, List.drop_left]
  refine ⟨zs.take place, rest.take gap, back, ?_, ?_, ?_⟩
  · calc zs = zs.take place ++ (xs ++ (rest.take gap ++ rest.drop gap)) := by
          rw [List.take_append_drop, hrest, List.take_append_drop]
      _ = zs.take place ++ xs ++ rest.take gap ++ ys ++ back := by
          rw [hskip]
          simp only [List.append_assoc]
  · rw [List.length_take]
    omega
  · rw [List.length_take]
    omega

/-- **An eviction is skipped, byte for byte.** Between what a read gave and what the next one gives,
the stream has as many bytes as were evicted in between. -/
theorem OnlyReadsMove.exists_skipped {es : List Event} {first : Conditions} {count : Nat}
    {d' : Device n} (hmoves : d.OnlyReadsMove id ((.read id count, first) :: calls))
    (hrun : d.run ((.read id count, first) :: calls) = (d', log)) (hv : d.Valid)
    (hretains : d.store.Retains es) (hs : d.session? id = some s)
    (hcalls : ∀ x ∈ calls, x.1 ≠ .shutdown) (hreads : ∀ x ∈ calls, ∀ count, x.1 ≠ .read id count)
    (hs' : d'.session? id = some s') (hinside : s'.position ≤ d'.store.size) (c : Conditions)
    (count' : Nat) :
    ∃ front between back, concat (committedBy es) ++ stream log =
        front ++ bytesRead id log ++ between ++ (d'.entry c (.read id count')).bytesRead ++ back ∧
      front.length = totalSize (evictedBy es) + s.position ∧ between.length = lost log := by
  have hsteady : ∀ x ∈ (.read id count, first) :: calls, x.1 ≠ Call.shutdown :=
    List.forall_mem_cons.2 ⟨nofun, hcalls⟩
  have hend := hv.retains_run hretains hsteady
  have hafter : (d.run ((.read id count, first) :: calls)).1.session? id = some s' := by
    rw [hrun]
    exact hs'
  have hplace := hmoves.position_eq hs hafter
  rw [hrun] at hend hplace
  dsimp only at hend hplace
  have hall : concat (committedBy (es ++ events log)) = concat (committedBy es) ++ stream log := by
    rw [committedBy_append, concat_append, stream]
  have hlost : totalSize (evictedBy (es ++ events log)) = totalSize (evictedBy es) + lost log := by
    rw [evictedBy_append, totalSize_append, lost]
  -- the first read found its bytes in what had been put in by then
  have hfirst : bytesRead id log <+:
      (concat (committedBy es) ++ stream log).drop (totalSize (evictedBy es) + s.position) := by
    have hlog : log = [d.entry first (.read id count)] ++
        ((d.step first (.read id count)).1.run calls).2 :=
      (congrArg Prod.snd hrun).symm
    have hread := (step_read hs first count).2
    rw [hretains.contents_eq, List.drop_drop] at hread
    rw [hlog, bytesRead_append, bytesRead_singleton rfl, bytesRead_run_eq_nil hreads,
      List.append_nil, ← hlog]
    exact hread.trans (List.IsPrefix.drop (List.prefix_append _ _) _)
  have hnext := (step_read hs' c count').2
  rw [hend.contents_eq, List.drop_drop, hall, hlost, hplace] at hnext
  refine exists_gap hfirst ?_ ?_
  · convert hnext using 2
    omega
  · have hlen := hend.length_eq
    rw [hall, hlost] at hlen
    omega

/-- **Readers in any run.** The contents are the stream without what was lost of it, and a read that
has the lock copies from the stream at the place of its session, up to the end of a record. Where
only reads move the session, its reads follow the stream as long as nothing is evicted; and between
one read and the next they skip as many bytes as were evicted. -/
theorem run_reads (hn : 0 < n) {config : Config} {created : List Event}
    (h : new n config = .ok (d, created)) (hcalls : ∀ x ∈ calls, x.1 ≠ .shutdown) :
    let now := (d.run calls).1
    let log := (d.run calls).2
    (∀ c : Conditions, c.lock = .granted →
        now.step c .contents = (now, .bytes ((stream log).drop (lost log)), [])) ∧
      ∀ id s, now.session? id = some s →
        (∀ (c : Conditions) (count : Nat), c.lock = .granted → 0 < count →
          ∃ k, Copies (committedBy (events log)) (lost log + s.position) count k ∧
            (now.step c (.read id count)).2.1 =
              .bytes (((stream log).drop (lost log + s.position)).take k) ∧
            (now.step c (.read id count)).1.session? id =
              some { s with position := s.position + k } ∧
            (now.step c (.read id count)).1.store = now.store) ∧
        (∀ more, (∀ x ∈ more, x.1 ≠ .shutdown) → now.OnlyReadsMove id more →
          evictedBy (events (now.run more).2) = [] →
          bytesRead id (now.run more).2 <+:
            (stream (log ++ (now.run more).2)).drop (lost log + s.position)) ∧
        ∀ count first between d' log', now.OnlyReadsMove id ((.read id count, first) :: between) →
          now.run ((.read id count, first) :: between) = (d', log') →
          (∀ x ∈ between, x.1 ≠ .shutdown) → (∀ x ∈ between, ∀ count, x.1 ≠ .read id count) →
          ∀ s', d'.session? id = some s' → s'.position ≤ d'.store.size →
          ∀ c count', ∃ front skipped back, stream (log ++ log') =
              front ++ bytesRead id log' ++ skipped ++
                (d'.entry c (.read id count')).bytesRead ++ back ∧
            front.length = lost log + s.position ∧ skipped.length = lost log' := by
  intro now log
  obtain ⟨rfl, -⟩ := new_eq h
  have hnew : Valid (⟨config, .empty, []⟩ : Device n) := valid_of_sessions_eq_nil rfl
  have hv : now.Valid := hnew.run calls
  have hretains : now.store.Retains (events log) := hnew.retains_run (Store.retains_empty hn) hcalls
  have hcontents : now.store.contents = (stream log).drop (lost log) := hretains.contents_eq
  refine ⟨fun c hc => ?_, fun id s hs => ⟨fun c count hc hcount => ?_,
    fun more hmore hmoves hkept => ?_, ?_⟩⟩
  · rw [← hcontents]
    simp only [step, contents, onStore, hc, Reply.ofResult]
  · obtain ⟨k, hcopies, hreply, hnext, hstore⟩ := step_read_granted hs hc hcount
    rw [hcontents, List.drop_drop] at hreply
    exact ⟨k, hretains.copies hcopies, hreply, hnext, hstore⟩
  · rw [stream_append]
    exact hmoves.bytesRead_prefix hv hretains hs hmore hkept
  · intro count first between d' log' hmoves hrun hsteady hreads s' hs' hinside c count'
    rw [stream_append]
    exact hmoves.exists_skipped hrun hv hretains hs hsteady hreads hs' hinside c count'

/-- A reader is in the oldest of two records, which is evicted. -/
theorem run_reads_past_eviction :
    let calls : List (Call × Conditions) :=
      [(.open ⟨0⟩, .clear), (.open ⟨1⟩, .clear), (.write 1 [97, 98, 10], .clear),
        (.write 1 [99, 10], .clear)]
    let more : List (Call × Conditions) := [(.read 0 2, .clear), (.write 1 [100, 10], .clear)]
    ∃ d : Device 2, 0 < 2 ∧ new 2 .default = .ok (d, [.created 2 10]) ∧
      (∀ x ∈ calls, x.1 ≠ .shutdown) ∧
      ((d.run calls).1.step .clear .contents).2.1 = .bytes [97, 98, 10, 99, 10] ∧
      bytesRead 0 ((d.run calls).1.run more).2 = [97, 98] ∧
      ∃ front skipped back, stream ((d.run calls).2 ++ ((d.run calls).1.run more).2) =
          front ++ [97, 98] ++ skipped ++ [100, 10] ++ back ∧
        front.length = 0 ∧ skipped.length = 3 := by
  intro calls more
  let d : Device 2 := ⟨.default, .empty, []⟩
  have hnew : new 2 .default = .ok (d, [.created 2 10]) := rfl
  have hcalls : ∀ x ∈ calls, x.1 ≠ .shutdown := by
    simp [calls]
  have hv : (d.run calls).1.Valid := Device.Valid.run (valid_of_sessions_eq_nil rfl) calls
  have hmoves : (d.run calls).1.OnlyReadsMove 0 more :=
    onlyReadsMove_of_forall hv (by simp [more, Call.moves?])
  have hcontents : ((d.run calls).1.step .clear .contents).2.1 = .bytes [97, 98, 10, 99, 10] := by
    cbv
  have hs : (d.run calls).1.session? 0 = some (.new 10 ⟨0⟩) := by cbv
  have hs' : ((d.run calls).1.run more).1.session? 0 = some ⟨.new 10, 2, ⟨0⟩⟩ := by cbv
  have hinside : 2 ≤ ((d.run calls).1.run more).1.store.size := by cbv
  have hfirst : bytesRead 0 ((d.run calls).1.run more).2 = [97, 98] := by cbv
  have hnext : (((d.run calls).1.run more).1.entry .clear (.read 0 5)).bytesRead = [100, 10] := by
    cbv
  have hplace : lost (d.run calls).2 = 0 := by cbv
  have hlost : lost ((d.run calls).1.run more).2 = 3 := by cbv
  obtain ⟨-, hreader⟩ := run_reads (by decide) hnew hcalls
  -- nothing below is evaluated
  clear_value d
  obtain ⟨-, -, hskipped⟩ := hreader 0 _ hs
  obtain ⟨front, skipped, back, hstream, hfront, hgap⟩ :=
    hskipped 2 .clear [(.write 1 [100, 10], .clear)] ((d.run calls).1.run more).1
      ((d.run calls).1.run more).2 hmoves rfl (by simp) (by simp) _ hs' hinside .clear 5
  rw [hfirst, hnext] at hstream
  exact ⟨d, by decide, hnew, hcalls, hcontents, hfirst, front, skipped, back, hstream,
    hfront.trans hplace, hgap.trans hlost⟩

end Device

end RecordRing
