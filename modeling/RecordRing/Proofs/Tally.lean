import RecordRing.Proofs.Accounting

/-!
# The log accounts for the store

Whoever has the log of a device, and nothing else, can keep count of its store: one record more for
each that was put in, one less for each that was evicted, and none when all were released. This
*tally* is never wrong. After every call it says how many records are retained and how many
bytes they have, and wherever the log itself tells a number, the tally had it already.

Since records are put in and evicted by several calls, by some of them more than once and by some
that fail in the end, this is shown of the events rather than of the calls. An event *agrees* with
the tally before it, and a run of events that agree leads from one tally to another
(`Tally.Reaches`). Events that are no changes of the store may stand between, so it is enough to
look at the records that a call puts in, one after the other.

The tally counts with integers: that it never goes below zero is shown, not built in.

## Main definitions

* `Tally`, `Tally.next`, `Tally.after` — keeping count along a log
* `Tally.Agrees` — what an event says is what the tally says
* `Tally.Reaches` — events that agree, and the tally that they lead to
* `Tally.ofRecords` — the tally of a run of records

## Main results

* `Tally.Reaches.of_filter` — events that are no changes of the store make no difference
* `Store.Holds.reaches_commitAll` — the events of records that are put in agree
* `Device.log_accounts_for_store` — the log of a run accounts for the store
-/

namespace RecordRing

variable {n : Nat}

/-- A number of records and a number of bytes. -/
structure Tally where
  /-- The number of records. -/
  count : Int
  /-- The number of bytes. -/
  bytes : Int
deriving DecidableEq, Repr

namespace Tally

/-- Nothing is there. -/
def zero : Tally := ⟨0, 0⟩

/-- The tally after an event. -/
def next (t : Tally) : Event → Tally
  | .evicted r => ⟨t.count - 1, t.bytes - r.size⟩
  | .committed r _ => ⟨t.count + 1, t.bytes + r.size⟩
  | .tornDown _ => zero
  | _ => t

/-- The tally after events, one after the other. -/
def after (t : Tally) (events : List Event) : Tally := events.foldl next t

/-- Event `e` says what the tally says that it is met with, and leaves nothing below zero. -/
structure Agrees (t : Tally) (e : Event) : Prop where
  /-- There are not less than no records. -/
  count_nonneg : 0 ≤ (t.next e).count
  /-- There are not less than no bytes. -/
  bytes_nonneg : 0 ≤ (t.next e).bytes
  /-- A record that is put in is counted among those that are retained then. -/
  retained_eq : ∀ r retained, e = .committed r retained → (retained : Int) = (t.next e).count
  /-- All records that there were are released. -/
  released_eq : ∀ released, e = .tornDown released → (released : Int) = t.count

/-- Each of `events` agrees with the tally that it is met with, beginning with `t`, and `t'` is the
tally in the end. -/
inductive Reaches : Tally → List Event → Tally → Prop where
  /-- Nothing happened. -/
  | nil (t : Tally) : Reaches t [] t
  /-- An event that agrees, and what came after it. -/
  | cons {t t' : Tally} {e : Event} {events : List Event} (agrees : t.Agrees e)
      (rest : Reaches (t.next e) events t') : Reaches t (e :: events) t'

variable {t t' t'' : Tally} {e : Event} {es es' : List Event}

theorem Reaches.trans (h : t.Reaches es t') (h' : t'.Reaches es' t'') :
    t.Reaches (es ++ es') t'' := by
  induction h with
  | nil t => exact h'
  | cons agrees rest ih => exact .cons agrees (ih h')

theorem Reaches.after_eq (h : t.Reaches es t') : t.after es = t' := by
  induction h with
  | nil t => rfl
  | cons agrees rest ih => exact ih

/-- Each event agrees with the tally of all before it. -/
theorem Reaches.agrees (h : t.Reaches es t') {before rest : List Event}
    (hes : es = before ++ e :: rest) : (t.after before).Agrees e := by
  induction h generalizing before with
  | nil t => exact absurd hes (by simp)
  | cons agrees _ ih =>
    cases before with
    | nil =>
      obtain ⟨rfl, -⟩ := List.cons.inj hes
      exact agrees
    | cons first before =>
      obtain ⟨rfl, hrest⟩ := List.cons.inj hes
      exact ih hrest

/-! ### Events that are no changes of the store -/

theorem next_of_not_changesStore (t : Tally) (h : e.changesStore = false) : t.next e = t := by
  cases e with
  | evicted _ | committed _ _ | tornDown _ => exact absurd h nofun
  | _ => rfl

theorem agrees_of_not_changesStore (hcount : 0 ≤ t.count) (hbytes : 0 ≤ t.bytes)
    (h : e.changesStore = false) : t.Agrees e := by
  have hnext : t.next e = t := next_of_not_changesStore t h
  refine ⟨?_, ?_, ?_, ?_⟩
  · rwa [hnext]
  · rwa [hnext]
  · rintro r retained rfl
    exact absurd h nofun
  · rintro released rfl
    exact absurd h nofun

/-- **Events that are no changes of the store make no difference**, since the tally is not below
zero where they are met with. -/
theorem Reaches.of_filter (hcount : 0 ≤ t.count) (hbytes : 0 ≤ t.bytes)
    (h : t.Reaches (es.filter Event.changesStore) t') : t.Reaches es t' := by
  induction es generalizing t with
  | nil => exact h
  | cons e es ih =>
    cases he : e.changesStore with
    | true =>
      rw [List.filter_cons_of_pos he] at h
      obtain _ | ⟨agrees, rest⟩ := h
      exact .cons agrees (ih agrees.count_nonneg agrees.bytes_nonneg rest)
    | false =>
      rw [List.filter_cons_of_neg (by simp [he])] at h
      refine .cons (agrees_of_not_changesStore hcount hbytes he) ?_
      rw [next_of_not_changesStore t he]
      exact ih hcount hbytes h

/-! ### Events that are changes of the store -/

/-- The numbers of a run of records. -/
def ofRecords (rs : List Record) : Tally := ⟨rs.length, totalSize rs⟩

theorem agrees_of_next_eq {rs : List Record} (hnext : t.next e = ofRecords rs)
    (hretained : ∀ r retained, e = .committed r retained → retained = rs.length)
    (hreleased : ∀ released, e = .tornDown released → (released : Int) = t.count) : t.Agrees e where
  count_nonneg := by
    rw [hnext]
    exact Int.natCast_nonneg _
  bytes_nonneg := by
    rw [hnext]
    exact Int.natCast_nonneg _
  retained_eq r retained he := by
    rw [hnext, hretained r retained he]
    rfl
  released_eq := hreleased

theorem reaches_evicted (oldest : Record) (q : List Record) :
    (ofRecords (oldest :: q)).Reaches [.evicted oldest] (ofRecords q) := by
  have hnext : (ofRecords (oldest :: q)).next (.evicted oldest) = ofRecords q := by
    simp [next, ofRecords]
  refine .cons (agrees_of_next_eq hnext nofun nofun) ?_
  rw [hnext]
  exact .nil _

theorem reaches_committed (q : List Record) (r : Record) :
    (ofRecords q).Reaches [.committed r (q ++ [r]).length] (ofRecords (q ++ [r])) := by
  have hnext : (ofRecords q).next (.committed r (q ++ [r]).length) = ofRecords (q ++ [r]) := by
    simp [next, ofRecords]
  refine .cons (agrees_of_next_eq hnext ?_ nofun) ?_
  · rintro _ _ ⟨⟩
    rfl
  · rw [hnext]
    exact .nil _

theorem reaches_tornDown (q : List Record) :
    (ofRecords q).Reaches [.tornDown q.length] (ofRecords []) := by
  have hnext : (ofRecords q).next (.tornDown q.length) = ofRecords [] := rfl
  refine .cons (agrees_of_next_eq hnext nofun ?_) (.nil _)
  rintro _ ⟨⟩
  rfl

end Tally

/-! ### Putting records in -/

namespace Store

variable {s s' : Store n} {q rs : List Record} {es : List Event}

/-- **The events of one record agree**: the eviction that it causes, if any, and then its own. -/
theorem Holds.reaches_commit (h : s.Holds q) (r : Record) :
    ∃ q', (s.commit r).1.Holds q' ∧
      (Tally.ofRecords q).Reaches (s.commit r).2 (Tally.ofRecords q') := by
  have hn : 0 < n := Nat.zero_lt_of_lt h.readCursor_lt
  rw [commit_events]
  by_cases hfull : q.length = n
  · cases q with
    | nil => exact absurd hfull (Nat.ne_of_lt hn)
    | cons oldest q =>
      obtain ⟨hkept, hevicted⟩ := h.insert_of_full hfull r
      refine ⟨q ++ [r], hkept, ?_⟩
      rw [hevicted, hkept.length_eq]
      exact (Tally.reaches_evicted oldest q).trans (Tally.reaches_committed q r)
  · obtain ⟨hkept, hevicted⟩ := h.insert_of_lt (Nat.lt_of_le_of_ne h.length_le hfull) r
    refine ⟨q ++ [r], hkept, ?_⟩
    rw [hevicted, hkept.length_eq]
    exact Tally.reaches_committed q r

theorem Holds.reaches_commitAll (h : s.Holds q) (rs : List Record) :
    ∃ q', (s.commitAll rs).1.Holds q' ∧
      (Tally.ofRecords q).Reaches (s.commitAll rs).2 (Tally.ofRecords q') := by
  induction rs generalizing s q with
  | nil => exact ⟨q, h, .nil _⟩
  | cons r rs ih =>
    obtain ⟨q₁, hfirst, hevents⟩ := h.reaches_commit r
    obtain ⟨q₂, hrest, hmore⟩ := ih hfirst
    exact ⟨q₂, hrest, hevents.trans hmore⟩

/-- What a call puts in is accounted for by what it tells, whatever else it tells. -/
theorem Holds.reaches_commits (h : s.Holds q) (hc : s.Commits rs s' es) :
    ∃ q', s'.Holds q' ∧ (Tally.ofRecords q).Reaches es (Tally.ofRecords q') := by
  obtain ⟨q', hq', hevents⟩ := h.reaches_commitAll rs
  rw [← hc.store_eq] at hq'
  rw [← hc.filter_events] at hevents
  exact ⟨q', hq', hevents.of_filter (Int.natCast_nonneg _) (Int.natCast_nonneg _)⟩

end Store

/-! ### Calls -/

namespace Device

variable {d : Device n} {q : List Record}

/-- **A call is accounted for by its events**, whatever it meets with. -/
theorem Valid.step_reaches (hv : d.Valid) (hq : d.store.Holds q) (c : Conditions) (call : Call) :
    ∃ q', (d.step c call).1.store.Holds q' ∧
      (Tally.ofRecords q).Reaches (d.step c call).2.2 (Tally.ofRecords q') := by
  rcases d.step_cases c call with
    ⟨id, s, hid, hs, hstep⟩ | ⟨id, -, -, hstep⟩ | ⟨token, -, hstep⟩ | ⟨-, hstep⟩ |
      ⟨-, reply, es, hstep, hes, -⟩ <;>
    rw [hstep]
  · obtain ⟨rs, hanswers⟩ := Session.respond_answers (hv id s hs).1 d.store c call
    exact hq.reaches_commits hanswers.commits
  · exact ⟨q, hq, .nil _⟩
  · exact ⟨q, hq, .nil _⟩
  · refine ⟨[], ?_, ?_⟩
    · rw [Store.teardown_fst]
      exact Store.holds_empty (Nat.zero_lt_of_lt hq.readCursor_lt)
    · rw [hq.teardown_snd]
      exact Tally.reaches_tornDown q
  · exact hq.reaches_commits (.refl _ hes)

/-- What the events of one call are to the store, those of a run are. -/
theorem Valid.run_reaches (hv : d.Valid) (hq : d.store.Holds q)
    (calls : List (Call × Conditions)) :
    ∃ q', (d.run calls).1.store.Holds q' ∧
      (Tally.ofRecords q).Reaches (events (d.run calls).2) (Tally.ofRecords q') := by
  induction calls generalizing d q with
  | nil => exact ⟨q, hq, .nil _⟩
  | cons x calls ih =>
    obtain ⟨call, c⟩ := x
    obtain ⟨q₁, hfirst, hevents⟩ := hv.step_reaches hq c call
    obtain ⟨q₂, hrest, hmore⟩ := ih (hv.step c call) hfirst
    exact ⟨q₂, hrest, hevents.trans hmore⟩

/-- **The log accounts for the store.** Whatever calls a new device has answered, in whatever order,
and whatever they were denied, the tally along its log is the number of records that are retained
and the number of their bytes. On the way it was never below zero; at every record that was put in
it was, with this one, what the log says is retained; and whenever all records were released, there
were as many as it says. Every initial part of a run is a run, so this is so after each call. -/
theorem log_accounts_for_store (hn : 0 < n) {config : Config} {created : List Event}
    (h : new n config = .ok (d, created)) (calls : List (Call × Conditions)) :
    let es := created ++ events (d.run calls).2
    let store := (d.run calls).1.store
    Tally.zero.after es = ⟨store.length, store.size⟩ ∧
      ∀ before e rest, es = before ++ e :: rest → (Tally.zero.after before).Agrees e := by
  intro es store
  obtain ⟨rfl, rfl⟩ := new_eq h
  have hv : Valid (⟨config, .empty, []⟩ : Device n) := valid_of_sessions_eq_nil rfl
  obtain ⟨q, hq, hrun⟩ := hv.run_reaches (Store.holds_empty hn) calls
  have hnew : Tally.zero.Reaches [.created n config.terminator] .zero :=
    .cons (Tally.agrees_of_not_changesStore (Int.le_refl 0) (Int.le_refl 0) rfl) (.nil _)
  have hall : Tally.zero.Reaches es (.ofRecords q) := hnew.trans hrun
  refine ⟨?_, fun before e rest hes => hall.agrees hes⟩
  rw [hall.after_eq, hq.length_eq, Store.size, hq.toList_eq]
  rfl

/-- A ring of two. The first session is refused the memory for a second record, and puts it in when
it ends, which evicts the oldest; the second is denied the lock first. The store is emptied, with
two records and five bytes in it, and used again. -/
theorem log_accounts_for_store_after_refusals :
    let calls : List (Call × Conditions) :=
      [(.open ⟨0⟩, .clear), (.open ⟨1⟩, .clear),
        (.write 0 [97, 10, 98, 10, 99], ⟨.granted, .refusing 1⟩),
        (.write 1 [120, 10], ⟨.cancelled, .generous⟩), (.write 1 [120, 121, 10], .clear),
        (.close 0, .clear), (.shutdown, .clear), (.write 1 [121, 10], .clear)]
    ∃ (d : Device 2) (before rest : List Event), 0 < 2 ∧
      new 2 .default = .ok (d, [.created 2 10]) ∧
      [.created 2 10] ++ events (d.run calls).2 = before ++ .tornDown 2 :: rest ∧
      Tally.zero.after before = ⟨2, 5⟩ ∧ (Tally.zero.after before).Agrees (.tornDown 2) ∧
      Tally.zero.after (before ++ .tornDown 2 :: rest) = ⟨1, 2⟩ := by
  intro calls
  let d : Device 2 := ⟨.default, .empty, []⟩
  have hnew : new 2 .default = .ok (d, [.created 2 10]) := rfl
  let es : List Event := [.created 2 10] ++ events (d.run calls).2
  have hes : es = es.take 10 ++ .tornDown 2 :: es.drop 11 := by
    show [.created 2 10] ++ events (d.run calls).2 = _
    cbv
  have hbefore : Tally.zero.after (es.take 10) = ⟨2, 5⟩ := by cbv
  have hlength : (d.run calls).1.store.length = 1 := by cbv
  have hsize : (d.run calls).1.store.size = 2 := by cbv
  obtain ⟨hall, hagrees⟩ := log_accounts_for_store (by decide) hnew calls
  rw [hlength, hsize] at hall
  exact ⟨d, _, _, by decide, hnew, hes, hbefore, hagrees _ _ _ hes, hes ▸ hall⟩

end Device

end RecordRing
