import RecordRing.Proofs.Contents
import RecordRing.Proofs.Recovery
import RecordRing.Proofs.Refusal

/-!
# Writing a chunk

A write takes its chunk in as a whole or not at all, and which of the two is settled before a byte
is moved. Two things can keep it from the chunk: that the chunk completes a record and the lock is
denied, or that memory is refused to the assembler that is fed (`Session.hindrance?`). A write that
is hindered changes nothing. Any other counts: the position goes forward, and the first record is
put in, as its memory has been had already. Each record behind it is cut and put in next, and here
memory may be refused once more. This stops the cutting, and nothing else: the records put in so far
stay where they are, and the others stay buffered.

Where nothing stands in the way, a write leaves no finished record behind, so the bytes alone say
where it leads to: the store gets the pieces of the buffered bytes and the chunk, and the remainder
is buffered. It makes no difference then whether bytes come in one chunk or in many.

## Main definitions

* `Session.hindrance?` — what keeps a session from writing a chunk

## Main results

* `Session.write_of_hindrance?`, `Session.write_unhindered` — writing, in terms of it
* `Device.write_all_or_nothing` — a write takes the whole chunk in or changes nothing
* `Device.writes_of_flatten_eq` — chunks written one by one and at once
* `Device.write_append` — writing is a homomorphism
-/

namespace RecordRing

variable {n : Nat} {c : Conditions} {chunk : List UInt8}

namespace Session

variable {s : Session} {e : Error}

/-- What keeps the session from writing `chunk`: the lock, where there is a record for the store, or
else the memory to take the chunk in. -/
def hindrance? (s : Session) (c : Conditions) (chunk : List UInt8) : Option Error :=
  if chunk ≠ [] ∧ s.assembler.terminator ∈ s.assembler.held ++ chunk ∧ c.lock = .cancelled then
    some (.lock .cancelled)
  else (refusal? c.memory (s.assembler.demands (.feed chunk))).map .assemble

/-- With the lock, or without need of it, only memory can be missing. -/
theorem hindrance?_eq (hv : s.assembler.Valid)
    (hlock : s.assembler.completesWith chunk = true → c.lock = .granted) :
    s.hindrance? c chunk =
      ((Assembler.Reply.cut (s.assembler.feed c.memory chunk).2).refused?).map .assemble := by
  have hfree : ¬ (chunk ≠ [] ∧ s.assembler.terminator ∈ s.assembler.held ++ chunk ∧
      c.lock = .cancelled) := by
    rintro ⟨hne, hmem, hcancelled⟩
    rw [hlock (hv.completesWith_iff.2 ⟨hne, hmem⟩)] at hcancelled
    exact absurd hcancelled nofun
  rw [hindrance?, if_neg hfree, ← hv.refused?_answer]
  rfl

/-- **A write that is hindered fails for that reason**, and changes nothing. -/
theorem write_of_hindrance? (hv : s.assembler.Valid) (h : s.hindrance? c chunk = some e)
    (store : Store n) :
    ∃ es, s.write store c chunk = ⟨s, store, es, .error e⟩ ∧
      es.filter Event.changesStore = [] := by
  rcases s.write_outcomes hv store c chunk with
    ⟨rfl, -⟩ | ⟨hne, hcompletes, hlock, hwrite⟩ | ⟨hne, hlock, hfeeds⟩
  · exact absurd h (by simp [hindrance?, Assembler.demands, refusal?])
  · rw [hindrance?, if_pos ⟨hne, (hv.completesWith_iff.1 hcompletes).2, hlock⟩] at h
    obtain rfl := Option.some.inj h
    exact ⟨_, hwrite, rfl⟩
  · rw [hindrance?_eq hv hlock] at h
    rcases hfeeds with ⟨e', hfed, hwrite⟩ | ⟨a, hfed, -⟩ | ⟨a, r, hfed, -⟩ <;> rw [hfed] at h
    · obtain rfl := Option.some.inj h
      exact ⟨_, hwrite, rfl⟩
    · cases h
    · cases h

/-- Where the cutting stops, the log says why. -/
theorem commitWritten_refused (hv : s.assembler.Valid) (store : Store n) (memory : Allocator)
    (first : Option Record)
    (hmem : s.assembler.terminator ∈ (s.commitWritten store memory first).1.assembler.held) :
    ∃ e, refusal? memory ((s.commitWritten store memory first).1.assembler.demands .pop) = some e ∧
      .leftBuffered (.assemble e) ∈ (s.commitWritten store memory first).2.2 := by
  rw [commitWritten_eq] at hmem ⊢
  cases hfault : (s.assembler.popAll memory).2.2 with
  | none => exact absurd hmem (hv.notMem_popAll memory hfault)
  | some e =>
    have hlast : (s.commitBuffered (store.commitAll first.toList).1 memory).2.2.2 = some e := hfault
    refine ⟨e, hv.popAll_refused hfault, ?_⟩
    dsimp only
    rw [hlast]
    exact List.mem_append_right _ List.mem_cons_self

/-- **A write that is not hindered takes the whole chunk in.** The first piece is put in with it. A
piece that is left behind was refused memory, and the log says so. -/
theorem write_unhindered (hv : s.assembler.Valid) (h : s.hindrance? c chunk = none)
    (store : Store n) :
    ∃ rs s' store' es, s.write store c chunk = ⟨s', store', es, .ok chunk.length⟩ ∧
      s'.position = s.position + chunk.length ∧ s.Accounts store chunk rs s' store' es ∧
      (chunk ≠ [] →
        (s.assembler.terminator ∈ s.assembler.held ++ chunk →
          ∃ first later, rs = first :: later ∧
            (pieces s.assembler.terminator (s.assembler.held ++ chunk)).head? =
              some first.bytes) ∧
        (s.assembler.terminator ∈ s'.assembler.held →
          ∃ e, refusal? c.memory (s'.assembler.demands .pop) = some e ∧
            .leftBuffered (.assemble e) ∈ es)) := by
  rcases s.write_outcomes hv store c chunk with
    ⟨rfl, hwrite⟩ | ⟨hne, hcompletes, hlock, -⟩ | ⟨hne, hlock, hfeeds⟩
  · exact ⟨[], s, store, [], hwrite, rfl, .refl hv store rfl rfl, absurd rfl⟩
  · rw [hindrance?, if_pos ⟨hne, (hv.completesWith_iff.1 hcompletes).2, hlock⟩] at h
    exact absurd h nofun
  · rw [hindrance?_eq hv hlock] at h
    rcases hfeeds with ⟨e', hfed, -⟩ | ⟨a, -, hadv, hnot, hwrite⟩ | ⟨a, r, -, hadv, hwrite⟩
    · rw [hfed] at h
      exact absurd h nofun
    · have hheld : a.held = s.assembler.held ++ chunk := hadv.concat_append
      refine ⟨[], _, _, _, hwrite, rfl, ⟨hadv, .refl store rfl, rfl⟩, fun _ => ⟨?_, ?_⟩⟩
      · exact fun hmem => absurd (hheld ▸ hmem) hnot
      · exact fun hmem => absurd hmem hnot
    · have hfed : s.assembler.Advances chunk (some r).toList (s.took a chunk).assembler := hadv
      obtain ⟨hall, -⟩ := commitWritten_accounts hfed store c.memory
      refine ⟨_, _, _, _, hwrite, rfl, hall.note rfl rfl, fun _ => ⟨fun _ => ?_, fun hmem => ?_⟩⟩
      · refine ⟨r, _, rfl, ?_⟩
        rw [← hadv.append_pieces]
        rfl
      · rw [← hadv.terminator_eq] at hmem
        obtain ⟨e, hrefused, hlog⟩ :=
          (s.took a chunk).commitWritten_refused hadv.valid store c.memory (some r) hmem
        exact ⟨e, hrefused, List.mem_append_left _ hlog⟩

end Session

namespace Device

variable {d : Device n} {id : SessionId} {s : Session}

/-! ### All or nothing -/

/-- **A write takes the whole chunk in or changes nothing.** If it is hindered, it fails for that
reason, and the device is as it was: the store, the session with its position and its buffer, and
the room in the buffer. Otherwise it answers with the length of the chunk, moves the position by as
much, and puts records into the store, which keeps the last `n`; these and the bytes still buffered
are the bytes buffered before and the chunk, and the records are the first pieces of these. If there
is a terminator, the first piece is put in. If one is left behind, the memory to cut the next piece
was refused, which is logged. -/
theorem write_all_or_nothing (hn : 0 < n) (hd : d.Reachable) (hs : d.session? id = some s)
    (c : Conditions) (chunk : List UInt8) :
    (∀ e, s.hindrance? c chunk = some e →
      ∃ es, d.step c (.write id chunk) = (d, .failed e, es) ∧ committedBy es = []) ∧
    (s.hindrance? c chunk = none →
      ∃ rs s' store' es,
        d.step c (.write id chunk) =
          ({ d with store := store', sessions := d.sessions.set id (some s') },
            .number chunk.length, es) ∧
        s'.position = s.position + chunk.length ∧
        committedBy es = rs ∧ store'.toList = (d.store.toList ++ rs).rtake n ∧
        concat rs ++ s'.assembler.held = s.assembler.held ++ chunk ∧
        rs.map Record.bytes ++ pieces d.config.terminator s'.assembler.held =
          pieces d.config.terminator (s.assembler.held ++ chunk) ∧
        (chunk ≠ [] →
          (d.config.terminator ∈ s.assembler.held ++ chunk →
            ∃ first later, rs = first :: later ∧
              (pieces d.config.terminator (s.assembler.held ++ chunk)).head? =
                some first.bytes) ∧
          (d.config.terminator ∈ s'.assembler.held →
            ∃ e, refusal? c.memory (s'.assembler.demands .pop) = some e ∧
              .leftBuffered (.assemble e) ∈ es))) := by
  obtain ⟨hv, hterm⟩ := hd.valid id s hs
  obtain ⟨old, hold, -⟩ := hd.retainsPieces hn
  rw [← hterm, step_of_session rfl hs, Session.respond]
  refine ⟨fun e h => ?_, fun h => ?_⟩
  · obtain ⟨es, hwrite, hsilent⟩ := Session.write_of_hindrance? hv h d.store
    rw [hwrite]
    refine ⟨es, ?_, ?_⟩
    · show ({ d with sessions := d.sessions.set id (some s) }, _, _) = _
      rw [sessions_set_self hs]
      rfl
    · rw [← committedBy_filter, hsilent]
      rfl
  · obtain ⟨rs, s', store', es, hwrite, hposition, hall, hpieces⟩ :=
      Session.write_unhindered hv h d.store
    rw [hwrite]
    refine ⟨rs, s', store', es, rfl, hposition, hall.commits.committedBy_eq, ?_,
      hall.advances.concat_append, hall.advances.append_pieces, hpieces⟩
    rw [(hold.commits hall.commits).1.toList_eq, hold.toList_eq]

/-- Two finished records are buffered when two more bytes end a third one. The write fails without
the lock, and without memory for the bytes behind the first record; refused memory for those behind
the second one, it puts the first one in and leaves the others. -/
theorem write_all_or_nothing_behind_refusals :
    let calls : List (Call × Conditions) :=
      [(.open ⟨0⟩, .clear), (.write 0 [97, 10, 98, 10, 99, 10, 100], ⟨.granted, .refusing 3⟩)]
    let chunk : List UInt8 := [101, 10]
    let d : Device 2 := ((⟨.default, .empty, []⟩ : Device 2).run calls).1
    ∃ s, 0 < 2 ∧ d.Reachable ∧ d.session? 0 = some s ∧ s.assembler.held = [98, 10, 99, 10, 100] ∧
      (∃ es, d.step ⟨.cancelled, .generous⟩ (.write 0 chunk) =
        (d, .failed (.lock .cancelled), es)) ∧
      (∃ es, d.step ⟨.granted, .refusing 5⟩ (.write 0 chunk) =
        (d, .failed (.assemble (.outOfMemory 5 .refused)), es)) ∧
      ∃ s' store' es, d.step ⟨.granted, .refusing 3⟩ (.write 0 chunk) =
          ({ d with store := store', sessions := d.sessions.set 0 (some s') }, .number 2, es) ∧
        store'.toList.map Record.bytes = [[97, 10], [98, 10]] ∧
        s'.assembler.held = [99, 10, 100, 101, 10] := by
  intro calls chunk d
  have hreachable : d.Reachable := ⟨.default, _, _, calls, rfl, rfl⟩
  have hsome : (d.session? 0).isSome = true := by cbv
  have hheld : (d.session? 0).map (fun s => s.assembler.held) = some [98, 10, 99, 10, 100] := by cbv
  have hlocked : (d.session? 0).bind (·.hindrance? ⟨.cancelled, .generous⟩ chunk) =
      some (.lock .cancelled) := by cbv
  have hrefused : (d.session? 0).bind (·.hindrance? ⟨.granted, .refusing 5⟩ chunk) =
      some (.assemble (.outOfMemory 5 .refused)) := by cbv
  have hfree : (d.session? 0).bind (·.hindrance? ⟨.granted, .refusing 3⟩ chunk) = none := by cbv
  have hstore : d.store.toList = [.ofList [97, 10]] := by cbv
  have hcommitted : committedBy (d.step ⟨.granted, .refusing 3⟩ (.write 0 chunk)).2.2 =
      [.ofList [98, 10]] := by cbv
  -- nothing below is evaluated
  clear_value d
  obtain ⟨s, hs⟩ := Option.isSome_iff_exists.1 hsome
  rw [hs, Option.map_some, Option.some.injEq] at hheld
  rw [hs, Option.bind_some] at hlocked hrefused hfree
  have hwrites := write_all_or_nothing (by decide : 0 < 2) hreachable hs
  obtain ⟨es, hlocked, -⟩ := (hwrites ⟨.cancelled, .generous⟩ chunk).1 _ hlocked
  obtain ⟨es', hrefused, -⟩ := (hwrites ⟨.granted, .refusing 5⟩ chunk).1 _ hrefused
  obtain ⟨rs, s', store', es'', hstep, -, hrs, htoList, hconcat, -⟩ :=
    (hwrites ⟨.granted, .refusing 3⟩ chunk).2 hfree
  rw [hstep, hrs] at hcommitted
  rw [hcommitted, hstore] at htoList
  rw [hcommitted, hheld] at hconcat
  refine ⟨s, by decide, hreachable, hs, hheld, ⟨es, hlocked⟩, ⟨es', hrefused⟩,
    s', store', es'', hstep, ?_, List.append_cancel_left hconcat⟩
  rw [htoList]
  rfl

/-! ### Chunks and their concatenation -/

/-- A write that meets with no refusal, where no finished record is buffered: the store gets the
pieces, and the remainder is buffered. -/
theorem step_write_pieces (hv : s.assembler.Valid) (hs : d.session? id = some s) {old : List Record}
    (hold : d.store.Holds old) (hnot : s.assembler.terminator ∉ s.assembler.held)
    (chunk : List UInt8) :
    ∃ s', (d.step .clear (.write id chunk)).2.1 = .number chunk.length ∧
      (d.step .clear (.write id chunk)).1.session? id = some s' ∧
      (d.step .clear (.write id chunk)).1.store.Holds ((old ++ (pieces s.assembler.terminator
        (s.assembler.held ++ chunk)).map Record.ofList).rtake n) ∧
      s'.assembler.Valid ∧ s'.assembler.terminator = s.assembler.terminator ∧
      s'.assembler.held = remainder s.assembler.terminator (s.assembler.held ++ chunk) ∧
      s'.position = s.position + chunk.length := by
  obtain ⟨rs, s', hleads, hreply, hnot'⟩ := step_write_clear hv hs hnot chunk
  have hadv := hleads.accounts.advances
  obtain ⟨hrs, hheld⟩ := hadv.eq_pieces hnot'
  refine ⟨s', hreply, hleads.session?_eq, ?_, hadv.valid, hadv.terminator_eq, hheld,
    hleads.position_eq⟩
  rw [← hrs]
  exact (hold.commits hleads.accounts.commits).1

/-- **However bytes are divided into chunks**, writing these one after the other puts the same
records in, and leads to the same store, the same buffered bytes and the same position. -/
theorem writes_of_flatten_eq (hv : s.assembler.Valid) (hs : d.session? id = some s)
    (hnot : s.assembler.terminator ∉ s.assembler.held) {chunks chunks' : List (List UInt8)}
    (h : chunks.flatten = chunks'.flatten) :
    let left := d.run (writes id chunks)
    let right := d.run (writes id chunks')
    left.1.store = right.1.store ∧ committedBy (events left.2) = committedBy (events right.2) ∧
      ∃ s₁ s₂, left.1.session? id = some s₁ ∧ right.1.session? id = some s₂ ∧
        s₁.assembler.pending? = s₂.assembler.pending? ∧ s₁.position = s₂.position := by
  intro left right
  obtain ⟨rs, s₁, hleft, hnot₁, -⟩ := run_writes hv hs hnot chunks
  obtain ⟨rs', s₂, hright, hnot₂, -⟩ := run_writes hv hs hnot chunks'
  rw [← h] at hright
  obtain ⟨hstore, hpending, hposition, hcommitted⟩ := hleft.unique hright hnot₁ hnot₂
  exact ⟨hstore, hcommitted, s₁, s₂, hleft.session?_eq, hright.session?_eq, hpending, hposition⟩

/-- **Writing is a homomorphism.** In a session that has no finished record buffered, and where
nothing stands in the way, two chunks written at once and one after the other put the same records
in, and lead to the same store, the same buffered bytes and the same position. And whatever chunk is
written there, the store then has its old records and the pieces of the buffered bytes and the
chunk, as far as they are the last `n` of these; the remainder is buffered, without a buffer if it
is empty; and again no finished record is. -/
theorem write_append (hn : 0 < n) (hd : d.Reachable) (hs : d.session? id = some s)
    (hfinished : s.assembler.hasComplete = false) (xs ys : List UInt8) :
    (let once := d.run (writes id [xs ++ ys])
      let twice := d.run (writes id [xs, ys])
      once.1.store = twice.1.store ∧
        committedBy (events once.2) = committedBy (events twice.2) ∧
        ∃ s₁ s₂, once.1.session? id = some s₁ ∧ twice.1.session? id = some s₂ ∧
          s₁.assembler.pending? = s₂.assembler.pending? ∧ s₁.position = s₂.position) ∧
    ∀ chunk : List UInt8,
      let bytes := s.assembler.held ++ chunk
      let rest := remainder d.config.terminator bytes
      ∃ d' s' es, d.step .clear (.write id chunk) = (d', .number chunk.length, es) ∧
        d'.session? id = some s' ∧
        d'.store.toList =
          (d.store.toList ++ (pieces d.config.terminator bytes).map Record.ofList).rtake n ∧
        s'.assembler.pending? = (if rest = [] then none else some rest) ∧
        s'.assembler.hasComplete = false ∧ s'.position = s.position + chunk.length := by
  obtain ⟨hv, hterm⟩ := hd.valid id s hs
  obtain ⟨old, hold, -⟩ := hd.retainsPieces hn
  have hnot : s.assembler.terminator ∉ s.assembler.held := by
    rw [← hv.hasComplete_iff, hfinished]
    exact nofun
  refine ⟨writes_of_flatten_eq hv hs hnot (by simp), fun chunk => ?_⟩
  obtain ⟨s', hreply, hs', hholds, hv', hterm', hheld, hposition⟩ :=
    step_write_pieces hv hs hold hnot chunk
  refine ⟨_, s', _, Prod.ext rfl (Prod.ext hreply rfl), hs', ?_, ?_, ?_, hposition⟩
  · rw [hholds.toList_eq, hold.toList_eq, hterm]
  · rw [hv'.pending?_eq, hheld, hterm]
  · rw [← Bool.not_eq_true, hv'.hasComplete_iff, hterm', hheld]
    exact notMem_remainder _ _

/-- One byte is buffered, and the chunk completes more records than there is room for. It is divided
within a record. -/
theorem write_append_within_record :
    let calls : List (Call × Conditions) := [(.open ⟨0⟩, .clear), (.write 0 [97], .clear)]
    let xs : List UInt8 := [10, 98, 10, 99]
    let ys : List UInt8 := [99, 10, 100]
    let d : Device 2 := ((⟨.default, .empty, []⟩ : Device 2).run calls).1
    ∃ s, 0 < 2 ∧ d.Reachable ∧ d.session? 0 = some s ∧ s.assembler.hasComplete = false ∧
      (d.run (writes 0 [xs ++ ys])).1.store = (d.run (writes 0 [xs, ys])).1.store ∧
      ∃ d' s' es, d.step .clear (.write 0 (xs ++ ys)) = (d', .number 7, es) ∧
        d'.session? 0 = some s' ∧
        d'.store.toList.map Record.bytes = [[98, 10], [99, 99, 10]] ∧
        s'.assembler.pending? = some [100] := by
  intro calls xs ys d
  have hreachable : d.Reachable := ⟨.default, _, _, calls, rfl, rfl⟩
  have hsome : (d.session? 0).isSome = true := by cbv
  have hheld : (d.session? 0).map (fun s => s.assembler.held) = some [97] := by cbv
  have hfinished : (d.session? 0).map (fun s => s.assembler.hasComplete) = some false := by cbv
  have hstore : d.store.toList = [] := by cbv
  have hterm : d.config.terminator = 10 := by cbv
  -- nothing below is evaluated
  clear_value d
  obtain ⟨s, hs⟩ := Option.isSome_iff_exists.1 hsome
  rw [hs, Option.map_some, Option.some.injEq] at hheld hfinished
  obtain ⟨⟨hsame, -⟩, hpieces⟩ :=
    write_append (by decide : 0 < 2) hreachable hs hfinished xs ys
  obtain ⟨d', s', es, hstep, hs', htoList, hpending, -⟩ := hpieces (xs ++ ys)
  rw [hheld, hterm] at htoList hpending
  rw [hstore] at htoList
  refine ⟨s, by decide, hreachable, hs, hfinished, hsame, d', s', es, hstep, hs', ?_, hpending⟩
  rw [htoList]
  rfl

end Device

end RecordRing
