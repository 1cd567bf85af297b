import RecordRing.Device.Basic
import RecordRing.Proofs.Assembly
import RecordRing.Proofs.Commit

/-!
# What one call does to a session and its store

A session moves bytes from the chunks that are written into the store. What a call moves is its
account (`Session.Accounts`): the assembler's account and the store's, about the same records, with
a log that tells of these records and releases their bytes. Accounts of calls one after the other
add up, as those of the assembler and the store do.

A call that is denied the lock or refused memory has an account too. It may be that of nothing at
all, or, where memory was refused only for a later record, that of the records before it. Either way
what is not moved stays buffered, and the next account begins with it.

## Main definitions

* `Session.Accounts` — the account of calls
* `Session.took` — a session whose chunk was taken in

## Main results

* `Session.Accounts.trans` — accounts add up
* `Session.write_outcomes` — all that writing can do
* `Session.write_cases`, `flush_accounts`, `close_cases` — the calls that move bytes
* `Session.flush_of_notMem`, `close_of_notMem` — flushing and ending where no finished record is
  buffered
* `Session.read_accounts`, `seek_accounts`, `seekTo_accounts` — the calls that move none
-/

namespace RecordRing

variable {n : Nat}

namespace Session

/-! ### Accounts -/

/-- From `s` and `store`, taking `input` in and putting `rs` into the store leads to `s'` and
`store'`, and `events` tell of it. -/
structure Accounts (s : Session) (store : Store n) (input : List UInt8) (rs : List Record)
    (s' : Session) (store' : Store n) (events : List Event) : Prop where
  /-- The assembler cuts the records. -/
  advances : s.assembler.Advances input rs s'.assembler
  /-- The store gets them. -/
  commits : store.Commits rs store' events
  /-- Their bytes leave the session, and no others. -/
  releasedBy_eq : releasedBy events = concat rs

variable {s s' s'' : Session} {store store' store'' : Store n} {input input' : List UInt8}
  {rs rs' : List Record} {es es' : List Event}

/-- A call that only says something. -/
theorem Accounts.refl (hv : s.assembler.Valid) (store : Store n)
    (hes : es.filter Event.changesStore = []) (hreleased : releasedBy es = []) :
    s.Accounts store [] [] s store es where
  advances := .refl hv
  commits := .refl store hes
  releasedBy_eq := hreleased

theorem Accounts.trans (h : s.Accounts store input rs s' store' es)
    (h' : s'.Accounts store' input' rs' s'' store'' es') :
    s.Accounts store (input ++ input') (rs ++ rs') s'' store'' (es ++ es') where
  advances := h.advances.trans h'.advances
  commits := h.commits.trans h'.commits
  releasedBy_eq := by
    rw [releasedBy_append, h.releasedBy_eq, h'.releasedBy_eq, concat_append]

/-- A note at the end of the log. -/
theorem Accounts.note (h : s.Accounts store input rs s' store' es)
    (hes : es'.filter Event.changesStore = []) (hreleased : releasedBy es' = []) :
    s.Accounts store input rs s' store' (es ++ es') := by
  have hnote := h.trans (.refl h.advances.valid store' hes hreleased)
  rwa [List.append_nil, List.append_nil] at hnote

/-! ### Putting records in -/

/-- Putting in what is buffered. Only a refusal leaves a finished record behind. -/
theorem commitBuffered_accounts (hv : s.assembler.Valid) (store : Store n) (memory : Allocator) :
    s.Accounts store [] (s.assembler.popAll memory).2.1 (s.commitBuffered store memory).1
        (s.commitBuffered store memory).2.1 (s.commitBuffered store memory).2.2.1 ∧
      ((s.commitBuffered store memory).2.2.2 = none →
        s.assembler.terminator ∉ (s.commitBuffered store memory).1.assembler.held) :=
  ⟨⟨hv.popAll_advances memory, Store.commits_commitAll store _,
    Store.releasedBy_commitAll store _⟩, hv.notMem_popAll memory⟩

theorem commitBuffered_generous (s : Session) (store : Store n) :
    (s.commitBuffered store .generous).2.2.2 = none := s.assembler.popAll_generous

theorem commitWritten_eq (s : Session) (store : Store n) (memory : Allocator)
    (first : Option Record) :
    s.commitWritten store memory first =
      let (store, events) := store.commitAll first.toList
      let rest := s.commitBuffered store memory
      (rest.1, rest.2.1, events ++ rest.2.2.1 ++
        rest.2.2.2.toList.map fun e => .leftBuffered (.assemble e)) := rfl

/-- From feeding on: the record that the chunk completed first, those behind it, and a note of one
that could not be cut. -/
theorem commitWritten_accounts {first : Option Record}
    (h : s.assembler.Advances input first.toList s'.assembler) (store : Store n)
    (memory : Allocator) :
    s.Accounts store input (first.toList ++ (s'.assembler.popAll memory).2.1)
        (s'.commitWritten store memory first).1 (s'.commitWritten store memory first).2.1
        (s'.commitWritten store memory first).2.2 ∧
      (memory = .generous →
        s.assembler.terminator ∉ (s'.commitWritten store memory first).1.assembler.held) := by
  have hfirst : s.Accounts store input first.toList s' (store.commitAll first.toList).1
      (store.commitAll first.toList).2 :=
    ⟨h, Store.commits_commitAll store _, Store.releasedBy_commitAll store _⟩
  obtain ⟨hrest, hdone⟩ :=
    commitBuffered_accounts h.valid (store.commitAll first.toList).1 memory
  have hall := hfirst.trans hrest
  rw [List.append_nil] at hall
  rw [commitWritten_eq]
  refine ⟨hall.note ?_ ?_, ?_⟩
  · cases (s'.commitBuffered (store.commitAll first.toList).1 memory).2.2.2 <;> rfl
  · cases (s'.commitBuffered (store.commitAll first.toList).1 memory).2.2.2 <;> rfl
  · rintro rfl
    rw [← h.terminator_eq]
    exact hdone (commitBuffered_generous s' _)

/-! ### Writing -/

/-- The session whose chunk was taken in by its assembler, which is `a` now. -/
def took (s : Session) (a : Assembler) (chunk : List UInt8) : Session :=
  { s with assembler := a, position := s.position + chunk.length }

/-- **All that writing can do**: there is nothing to write; the lock is denied; memory is refused;
the chunk completes no record; or it does, and the store gets it and those behind it. -/
theorem write_outcomes (hv : s.assembler.Valid) (store : Store n) (c : Conditions)
    (chunk : List UInt8) :
    (chunk = [] ∧ s.write store c chunk = ⟨s, store, [], .ok 0⟩) ∨
    (chunk ≠ [] ∧ s.assembler.completesWith chunk = true ∧ c.lock = .cancelled ∧
      s.write store c chunk = s.denied store) ∨
    chunk ≠ [] ∧ (s.assembler.completesWith chunk = true → c.lock = .granted) ∧
      ((∃ e, s.assembler.feed c.memory chunk = (s.assembler, .error e) ∧
        s.write store c chunk = ⟨s, store, [], .error (.assemble e)⟩) ∨
      (∃ a, s.assembler.feed c.memory chunk = (a, .ok none) ∧
        s.assembler.Advances chunk [] a ∧ s.assembler.terminator ∉ a.held ∧
        s.write store c chunk =
          ⟨s.took a chunk, store, [.wrote chunk.length a.heldSize (s.position + chunk.length)],
            .ok chunk.length⟩) ∨
      ∃ a r, s.assembler.feed c.memory chunk = (a, .ok (some r)) ∧
        s.assembler.Advances chunk [r] a ∧
        let written := (s.took a chunk).commitWritten store c.memory (some r)
        s.write store c chunk =
          ⟨written.1, written.2.1, written.2.2 ++
            [.wrote chunk.length written.1.assembler.heldSize written.1.position],
            .ok chunk.length⟩) := by
  by_cases hchunk : chunk.isEmpty = true
  · obtain rfl : chunk = [] := List.isEmpty_iff.1 hchunk
    exact .inl ⟨rfl, rfl⟩
  have hne : chunk ≠ [] := mt List.isEmpty_iff.2 hchunk
  rw [write, if_neg hchunk, writeNeedsLock]
  by_cases hdenied : (s.assembler.completesWith chunk && c.lock == .cancelled) = true
  · rw [if_pos hdenied]
    rw [Bool.and_eq_true, beq_iff_eq] at hdenied
    exact .inr (.inl ⟨hne, hdenied.1, hdenied.2, rfl⟩)
  rw [if_neg hdenied]
  refine .inr (.inr ⟨hne, ?_, ?_⟩)
  · intro hcompletes
    rw [hcompletes, Bool.true_and, beq_iff_eq] at hdenied
    cases h : c.lock with
    | granted => rfl
    | cancelled => exact absurd h hdenied
  · rcases hv.feed_cases c.memory chunk with
      ⟨e, h⟩ | ⟨a, h, hcompletes, hadv, hnot⟩ | ⟨a, r, h, hcompletes, hadv⟩
    · rw [h]
      exact .inl ⟨e, rfl, rfl⟩
    · rw [h, hcompletes]
      exact .inr (.inl ⟨a, rfl, hadv, hnot hne, rfl⟩)
    · rw [h, hcompletes]
      exact .inr (.inr ⟨a, r, rfl, hadv, rfl⟩)

/-- **What writing does**: nothing at all, or it takes the chunk in and puts into the store what can
be cut. Where nothing stands in the way it takes the chunk in, and leaves no finished record. -/
theorem write_cases (hv : s.assembler.Valid) (store : Store n) (c : Conditions)
    (chunk : List UInt8) :
    (∃ e es, s.write store c chunk = ⟨s, store, es, .error e⟩ ∧ c ≠ .clear ∧
        s.Accounts store [] [] s store es) ∨
      ∃ rs s' store' es, s.write store c chunk = ⟨s', store', es, .ok chunk.length⟩ ∧
        s'.position = s.position + chunk.length ∧ s.Accounts store chunk rs s' store' es ∧
        (c = .clear → s.assembler.terminator ∉ s.assembler.held →
          s.assembler.terminator ∉ s'.assembler.held) := by
  rcases s.write_outcomes hv store c chunk with
    ⟨rfl, h⟩ | ⟨-, -, hlock, h⟩ |
      ⟨-, -, ⟨e, hfed, h⟩ | ⟨a, -, hadv, hnot, h⟩ | ⟨a, r, -, hadv, h⟩⟩ <;>
    rw [h]
  · exact .inr ⟨[], s, store, [], rfl, rfl, .refl hv store rfl rfl, fun _ hnot => hnot⟩
  · refine .inl ⟨_, _, rfl, ?_, .refl hv store rfl rfl⟩
    rintro rfl
    exact absurd hlock nofun
  · refine .inl ⟨_, _, rfl, ?_, .refl hv store rfl rfl⟩
    rintro rfl
    obtain ⟨b, first, hfed'⟩ := s.assembler.feed_generous chunk
    exact absurd (hfed.symm.trans hfed') (by simp)
  · exact .inr ⟨[], _, _, _, rfl, rfl, ⟨hadv, .refl store rfl, rfl⟩, fun _ _ => hnot⟩
  · have hfed : s.assembler.Advances chunk (some r).toList (s.took a chunk).assembler := hadv
    obtain ⟨hall, hdone⟩ := commitWritten_accounts hfed store c.memory
    refine .inr ⟨_, _, _, _, rfl, rfl, hall.note rfl rfl, ?_⟩
    rintro rfl -
    exact hdone rfl

/-! ### Flushing -/

/-- **Flushing where no finished record is buffered does nothing**, and asks for no lock. -/
theorem flush_of_not_hasComplete (h : ¬ s.assembler.hasComplete = true) (store : Store n)
    (c : Conditions) : s.flush store c = ⟨s, store, [], .ok ()⟩ := by
  rw [flush, flushNeedsLock, if_neg h]

theorem flush_of_notMem (hv : s.assembler.Valid)
    (hnot : s.assembler.terminator ∉ s.assembler.held) (store : Store n) (c : Conditions) :
    s.flush store c = ⟨s, store, [], .ok ()⟩ :=
  flush_of_not_hasComplete (mt hv.hasComplete_iff.1 hnot) store c

/-- **What flushing does**: it takes nothing in, and puts into the store what can be cut. It is done
only if no finished record is left, and where nothing stands in the way it is done. -/
theorem flush_accounts (hv : s.assembler.Valid) (store : Store n) (c : Conditions) :
    (∃ rs, s.Accounts store [] rs (s.flush store c).session (s.flush store c).store
        (s.flush store c).events) ∧
      (s.flush store c).session.position = s.position ∧
      ((s.flush store c).result = .ok () →
        s.assembler.terminator ∉ (s.flush store c).session.assembler.held) ∧
      (c = .clear → (s.flush store c).result = .ok ()) := by
  by_cases hneeds : s.flushNeedsLock = true
  · rw [flush, if_pos hneeds]
    obtain ⟨lock, memory⟩ := c
    cases lock with
    | cancelled =>
      refine ⟨⟨[], .refl hv store rfl rfl⟩, rfl, fun h => absurd h (by simp [denied]), ?_⟩
      intro h
      exact absurd (congrArg Conditions.lock h) (by simp [Conditions.clear])
    | granted =>
      obtain ⟨hall, hdone⟩ := commitBuffered_accounts hv store memory
      refine ⟨⟨_, hall⟩, rfl, fun h => hdone ?_, ?_⟩
      · cases hfault : (s.commitBuffered store memory).2.2.2 with
        | none => rfl
        | some e =>
          simp only [hfault] at h
          exact absurd h (by simp)
      · rintro h
        obtain rfl : memory = .generous := congrArg Conditions.memory h
        simp only [commitBuffered_generous]
  · have hnot : s.assembler.terminator ∉ s.assembler.held :=
      fun h => hneeds (hv.hasComplete_iff.2 h)
    rw [flush_of_notMem hv hnot]
    exact ⟨⟨[], .refl hv store rfl rfl⟩, rfl, fun _ => hnot, fun _ => rfl⟩

/-! ### Ending -/

/-- What a session gives up when it ends. -/
theorem releasedBy_unfinished (a : Assembler) :
    releasedBy (a.pending?.toList.map Event.closedUnfinished) = a.held := by
  rw [Assembler.held]
  cases a.pending? with
  | none => rfl
  | some bs => exact List.append_nil bs

/-- **Ending where no finished record is buffered does not touch the store**: what is buffered is
given up. -/
theorem close_of_notMem (hv : s.assembler.Valid) (hnot : s.assembler.terminator ∉ s.assembler.held)
    (store : Store n) (c : Conditions) :
    s.close store c = (store, s.assembler.pending?.toList.map Event.closedUnfinished) := by
  rw [close, flush_of_notMem hv hnot]
  rfl

/-- **What ending does**: it puts into the store what can be cut, and gives up the other bytes.
Where nothing stands in the way, these hold no finished record. -/
theorem close_cases (hv : s.assembler.Valid) (store : Store n) (c : Conditions) :
    ∃ rs b, s.assembler.Advances [] rs b ∧
      store.Commits rs (s.close store c).1 (s.close store c).2 ∧
      releasedBy (s.close store c).2 = concat rs ++ b.held ∧
      (c = .clear → s.assembler.terminator ∉ b.held) := by
  obtain ⟨⟨rs, hall⟩, -, hdone, hclear⟩ := flush_accounts hv store c
  let unfinished := (s.flush store c).session.assembler.pending?.toList.map Event.closedUnfinished
  obtain ⟨note, hevents, hsilent, hkept⟩ : ∃ note,
      (s.close store c).2 = (s.flush store c).events ++ note ++ unfinished ∧
        note.filter Event.changesStore = [] ∧ releasedBy note = [] := by
    refine ⟨_, rfl, ?_, ?_⟩ <;> cases (s.flush store c).result <;> rfl
  have hnoted : s.Accounts store [] rs (s.flush store c).session (s.close store c).1
      ((s.flush store c).events ++ note) := hall.note hsilent hkept
  have hquiet : unfinished.filter Event.changesStore = [] := by
    simp only [unfinished]
    cases (s.flush store c).session.assembler.pending? <;> rfl
  refine ⟨rs, (s.flush store c).session.assembler, hall.advances, ?_, ?_,
    fun h => hdone (hclear h)⟩
  · have hcommits := hnoted.commits.trans (.refl _ hquiet)
    rwa [List.append_nil, ← hevents] at hcommits
  · rw [hevents, releasedBy_append, hnoted.releasedBy_eq, releasedBy_unfinished]

/-! ### Reading and moving -/

/-- Reading moves nothing but the position. -/
theorem read_accounts (hv : s.assembler.Valid) (store : Store n) (c : Conditions) (count : Nat) :
    s.Accounts store [] [] (s.read store c count).session (s.read store c count).store
      (s.read store c count).events := by
  rw [read]
  split
  · exact .refl hv store rfl rfl
  · cases c.lock with
    | cancelled => exact .refl hv store rfl rfl
    | granted =>
      cases store.locate? s.position with
      | none => exact .refl hv store rfl rfl
      | some found => exact ⟨.refl hv, .refl store rfl, rfl⟩

theorem seek_accounts (hv : s.assembler.Valid) (store : Store n) (c : Conditions)
    (origin : Origin) :
    s.Accounts store [] [] (s.seek store c origin).session (s.seek store c origin).store
      (s.seek store c origin).events := by
  rw [seek]
  cases c.lock with
  | cancelled => exact .refl hv store rfl rfl
  | granted =>
    cases h : RecordRing.seek s.position store.size origin with
    | error e => simp only [h]; exact .refl hv store rfl rfl
    | ok position => simp only [h]; exact ⟨.refl hv, .refl store rfl, rfl⟩

theorem seekTo_accounts (hv : s.assembler.Valid) (store : Store n) (c : Conditions)
    (target : SeekTo) :
    s.Accounts store [] [] (s.seekTo store c target).session (s.seekTo store c target).store
      (s.seekTo store c target).events := by
  rw [seekTo]
  cases c.lock with
  | cancelled => exact .refl hv store rfl rfl
  | granted =>
    cases store.address target.record.toNat target.offset.toNat with
    | error e => exact .refl hv store rfl rfl
    | ok position => exact ⟨.refl hv, .refl store rfl, rfl⟩

end Session

end RecordRing
