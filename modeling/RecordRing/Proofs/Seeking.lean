import RecordRing.Proofs.Addressing
import RecordRing.Proofs.Replay

/-!
# Seeking prints the end of what replaying prints

Both commands write the input in the same way. One copies the store then, and the other looks up a
byte by the ordinal of its record and reads on from there, record by record, with the session that
has just written. That this session has a position and perhaps the beginning of a record of its own
makes no difference, since the lookup sets the position and a read does not look at what is
buffered. And the reads end only where the data does.

## Main definitions

* `PrintsFrom` — what is printed from a byte of a record on, and how it fails if there is none

## Main results

* `copyOutput_eq` — reading on prints everything from the position on
* `PrintsFrom.unique` — the records fix the output
* `seek_agrees_with_replay` — seeking prints the end of what replaying prints
-/

namespace RecordRing

/-! ### Reading on -/

/-- **Reading on prints everything from the position on**, whatever the session has buffered. -/
theorem copyOutput_eq (s : Session) (store : Store defaultCapacity) :
    (copyOutput s store).bytes = store.contents.drop s.position ∧
      (copyOutput s store).failure = none := by
  have hreads : store.size - s.position < store.size + 1 := by omega
  obtain ⟨texts, es, hread, htexts⟩ :=
    s.readUpTo_granted (c := .clear) store rfl (show 0 < copySize by decide) hreads
  rw [copyOutput, Session.readAll, hread]
  exact ⟨htexts, rfl⟩

/-! ### The output -/

/-- The output `o` is that of seeking byte `offset` of record `index`, where `records` are retained
and replaying prints `replayed`. -/
structure PrintsFrom (records : List (List UInt8)) (replayed : List UInt8) (index offset : Nat)
    (o : Output) : Prop where
  /-- A byte that there is is printed, and everything behind it: the end of what replaying
  prints. -/
  found : ∀ r, records[index]? = some r → offset < r.length →
    o.bytes = r.drop offset ++ (records.drop (index + 1)).flatten ∧
      o.bytes = replayed.drop ((records.take index).flatten.length + offset) ∧ o.failure = none
  /-- The record is too short. -/
  offsetOutOfRange : ∀ r, records[index]? = some r → r.length ≤ offset →
    o.bytes = [] ∧ o.failure =
      some (.replay (.device (.lookup (.offsetOutOfRange index offset r.length))))
  /-- There are too few records. -/
  recordOutOfRange : records.length ≤ index →
    o.bytes = [] ∧ o.failure =
      some (.replay (.device (.lookup (.recordOutOfRange index records.length))))

/-- **The records fix the output.** -/
theorem PrintsFrom.unique {records : List (List UInt8)} {replayed replayed' : List UInt8}
    {index offset : Nat} {o o' : Output} (h : PrintsFrom records replayed index offset o)
    (h' : PrintsFrom records replayed' index offset o') :
    o.bytes = o'.bytes ∧ o.failure = o'.failure := by
  cases hr : records[index]? with
  | none =>
    have hle : records.length ≤ index := List.getElem?_eq_none_iff.1 hr
    obtain ⟨hbytes, hfailure⟩ := h.recordOutOfRange hle
    obtain ⟨hbytes', hfailure'⟩ := h'.recordOutOfRange hle
    exact ⟨hbytes.trans hbytes'.symm, hfailure.trans hfailure'.symm⟩
  | some r =>
    by_cases hlt : offset < r.length
    · obtain ⟨hbytes, -, hfailure⟩ := h.found r hr hlt
      obtain ⟨hbytes', -, hfailure'⟩ := h'.found r hr hlt
      exact ⟨hbytes.trans hbytes'.symm, hfailure.trans hfailure'.symm⟩
    · obtain ⟨hbytes, hfailure⟩ := h.offsetOutOfRange r hr (Nat.le_of_not_lt hlt)
      obtain ⟨hbytes', hfailure'⟩ := h'.offsetOutOfRange r hr (Nat.le_of_not_lt hlt)
      exact ⟨hbytes.trans hbytes'.symm, hfailure.trans hfailure'.symm⟩

theorem PrintsFrom.after {records : List (List UInt8)} {replayed : List UInt8}
    {index offset : Nat} {o : Output} (h : PrintsFrom records replayed index offset o)
    (log : List LogLine) : PrintsFrom records replayed index offset (o.after log) :=
  ⟨h.found, h.offsetOutOfRange, h.recordOutOfRange⟩

/-! ### The command -/

section Command

variable {config : Config} {created : List Event} {d : Device defaultCapacity} {size : Nat}
  {input : List UInt8} {reads : List Piece}

/-- Where the lookup fails, so does the command, and it prints nothing. -/
theorem seekOutput_of_error {s : Session} {store : Store defaultCapacity} {es : List Event}
    {written : Nat} (hreplay : d.replay reads = ⟨s, store, es, .ok written⟩) {target : SeekTo}
    {e : LookupError}
    (h : store.address target.record.toNat target.offset.toNat = .error e) :
    (seekOutput d reads target).bytes = [] ∧
      (seekOutput d reads target).failure = some (.replay (.device (.lookup e))) := by
  have hmoved : s.seekTo store .clear target = ⟨s, store, [], .error (.lookup e)⟩ := by
    rw [Session.seekTo, Conditions.clear]
    simp only [h]
  rw [seekOutput, hreplay]
  dsimp only
  rw [hmoved]
  exact ⟨rfl, rfl⟩

/-- Where it finds a position, everything from there on is printed. -/
theorem seekOutput_of_ok {s : Session} {store : Store defaultCapacity} {es : List Event}
    {written : Nat} (hreplay : d.replay reads = ⟨s, store, es, .ok written⟩) {target : SeekTo}
    {position : Nat}
    (h : store.address target.record.toNat target.offset.toNat = .ok position) :
    (seekOutput d reads target).bytes = store.contents.drop position ∧
      (seekOutput d reads target).failure = none := by
  have hmoved : s.seekTo store .clear target =
      ⟨{ s with position }, store, [.soughtRecord target position], .ok position⟩ := by
    rw [Session.seekTo, Conditions.clear]
    simp only [h]
  rw [seekOutput, hreplay]
  dsimp only
  rw [hmoved]
  exact copyOutput_eq { s with position } store

theorem seekOutput_reads (h : Device.new defaultCapacity config = .ok (d, created))
    (hreads : Reads size input reads) (target : SeekTo) :
    PrintsFrom (retained config.terminator input) (printed config.terminator input .text)
      target.record.toNat target.offset.toNat (seekOutput d reads target) := by
  obtain ⟨s, store, es, q, hreplay, hholds, hq, -⟩ := Device.replay_reads h hreads
  have hcontents : store.contents = concat q := by
    rw [Store.contents, hholds.toList_eq]
  rw [printed, ← hq, flatten_map_bytes]
  refine ⟨fun bs hbs hlt => ?_, fun bs hbs hle => ?_, fun hle => ?_⟩
  · rw [List.getElem?_map] at hbs
    obtain ⟨r, hr, rfl⟩ := Option.map_eq_some_iff.1 hbs
    rw [Record.length_bytes] at hlt
    obtain ⟨hbytes, hfailure⟩ := seekOutput_of_ok hreplay (hholds.address_of_lt hr hlt)
    rw [hcontents] at hbytes
    refine ⟨?_, ?_, hfailure⟩
    · rw [hbytes, ← List.map_drop, flatten_map_bytes, ← drop_concat_append (Nat.le_of_lt hlt),
        ← eq_take_append_cons_drop hr]
    · rw [hbytes, ← List.map_take, flatten_map_bytes, length_concat]
  · rw [List.getElem?_map] at hbs
    obtain ⟨r, hr, rfl⟩ := Option.map_eq_some_iff.1 hbs
    rw [Record.length_bytes] at hle ⊢
    exact seekOutput_of_error hreplay (hholds.address_of_le hr hle)
  · rw [List.length_map] at hle ⊢
    exact seekOutput_of_error hreplay (hholds.address_of_length_le hle)

/-- **Seeking prints the end of what replaying prints**, from the byte that it names on; if there is
no such byte, it prints nothing and fails with the lookup. Neither how the input is read nor what
comes behind its last piece makes a difference. -/
theorem seek_agrees_with_replay (hconfig : config.validate = .ok ()) (input : List UInt8)
    (target : SeekTo) :
    (∃ d created, Device.new defaultCapacity config = .ok (d, created) ∧
      ∀ size reads, Reads size input reads →
        (∀ size' reads', Reads size' input reads' →
          PrintsFrom (retained config.terminator input)
            (replayOutput d reads' size' .text).bytes target.record.toNat target.offset.toNat
            (seekOutput d reads target)) ∧
        ∀ size' input' reads', Reads size' input' reads' →
          pieces config.terminator input' = pieces config.terminator input →
          (seekOutput d reads' target).bytes = (seekOutput d reads target).bytes ∧
            (seekOutput d reads' target).failure = (seekOutput d reads target).failure) ∧
      ∀ env options, options.settings env = .ok config → 0 < options.chunkSize →
        (options.source env).bytes? = some input →
        PrintsFrom (retained config.terminator input)
          (Invocation.run env (.replay options .text)).bytes
          target.record.toNat target.offset.toNat
          (Invocation.run env (.seek options target.record.toNat target.offset.toNat)) := by
  have hnew : Device.new defaultCapacity config = .ok _ := Device.new_of_validate hconfig
  refine ⟨⟨_, _, hnew, fun size reads hreads => ⟨fun size' reads' hreads' => ?_,
    fun size' input' reads' hreads' hpieces => ?_⟩⟩, fun env options hsettings hchunk hsource => ?_⟩
  · rw [(replayOutput_reads hnew hreads' size' .text).1]
    exact seekOutput_reads hnew hreads target
  · have hsame : retained config.terminator input' = retained config.terminator input := by
      rw [retained, hpieces, retained]
    have hother := seekOutput_reads hnew hreads' target
    rw [hsame] at hother
    exact hother.unique (seekOutput_reads hnew hreads target)
  · have hreads := Source.reads_pieces hsource hchunk
    obtain ⟨hprinted, -⟩ := replayOutput_reads hnew hreads options.chunkSize .text
    rw [Invocation.run, Invocation.run, runReplay, runSeek, withDevice_of_settings hchunk hsettings,
      withDevice_of_settings hchunk hsettings, UInt32.ofNat_toNat, UInt32.ofNat_toNat]
    refine PrintsFrom.after ?_ _
    rw [Output.after, InputOptions.pieces, hprinted]
    exact seekOutput_reads hnew hreads target

/-- Two records and the beginning of a third are read by two bytes and by seven. The second record
has a byte at offset one, and none at offset three; and there is no third record. -/
theorem seek_agrees_with_replay_two_records :
    let input : List UInt8 := [97, 98, 10, 99, 100, 10, 120, 121]
    let reads (size : Nat) : List Piece := (blocks size input).map .data
    ∃ d created, Config.default.validate = .ok () ∧
      Device.new defaultCapacity .default = .ok (d, created) ∧
      Reads 2 input (reads 2) ∧ Reads 7 input (reads 7) ∧
      (seekOutput d (reads 2) ⟨0, 1⟩).bytes = [98, 10, 99, 100, 10] ∧
      (seekOutput d (reads 2) ⟨0, 1⟩).bytes = (replayOutput d (reads 7) 7 .text).bytes.drop 1 ∧
      (seekOutput d (reads 2) ⟨1, 3⟩).failure =
        some (.replay (.device (.lookup (.offsetOutOfRange 1 3 3)))) ∧
      (seekOutput d (reads 2) ⟨2, 0⟩).failure =
        some (.replay (.device (.lookup (.recordOutOfRange 2 2)))) := by
  intro input reads
  have hreads : ∀ size, 0 < size → Reads size input (reads size) := fun size hsize =>
    Source.reads_pieces (show (Source.file input).bytes? = some input from rfl) hsize
  have hrecords : retained 10 input = [[97, 98, 10], [99, 100, 10]] := by decide
  have hvalid : Config.default.validate = .ok () := rfl
  have hnew : Device.new defaultCapacity .default = .ok _ := Device.new_of_validate hvalid
  have hprints : ∀ target : SeekTo, PrintsFrom [[97, 98, 10], [99, 100, 10]]
      (replayOutput ⟨.default, .empty, []⟩ (reads 7) 7 .text).bytes target.record.toNat
      target.offset.toNat (seekOutput ⟨.default, .empty, []⟩ (reads 2) target) := by
    intro target
    obtain ⟨⟨d, created, hd, hseek⟩, -⟩ := seek_agrees_with_replay hvalid input target
    obtain ⟨rfl, -⟩ := Prod.mk.inj (Except.ok.inj (hnew.symm.trans hd))
    have hprints := (hseek 2 (reads 2) (hreads 2 (by decide))).1 7 (reads 7) (hreads 7 (by decide))
    rwa [show Config.default.terminator = 10 from rfl, hrecords] at hprints
  obtain ⟨hbytes, hsuffix, -⟩ := (hprints ⟨0, 1⟩).found _ rfl (by decide)
  exact ⟨_, _, hvalid, hnew, hreads 2 (by decide), hreads 7 (by decide), hbytes, hsuffix,
    ((hprints ⟨1, 3⟩).offsetOutOfRange _ rfl (by decide)).2,
    ((hprints ⟨2, 0⟩).recordOutOfRange (by decide)).2⟩

end Command

end RecordRing
