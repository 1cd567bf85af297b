import RecordRing.Command
import RecordRing.Proofs.Response

/-!
# Replaying an input, in whatever pieces it comes

An input is written as it is read, and how it is read depends on the size of the chunks, on where
it comes from, and on reads that are interrupted. None of this may show in what is printed, which
is said of the input alone: its last ten pieces.

So there are two steps. Reads that go through an input are described by the bytes they give
(`Reads`), and every reader there is makes such reads. Writing them, then, is told by the account of
the session that writes, whose records are fixed by the bytes as soon as no finished record is left
behind.

## Main definitions

* `Reads` — reads that go through an input
* `retained`, `report`, `printed` — what is printed of an input

## Main results

* `Source.reads_pieces` — files and the standard input are gone through
* `Session.replayFrom_reads`, `Device.replay_reads` — writing an input
* `replay_prints` — what is printed depends on the input alone
-/

namespace RecordRing

variable {n : Nat}

/-! ### Going through an input -/

/-- The reads go through the input, and each asks for `size` bytes. Whatever comes behind a read
that gives no bytes is not looked at. -/
inductive Reads (size : Nat) : List UInt8 → List Piece → Prop
  | ended : Reads size [] []
  | empty (rest : List Piece) : Reads size [] (.data [] :: rest)
  | interrupted {input : List UInt8} {reads : List Piece} (h : Reads size input reads) :
    Reads size input (.interrupted :: reads)
  | data {bs input : List UInt8} {reads : List Piece} (hne : bs ≠ []) (hle : bs.length ≤ size)
    (h : Reads size input reads) : Reads size (bs ++ input) (.data bs :: reads)

/-- The bytes of a source that can be read. -/
def Source.bytes? : Source → Option (List UInt8)
  | .file bytes | .standardInput bytes => some bytes
  | .broken _ => none

variable {size : Nat} {input bs : List UInt8} {reads : List Piece}

theorem reads_map_data {bss : List (List UInt8)}
    (h : ∀ bs ∈ bss, bs ≠ [] ∧ bs.length ≤ size) : Reads size bss.flatten (bss.map .data) := by
  induction bss with
  | nil => exact .ended
  | cons bs bss ih =>
    obtain ⟨⟨hne, hle⟩, hrest⟩ := List.forall_mem_cons.1 h
    exact .data hne hle (ih hrest)

theorem flatten_blocksUpTo (hsize : 0 < size) {count : Nat} (hle : bs.length ≤ count) :
    (blocksUpTo size count bs).flatten = bs := by
  induction count generalizing bs with
  | zero =>
    rw [List.length_eq_zero_iff.1 (Nat.le_zero.1 hle)]
    rfl
  | succ count ih =>
    cases bs with
    | nil => rfl
    | cons b bs =>
      have hdrop : ((b :: bs).drop size).length ≤ count := by
        rw [List.length_drop]
        omega
      rw [blocksUpTo, List.flatten_cons, ih hdrop, List.take_append_drop]

theorem mem_blocksUpTo (hsize : 0 < size) {count : Nat} (h : bs ∈ blocksUpTo size count input) :
    bs ≠ [] ∧ bs.length ≤ size := by
  induction count generalizing input with
  | zero => exact absurd h List.not_mem_nil
  | succ count ih =>
    cases input with
    | nil => exact absurd h List.not_mem_nil
    | cons b input =>
      rcases List.mem_cons.1 h with rfl | hrest
      · refine ⟨?_, List.length_take_le _ _⟩
        rw [Ne, List.take_eq_nil_iff, not_or]
        exact ⟨Nat.ne_of_gt hsize, nofun⟩
      · exact ih hrest

/-- Blocks go through all of the bytes. -/
theorem flatten_blocks (hsize : 0 < size) (bs : List UInt8) : (blocks size bs).flatten = bs :=
  flatten_blocksUpTo hsize (Nat.le_refl _)

/-- No block is empty, and none is too long. -/
theorem mem_blocks (hsize : 0 < size) (h : bs ∈ blocks size input) :
    bs ≠ [] ∧ bs.length ≤ size := mem_blocksUpTo hsize h

/-- Blocks of blocks go through all of the bytes too. -/
theorem flatten_flatMap_blocks (hsize : 0 < size) (bss : List (List UInt8)) :
    (bss.flatMap (blocks size)).flatten = bss.flatten := by
  induction bss with
  | nil => rfl
  | cons bs bss ih =>
    rw [List.flatMap_cons, List.flatten_append, flatten_blocks hsize, ih, List.flatten_cons]

/-- **A source that can be read is gone through**, whether by way of a buffer or not. -/
theorem Source.reads_pieces {source : Source} (h : source.bytes? = some input) (hsize : 0 < size) :
    Reads size input (source.pieces size) := by
  have hblocks : ∀ bytes, Reads size bytes ((blocks size bytes).map .data) := by
    intro bytes
    have hreads := reads_map_data fun bs (hbs : bs ∈ blocks size bytes) => mem_blocks hsize hbs
    rwa [flatten_blocks hsize] at hreads
  cases source with
  | broken fault => exact absurd h nofun
  | file bytes =>
    obtain rfl := Option.some.inj h
    exact hblocks bytes
  | standardInput bytes =>
    obtain rfl := Option.some.inj h
    rw [pieces]
    split
    · -- the buffer is refilled with large blocks, and gives small ones
      have hmem : ∀ bs ∈ (blocks standardBuffer bytes).flatMap (blocks size),
          bs ≠ [] ∧ bs.length ≤ size := by
        intro bs hbs
        obtain ⟨block, -, hblock⟩ := List.mem_flatMap.1 hbs
        exact mem_blocks hsize hblock
      have hreads := reads_map_data hmem
      rwa [flatten_flatMap_blocks hsize, flatten_blocks (by decide)] at hreads
    · exact hblocks bytes

/-! ### Writing an input -/

theorem Session.endReplay_of_notMem {s : Session} (hv : s.assembler.Valid)
    (hnot : s.assembler.terminator ∉ s.assembler.held) (store : Store n) (c : Conditions)
    (written : Nat) : s.endReplay store c written = ⟨s, store, [], .ok written⟩ := by
  rw [Session.endReplay, Session.flush_of_notMem hv hnot]
  rfl

/-- **Writing an input** takes in all of it and leaves no finished record behind, however it is
read. -/
theorem Session.replayFrom_reads {s : Session} (hv : s.assembler.Valid)
    (hnot : s.assembler.terminator ∉ s.assembler.held) (hreads : Reads size input reads)
    (store : Store n) (written : Nat) :
    ∃ rs s' store' es, s.replayFrom store .clear written reads =
        ⟨s', store', es, .ok (written + input.length)⟩ ∧
      s.Accounts store input rs s' store' es ∧ s.assembler.terminator ∉ s'.assembler.held := by
  induction hreads generalizing s store written with
  | ended | empty rest =>
    exact ⟨[], s, store, [], Session.endReplay_of_notMem hv hnot store _ written,
      .refl hv store rfl rfl, hnot⟩
  | interrupted _ ih => exact ih hv hnot store written
  | @data bs input reads hne _ _ ih =>
    obtain ⟨b, bs, rfl⟩ := List.exists_cons_of_ne_nil hne
    rcases s.write_cases hv store .clear (b :: bs) with
      ⟨e, es, -, hc, -⟩ | ⟨rs, s₁, store₁, es, hwrite, -, hall, hclear⟩
    · exact absurd rfl hc
    have hterm : s₁.assembler.terminator = s.assembler.terminator := hall.advances.terminator_eq
    obtain ⟨rs', s₂, store₂, es', hrest, hall', hnot'⟩ :=
      ih hall.advances.valid (hterm ▸ hclear rfl hnot) store₁ (written + (bs.length + 1))
    have hcount : written + (bs.length + 1) + input.length =
        written + (b :: bs ++ input).length := by
      rw [List.length_append, List.length_cons, Nat.add_assoc]
    refine ⟨rs ++ rs', s₂, store₂, es ++ es', ?_, hall.trans hall', hterm ▸ hnot'⟩
    rw [← hcount, Session.replayFrom, Session.writeAll, if_neg (by simp), hwrite]
    dsimp only [Except.map]
    rw [hrest]

/-! ### What is printed -/

/-- The pieces of an input that are retained. -/
def retained (t : UInt8) (input : List UInt8) : List (List UInt8) := (pieces t input).rtake 10

/-- The report of an input: how long it is, the retained pieces as text, and their number and
size. -/
def report (t : UInt8) (input : List UInt8) : Json.Value :=
  .object [
    ("bytes_written", .natural input.length),
    ("records", .list ((retained t input).map fun piece => .string (Text.decodeLossy piece))),
    ("stats", .object [
      ("capacity", .natural 10),
      ("full", .bool (10 ≤ (pieces t input).length)),
      ("retained", .natural (min 10 (pieces t input).length)),
      ("total_size", .natural (retained t input).flatten.length)])]

/-- What is printed of an input. -/
def printed (t : UInt8) (input : List UInt8) : OutputFormat → List UInt8
  | .text => (retained t input).flatten
  | .json => (report t input).indented ++ [10]

/-- The summary of a store, by the records that it holds. -/
theorem Store.Holds.stats_eq {store : Store n} {q : List Record} (h : store.Holds q) :
    store.stats = ⟨q.length, n, totalSize q, q.length = n⟩ := by
  have hfull : store.isFull = decide (q.length = n) := by
    rw [Bool.eq_iff_iff, h.isFull_iff, decide_eq_true_iff]
  rw [Store.stats, h.length_eq, hfull, Store.size, h.toList_eq, Store.capacity]

theorem flatten_map_bytes (rs : List Record) : (rs.map Record.bytes).flatten = concat rs :=
  List.flatMap_def.symm

theorem length_retained (t : UInt8) (input : List UInt8) :
    (retained t input).length = min 10 (pieces t input).length := by
  rw [retained, List.rtake, List.length_drop]
  omega

/-- **A store that holds the retained pieces** is printed as the input says. -/
theorem Store.Holds.replayBytes_eq {store : Store defaultCapacity} {q : List Record} {t : UInt8}
    (h : store.Holds q) (hq : q.map Record.bytes = retained t input) (format : OutputFormat) :
    replayBytes format input.length store = printed t input format := by
  have hcontents : concat q = (retained t input).flatten := by
    rw [← hq, flatten_map_bytes]
  cases format with
  | text => rw [replayBytes, Store.contents, h.toList_eq, hcontents, printed]
  | json =>
    have hlen : q.length = min 10 (pieces t input).length := by
      rw [← length_retained, ← hq, List.length_map]
    have hfull : decide (q.length = defaultCapacity) = decide (10 ≤ (pieces t input).length) := by
      rw [decide_eq_decide, hlen, defaultCapacity]
      omega
    have hrecords : q.map (fun r => Json.Value.string (Text.decodeLossy r.bytes)) =
        (retained t input).map fun piece => .string (Text.decodeLossy piece) := by
      rw [← hq, List.map_map]
      rfl
    rw [replayBytes, replayJson, h.stats_eq, h.toList_eq, hrecords, hfull, hlen, printed, report,
      ← hcontents, length_concat]
    rfl

/-! ### The command -/

/-- **Replaying an input on a new device** takes in all of it, and leaves the retained pieces in the
store. -/
theorem Device.replay_reads {config : Config} {created : List Event}
    {d : Device defaultCapacity} (h : Device.new defaultCapacity config = .ok (d, created))
    (hreads : Reads size input reads) :
    ∃ s store es q, d.replay reads = ⟨s, store, es, .ok input.length⟩ ∧ store.Holds q ∧
      q.map Record.bytes = retained config.terminator input ∧
      s.assembler.Valid ∧ s.assembler.terminator ∉ s.assembler.held := by
  obtain ⟨rfl, -⟩ := new_eq h
  have hempty : (Store.empty : Store defaultCapacity).Holds [] := Store.holds_empty (by decide)
  have hnew : (Session.new config.terminator ⟨0⟩).assembler.Valid := Assembler.valid_new _
  obtain ⟨rs, s, store, es, hreplay, hall, hnot⟩ :=
    Session.replayFrom_reads hnew List.not_mem_nil hreads Store.empty 0
  obtain ⟨hholds, -⟩ := hempty.commits hall.commits
  have hpieces : rs.map Record.bytes = pieces config.terminator input :=
    (hall.advances.isCut hnot).eq_pieces
  rw [Nat.zero_add] at hreplay
  refine ⟨s, store, es, _, hreplay, hholds, ?_, hall.advances.valid, ?_⟩
  · rw [List.nil_append, List.rtake, List.map_drop, hpieces, ← List.length_map Record.bytes,
      hpieces]
    rfl
  · rw [hall.advances.terminator_eq]
    exact hnot

theorem replayOutput_reads {config : Config} {created : List Event} {d : Device defaultCapacity}
    (h : Device.new defaultCapacity config = .ok (d, created)) (hreads : Reads size input reads)
    (chunkSize : Nat) (format : OutputFormat) :
    (replayOutput d reads chunkSize format).bytes = printed config.terminator input format ∧
      (replayOutput d reads chunkSize format).failure = none := by
  obtain ⟨s, store, es, q, hreplay, hholds, hq, hv, hnot⟩ := Device.replay_reads h hreads
  rw [replayOutput, hreplay]
  dsimp only
  rw [Session.close_of_notMem hv hnot]
  exact ⟨hholds.replayBytes_eq hq format, rfl⟩

/-! ### The settings -/

theorem Device.new_of_validate {config : Config} (h : config.validate = .ok ()) :
    Device.new n config = .ok (⟨config, .empty, []⟩, [.created n config.terminator]) := by
  rw [Device.new, h]

/-- A file gives settings only if they are right. -/
theorem Config.validate_of_ofFile {path : String} {data : Except FileFault (List UInt8)}
    {config : Config} (h : Config.ofFile path data = .ok config) : config.validate = .ok () := by
  cases data with
  | error fault => exact absurd h nofun
  | ok bytes =>
    unfold Config.ofFile at h
    simp only [bind, Except.bind, pure, Except.pure] at h
    by_cases htext : (Text.decode? bytes).isNone = true
    · rw [if_pos htext] at h
      exact absurd h nofun
    rw [if_neg htext] at h
    cases hread : Json.read Config.reader bytes with
    | error e =>
      rw [hread] at h
      exact absurd h nofun
    | ok read =>
      rw [hread] at h
      dsimp only at h
      -- what was read is checked last
      cases hvalid : read.validate with
      | error e =>
        rw [hvalid] at h
        exact absurd h nofun
      | ok _ =>
        rw [hvalid] at h
        obtain rfl := Except.ok.inj h
        exact hvalid

/-- So do the options of a command. -/
theorem InputOptions.validate_of_settings {options : InputOptions} {env : Environment}
    {config : Config} (h : options.settings env = .ok config) : config.validate = .ok () := by
  rw [InputOptions.settings] at h
  split at h
  · obtain rfl := Except.ok.inj h
    rfl
  · exact Config.validate_of_ofFile h

/-- Options that name a chunk size and settings lead to a new device. -/
theorem InputOptions.device_of_settings {options : InputOptions} {env : Environment}
    {config : Config} (hchunk : 0 < options.chunkSize) (h : options.settings env = .ok config) :
    options.device env =
      .ok (⟨config, .empty, []⟩, [.created defaultCapacity config.terminator]) := by
  rw [InputOptions.device, if_neg (Nat.ne_of_gt hchunk), h]
  dsimp only
  rw [Device.new_of_validate (InputOptions.validate_of_settings h)]
  rfl

/-- So a command runs on a new device. -/
theorem withDevice_of_settings {options : InputOptions} {env : Environment} {config : Config}
    (hchunk : 0 < options.chunkSize) (h : options.settings env = .ok config)
    (command : Device defaultCapacity → Output) :
    withDevice env options command =
      Output.after [.device (.created defaultCapacity config.terminator)]
        (command ⟨config, .empty, []⟩) := by
  rw [withDevice, InputOptions.device_of_settings hchunk h]
  rfl

/-- **What `replay` prints depends on the input alone**: with whatever settings, in chunks of
whatever size, and however the input is read, it prints the last ten pieces of the input, or the
report of them. -/
theorem replay_prints {config : Config} (hconfig : config.validate = .ok ()) (input : List UInt8)
    (format : OutputFormat) :
    (∃ d created, Device.new defaultCapacity config = .ok (d, created) ∧
      ∀ size reads, Reads size input reads →
        (replayOutput d reads size format).bytes = printed config.terminator input format ∧
        (replayOutput d reads size format).failure = none) ∧
      ∀ env options, options.settings env = .ok config → 0 < options.chunkSize →
        (options.source env).bytes? = some input →
        (Invocation.run env (.replay options format)).bytes =
            printed config.terminator input format ∧
          (Invocation.run env (.replay options format)).failure = none := by
  have hnew : Device.new defaultCapacity config = .ok _ := Device.new_of_validate hconfig
  refine ⟨⟨_, _, hnew, fun size reads hreads => replayOutput_reads hnew hreads size format⟩,
    fun env options hsettings hchunk hsource => ?_⟩
  rw [Invocation.run, runReplay, withDevice_of_settings hchunk hsettings]
  exact replayOutput_reads hnew (Source.reads_pieces hsource hchunk) options.chunkSize format

/-- Twelve records of one letter and an unfinished one are read by two bytes, with an interruption,
and by seven. Two records are reported, the first of which is no text, and the second one character
that is cut in two by the reads; the unfinished one, which is no text either, is not reported. -/
theorem replay_prints_letters :
    let input : List UInt8 := (List.range 12).flatMap (fun i => [UInt8.ofNat (97 + i), 10]) ++ [120]
    let last : List UInt8 := (List.range' 2 10).flatMap fun i => [UInt8.ofNat (97 + i), 10]
    let reads : List Piece := .interrupted :: (blocks 2 input).map .data
    let garbled : List UInt8 := [97, 0xFF, 10, 0xE2, 0x82, 0xAC, 10, 98, 0xC3]
    let reported : String :=
      "\x7b\n  \"bytes_written\": 9,\n" ++
      "  \"records\": [\n    \"a\uFFFD\\n\",\n    \"€\\n\"\n  ],\n" ++
      "  \"stats\": \x7b\n    \"capacity\": 10,\n    \"full\": false,\n    \"retained\": 2,\n" ++
      "    \"total_size\": 7\n  \x7d\n\x7d\n"
    let env (bytes : List UInt8) : Environment := { Environment.empty with standardInput := bytes }
    ∃ d created, Config.default.validate = .ok () ∧
      Device.new defaultCapacity .default = .ok (d, created) ∧ Reads 2 input reads ∧
      (replayOutput d reads 2 .text).bytes = last ∧
      (Invocation.run (env input) (.replay ⟨none, 7, none⟩ .text)).bytes = last ∧
      Text.decode? [97, 0xFF, 10] = none ∧ Reads 2 garbled ((blocks 2 garbled).map .data) ∧
      (replayOutput d ((blocks 2 garbled).map .data) 2 .json).bytes = Text.encode reported ∧
      (Invocation.run (env garbled) (.replay ⟨none, 7, none⟩ .json)).bytes =
        Text.encode reported := by
  intro input last reads garbled reported env
  have hlast : printed 10 input .text = last := by decide +kernel
  have hreported : printed 10 garbled .json = Text.encode reported := by decide +kernel
  have hblocks (bytes : List UInt8) : Reads 2 bytes ((Source.file bytes).pieces 2) :=
    Source.reads_pieces rfl (by decide)
  have hvalid : Config.default.validate = .ok () := rfl
  obtain ⟨⟨d, created, hnew, hprinted⟩, hrun⟩ := replay_prints hvalid input .text
  obtain ⟨⟨d', created', hnew', hprinted'⟩, hrun'⟩ := replay_prints hvalid garbled .json
  obtain ⟨rfl, rfl⟩ := Prod.mk.inj (Except.ok.inj (hnew.symm.trans hnew'))
  refine ⟨d, created, hvalid, hnew, .interrupted (hblocks input), ?_, ?_, by decide +kernel,
    hblocks garbled, ?_, ?_⟩
  · exact (hprinted 2 reads (.interrupted (hblocks input))).1.trans hlast
  · exact (hrun (env input) ⟨none, 7, none⟩ rfl (by decide) rfl).1.trans hlast
  · exact (hprinted' 2 _ (hblocks garbled)).1.trans hreported
  · exact (hrun' (env garbled) ⟨none, 7, none⟩ rfl (by decide) rfl).1.trans hreported

end RecordRing
