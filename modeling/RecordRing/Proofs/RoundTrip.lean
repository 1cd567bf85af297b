import Mathlib.Data.List.Perm.Subperm
import RecordRing.Device.Json
import RecordRing.Proofs.Parsing
import RecordRing.Proofs.Replay

/-!
# What is written in JSON is read back

Configurations, addresses and summaries are written as objects, and read from any text of these
objects. Their numbers fit in the types they are read as, and the nanoseconds of a duration make no
full second, so nothing is carried when the duration is read.

A configuration is also read from an object without some of the members, or with the members in
another order: what is left out has its default. A file is checked after that, so that leaving the
interval out is right, and writing zero is not.

## Main definitions

* `Json.Value.ReadBack` — every text of a value is read as this
* `Config.members`, `Config.keeping` — the members of a configuration, and what some of them make

## Main results

* `Duration.parses_toJson`, `SeekTo.parses_toJson`, `Stats.parses_toJson` — records are read
* `Config.parses_kept` — some members of a configuration are read, in any order
* `Config.ofFile_of_parses` — a file that holds a configuration
* `json_round_trip` — all of it
-/

namespace RecordRing

open Json (Parses Shape Value)

/-! ### Durations, addresses and summaries -/

/-- **A duration is read**, and nothing is carried. -/
theorem Duration.parses_toJson (d : Duration) : Parses Duration.reader d.toJson d := by
  have hsecs := Json.parses_natural d.secs_lt (Nat.le_refl _) "u64"
  have hbound : d.nanos < UInt32.size := Nat.lt_trans d.nanos_lt (by decide)
  have hnanos := Json.parses_natural hbound (by decide) "u32"
  have hfills : shape.Fills shape.start [("secs", .natural d.secs), ("nanos", .natural d.nanos)]
      ⟨some d.secs, some d.nanos⟩ :=
    .cons rfl rfl (hsecs.map _) (.cons rfl rfl (hnanos.map _) (.nil _))
  apply Shape.parses_object hfills
  change make ⟨some d.secs, some d.nanos⟩ = .ok d
  rw [make]
  dsimp only
  rw [ofParts?_self]

/-- **An address is read.** -/
theorem SeekTo.parses_toJson (target : SeekTo) : Parses SeekTo.reader target.toJson target := by
  have hword (w : UInt32) := Json.parses_natural w.toNat_lt (by decide) "u32"
  have hfills : shape.Fills shape.start
      [("record", .natural target.record.toNat), ("offset", .natural target.offset.toNat)]
      ⟨some (.ofNat target.record.toNat), some (.ofNat target.offset.toNat)⟩ :=
    .cons rfl rfl ((hword target.record).map _)
      (.cons rfl rfl ((hword target.offset).map _) (.nil _))
  apply Shape.parses_object hfills
  change make ⟨some (.ofNat target.record.toNat), some (.ofNat target.offset.toNat)⟩ = .ok target
  rw [UInt32.ofNat_toNat, UInt32.ofNat_toNat]
  rfl

/-- **A summary is read**, if its numbers fit in the types they are read as. -/
theorem Stats.parses_toJson {s : Stats} (hretained : s.retained < UInt64.size)
    (hcapacity : s.capacity < UInt64.size) (htotal : s.totalSize < UInt64.size) :
    Parses Stats.reader s.toJson s := by
  have hle := Nat.le_refl UInt64.size
  have hfills : shape.Fills shape.start
      [("retained", .natural s.retained), ("capacity", .natural s.capacity),
        ("total_size", .natural s.totalSize), ("full", .bool s.full)]
      ⟨some s.retained, some s.capacity, some s.totalSize, some s.full⟩ :=
    .cons rfl rfl ((Json.parses_natural hretained hle "usize").map _)
      (.cons rfl rfl ((Json.parses_natural hcapacity hle "usize").map _)
        (.cons rfl rfl ((Json.parses_natural htotal hle "u64").map _)
          (.cons rfl rfl ((Json.parses_bool s.full).map _) (.nil _))))
  exact Shape.parses_object hfills rfl

/-! ### Configurations -/

namespace Config

/-- The members of a configuration. -/
def members (c : Config) : List (String × Value) :=
  [("terminator", .natural c.terminator.toNat), ("lock_poll_interval", c.pollInterval.toJson)]

/-- The settings with these names, and the defaults of the others. -/
def keeping (c : Config) (names : List String) : Config where
  terminator := if "terminator" ∈ names then c.terminator else default.terminator
  pollInterval := if "lock_poll_interval" ∈ names then c.pollInterval else default.pollInterval

/-- What is known of a configuration once the settings with these names were read. -/
def knownFrom (c : Config) (names : List String) : Known where
  terminator? := if "terminator" ∈ names then some c.terminator else none
  pollInterval? := if "lock_poll_interval" ∈ names then some c.pollInterval else none

variable {c : Config} {kept : List (String × Value)} {text : List UInt8}

theorem make_knownFrom (c : Config) (names : List String) :
    make (c.knownFrom names) = c.keeping names := by
  by_cases hterminator : "terminator" ∈ names <;>
    by_cases hinterval : "lock_poll_interval" ∈ names <;>
    simp [make, knownFrom, keeping, hterminator, hinterval]

theorem keeping_members (c : Config) : c.keeping (c.members.map Prod.fst) = c := by
  simp [keeping, members]

/-- Each member of a configuration is read, and adds its setting to what is known. -/
theorem exists_field (c : Config) (name : String) (value : Value) (hmem : (name, value) ∈ c.members)
    (names : List String) (hnew : name ∉ names) :
    ∃ field, shape.fields.find? (·.name == name) = some field ∧
      field.known (c.knownFrom names) = false ∧
      Parses (field.read (c.knownFrom names)) value (c.knownFrom (names ++ [name])) := by
  simp only [members, List.mem_cons, Prod.mk.injEq, List.not_mem_nil, or_false] at hmem
  rcases hmem with ⟨rfl, rfl⟩ | ⟨rfl, rfl⟩
  · refine ⟨_, rfl, ?_, ?_⟩
    · simp [knownFrom, hnew]
    · have hbyte := Json.parses_natural c.terminator.toNat_lt (by decide) "u8"
      have hknown : c.knownFrom (names ++ ["terminator"]) =
          { c.knownFrom names with terminator? := some (.ofNat c.terminator.toNat) } := by
        simp [knownFrom]
      rw [hknown]
      exact hbyte.map fun n => { c.knownFrom names with terminator? := some (UInt8.ofNat n) }
  · refine ⟨_, rfl, ?_, ?_⟩
    · simp [knownFrom, hnew]
    · have hknown : c.knownFrom (names ++ ["lock_poll_interval"]) =
          { c.knownFrom names with pollInterval? := some c.pollInterval } := by
        simp [knownFrom]
      rw [hknown]
      exact c.pollInterval.parses_toJson.map fun d =>
        { c.knownFrom names with pollInterval? := some d }

/-- **Some members, in any order, are read** as the settings in them, and the defaults of the
others. -/
theorem parses_kept (hkept : kept.Subperm c.members) :
    Parses reader (.object kept) (c.keeping (kept.map Prod.fst)) := by
  have hnodup : ([] ++ kept.map Prod.fst).Nodup := by
    obtain ⟨sub, hperm, hsub⟩ := hkept
    have hall : (c.members.map Prod.fst).Nodup := by simp [members]
    have hsome := hall.sublist (hsub.map Prod.fst)
    rw [List.nil_append]
    exact (hperm.map Prod.fst).nodup_iff.1 hsome
  have hfills := Shape.fills_of_names c.knownFrom c.exists_field hkept.subset [] hnodup
  apply Shape.parses_object hfills
  change Except.ok (make (c.knownFrom (kept.map Prod.fst))) = _
  rw [make_knownFrom]

theorem parses_toJson (c : Config) : Parses reader c.toJson c := by
  have hall := parses_kept (List.Subperm.refl c.members)
  rwa [keeping_members] at hall

/-- **A file** is checked once it was read. -/
theorem ofFile_of_parses {v : Value} (h : Parses reader v c) (htext : v.WrittenAs text)
    (path : String) :
    ofFile path (.ok text) =
      if c.pollInterval.isZero then .error (.invalid "lock_poll_interval cannot be zero")
      else .ok c := by
  have hdecodes : (Text.decode? text).isNone = false := by
    rw [← Option.not_isSome, htext.isText.isSome_decode?]
    rfl
  unfold ofFile
  simp only [bind, Except.bind, pure, Except.pure, hdecodes, h.read_eq htext, validate]
  rw [if_neg Bool.false_ne_true]
  cases c.pollInterval.isZero <;> rfl

end Config

/-! ### Round trips -/

/-- Both forms of the value, and every other text of it, are read as `a`. -/
structure Json.Value.ReadBack {α : Type} (v : Value) (r : Json.Reader α) (a : α) : Prop where
  /-- The form without blanks. -/
  compact : Json.read r v.compact = .ok a
  /-- The form with one item a line. -/
  indented : Json.read r v.indented = .ok a
  /-- Every text. -/
  written : ∀ text, v.WrittenAs text → Json.read r text = .ok a

theorem Json.Parses.readBack {α : Type} {r : Json.Reader α} {v : Value} {a : α}
    (h : Parses r v a) : v.ReadBack r a where
  compact := h.read_eq (Json.writtenAs_compact v)
  indented := h.read_eq (Json.writtenAs_indented v)
  written _ htext := h.read_eq htext

/-- **What is written is read back**: every configuration, every address, and every summary whose
numbers fit in 64 bits. A configuration with any of its members left out and the others in any order
is read with the defaults of those. A file that holds one gives it, unless its interval is zero; so
there is a device for every configuration that a file gives. -/
theorem json_round_trip :
    (∀ c : Config, c.toJson = .object c.members ∧ c.toJson.ReadBack Config.reader c) ∧
    (∀ target : SeekTo, target.toJson.ReadBack SeekTo.reader target) ∧
    (∀ s : Stats, s.retained < UInt64.size → s.capacity < UInt64.size →
      s.totalSize < UInt64.size → s.toJson.ReadBack Stats.reader s) ∧
    (∀ (c : Config) (kept : List (String × Value)), kept.Subperm c.members →
      let config := c.keeping (kept.map Prod.fst)
      (Value.object kept).ReadBack Config.reader config ∧
      ∀ path text, (Value.object kept).WrittenAs text →
        Config.ofFile path (.ok text) =
          if config.pollInterval.isZero then .error (.invalid "lock_poll_interval cannot be zero")
          else .ok config) ∧
    ∀ path data config, Config.ofFile path data = .ok config →
      ∀ n, Device.new n config = .ok (⟨config, .empty, []⟩, [.created n config.terminator]) := by
  refine ⟨fun c => ⟨rfl, c.parses_toJson.readBack⟩, fun target => target.parses_toJson.readBack,
    fun s hretained hcapacity htotal => (Stats.parses_toJson hretained hcapacity htotal).readBack,
    fun c kept hkept => ?_, fun path data config h n => ?_⟩
  · have hparses := Config.parses_kept hkept
    exact ⟨hparses.readBack, fun path text htext => Config.ofFile_of_parses hparses htext path⟩
  · exact Device.new_of_validate (Config.validate_of_ofFile h)

/-- The configuration names another terminator and no interval, so its interval is the default; or
it names an interval first, which is zero. The summary has the largest numbers there are. -/
theorem json_round_trip_defaults :
    let zero : Duration := ⟨0, 0, by decide, by decide⟩
    let c : Config := ⟨59, zero⟩
    let largest : Stats := ⟨UInt64.size - 1, UInt64.size - 1, UInt64.size - 1, true⟩
    let terminator : Value := .object [("terminator", .natural 59)]
    let reversed : Value := .object c.members.reverse
    Json.read Stats.reader largest.toJson.indented = .ok largest ∧
      Config.ofFile "device.json" (.ok terminator.compact) =
        .ok ⟨59, Config.defaultPollInterval⟩ ∧
      Config.ofFile "device.json" (.ok reversed.indented) =
        .error (.invalid "lock_poll_interval cannot be zero") ∧
      Device.new 2 (⟨59, Config.defaultPollInterval⟩ : Config) =
        .ok (⟨⟨59, Config.defaultPollInterval⟩, .empty, []⟩, [.created 2 59]) := by
  intro zero c largest terminator reversed
  obtain ⟨-, -, hstats, hkept, haccepted⟩ := json_round_trip
  have hone : [("terminator", .natural 59)].Subperm c.members :=
    (List.singleton_sublist.2 List.mem_cons_self).subperm
  have hboth : c.members.reverse.Subperm c.members := (List.reverse_perm c.members).subperm
  have hdefault : Config.ofFile "device.json" (.ok terminator.compact) =
      .ok ⟨59, Config.defaultPollInterval⟩ :=
    (hkept c _ hone).2 _ _ (Json.writtenAs_compact terminator)
  refine ⟨(hstats largest (by decide) (by decide) (by decide)).indented, hdefault, ?_,
    haccepted _ _ _ hdefault 2⟩
  exact (hkept c _ hboth).2 _ _ (Json.writtenAs_indented reversed)

end RecordRing
