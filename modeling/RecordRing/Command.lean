import RecordRing.Arguments
import RecordRing.Benchmark
import RecordRing.Device.Json
import RecordRing.Replay

/-!
# Running a command line

A command works on a device of its own, reads files and the standard input, and prints. Everything
it does is a value here: what it prints, what it logs, and why it fails if it does.

## Main definitions

* `Notice`, `LogLine` — what is logged besides the events of the device
* `Environment` — what the files and the standard input give
* `Output` — what a command prints, logs and fails with
* `replayOutput`, `seekOutput` — the two commands that write an input, whatever pieces it comes in
* `Invocation.run` — run a command line
-/

namespace RecordRing

/-! ### The log -/

/-- Something that a command tells of itself. -/
inductive Notice where
  /-- The input ended inside a record. -/
  | unterminatedInput
  /-- The input was written. -/
  | replayFinished (written chunkSize : Nat)
  /-- The position was found. -/
  | positioned (position : Nat)
deriving DecidableEq, Repr

/-- A line of the log. -/
inductive LogLine where
  /-- The device tells of an event. -/
  | device (event : Event)
  /-- The command tells of itself. -/
  | command (notice : Notice)
deriving DecidableEq, Repr

namespace LogLine

/-- How urgent a line is. -/
def level : LogLine → Level
  | .device event => event.level
  | .command .unterminatedInput => .info
  | .command _ => .debug

/-- Who tells. -/
def target : LogLine → String
  | .device _ => "ringlog::device"
  | .command _ => "ringlog"

/-- What is told. -/
def text : LogLine → String
  | .device event => event.text
  | .command .unterminatedInput => "input ended without a terminator; trailing bytes discarded"
  | .command (.replayFinished written chunkSize) =>
    s!"replay finished written={written} chunk_size={chunkSize}"
  | .command (.positioned position) => s!"seeked position={position}"

/-- The line as it is printed. -/
def render (line : LogLine) : String := s!"{line.level.name} {line.target}: {line.text}"

end LogLine

/-- How urgent a level is, as a number. -/
def Level.urgency : Level → Nat
  | .debug => 0
  | .info => 1
  | .warn => 2

/-- The level that a name asks for. -/
def Level.ofName? (name : String) : Option Level :=
  match name.toLower with
  | "debug" => some .debug
  | "info" => some .info
  | "warn" => some .warn
  | _ => none

/-- The lines at least as urgent as the level asked for; if none is, only what went wrong. -/
def shown (level? : Option Level) (lines : List LogLine) : List LogLine :=
  lines.filter fun line => (level?.getD .warn).urgency ≤ line.level.urgency

/-! ### Commands -/

/-- What a command can read. The settings are read before the input, and what can be read but once
is gone by then. -/
structure Environment where
  /-- What a file of settings gives. -/
  settings : String → Except FileFault (List UInt8)
  /-- What an input file gives once the settings were read. -/
  input : String → Except FileFault (List UInt8)
  /-- What the standard input gives once the settings were read. -/
  standardInput : List UInt8

/-- An environment in which there is nothing to read. -/
def Environment.empty : Environment where
  settings _ := .error .notFound
  input _ := .error .notFound
  standardInput := []

instance : Inhabited Environment := ⟨.empty⟩

/-- Why a command fails. -/
inductive Failure where
  /-- The command line is wrong. -/
  | misuse
  /-- Writes of no bytes never end. -/
  | noChunkSize
  /-- There is nothing to measure. -/
  | noRecords
  /-- The input was not written. -/
  | replay (error : ReplayError)
deriving DecidableEq, Repr

namespace Failure

/-- The wording of a failure. -/
def message : Failure → String
  | .misuse => "unexpected arguments"
  | .noChunkSize => "--chunk-size must be > 0"
  | .noRecords => "--records must be > 0"
  | .replay error => error.message

/-- The number that the program ends with. -/
def code : Failure → Nat
  | .misuse => 2
  | _ => 1

end Failure

/-- What a command prints, logs and fails with. -/
structure Output where
  /-- What it prints. -/
  bytes : List UInt8
  /-- What it logs. -/
  log : List LogLine
  /-- Why it fails, if it does. -/
  failure : Option Failure
deriving DecidableEq, Repr

namespace Output

/-- The number that the program ends with. -/
def code (o : Output) : Nat := (o.failure.map Failure.code).getD 0

/-- An output without log. -/
def printed (text : String) : Output := ⟨Text.encode text, [], none⟩

/-- A failure that printed nothing. -/
def failed (log : List LogLine) (failure : Failure) : Output := ⟨[], log, some failure⟩

/-- An output whose log has these lines before its own. -/
def after (log : List LogLine) (o : Output) : Output := { o with log := log ++ o.log }

end Output

/-- Lines, each with its end. -/
def unlines (lines : List String) : String := String.join (lines.map (· ++ "\n"))

/-- The name and the version of the program. -/
def versionText : String := "ringlog 0.1.0\n"

/-- How the command line is used. -/
def helpText : String := unlines [
  "ringlog — Fixed-capacity ring of newline-delimited records",
  "",
  "Usage: ringlog <COMMAND>",
  "",
  "Commands:",
  "  replay [INPUT] [--chunk-size N] [--config FILE] [--format text|json]",
  "  seek   [INPUT] --record R [--offset M] [--chunk-size N] [--config FILE]",
  "  bench  [--records N] [--record-len N]",
  "",
  "Options:",
  "  -h, --help     Print help",
  "  -V, --version  Print version"]

namespace InputOptions

/-- Where the input comes from. -/
def source (options : InputOptions) (env : Environment) : Source :=
  match options.input with
  | none => .standardInput env.standardInput
  | some path =>
    match env.input path with
    | .ok bytes => .file bytes
    | .error fault => .broken fault

/-- The settings of the device. -/
def settings (options : InputOptions) (env : Environment) : Except ConfigError Config :=
  match options.config with
  | none => .ok .default
  | some path => Config.ofFile path (env.settings path)

/-- Check the options, and make the device. -/
def device (options : InputOptions) (env : Environment) :
    Except Failure (Device defaultCapacity × List Event) :=
  if options.chunkSize = 0 then .error .noChunkSize
  else
    match options.settings env with
    | .error e => .error (.replay (.device (.config e)))
    | .ok config => (Device.new defaultCapacity config).mapError fun e => .replay (.device e)

/-- The reads that go through the input. -/
def pieces (options : InputOptions) (env : Environment) : List Piece :=
  (options.source env).pieces options.chunkSize

end InputOptions

/-- Write an input to a new session of a device. -/
def Device.replay (d : Device defaultCapacity) (pieces : List Piece) : Replayed defaultCapacity :=
  (Session.new d.config.terminator ⟨0⟩).replay d.store .clear pieces

/-- What `replay` prints as a JSON object, its members in the order of their names. -/
def replayJson (written : Nat) (store : Store defaultCapacity) : Json.Value :=
  let stats := store.stats
  .object [
    ("bytes_written", .natural written),
    ("records", .list (store.toList.map fun r => .string (Text.decodeLossy r.bytes))),
    ("stats", .object [
      ("capacity", .natural stats.capacity),
      ("full", .bool stats.full),
      ("retained", .natural stats.retained),
      ("total_size", .natural stats.totalSize)])]

/-- What `replay` prints. -/
def replayBytes (format : OutputFormat) (written : Nat) (store : Store defaultCapacity) :
    List UInt8 :=
  match format with
  | .text => store.contents
  | .json => (replayJson written store).indented ++ [10]

/-- Write an input to a device and print what it retains. The session ends before anything is
printed. -/
def replayOutput (d : Device defaultCapacity) (pieces : List Piece) (chunkSize : Nat)
    (format : OutputFormat) : Output :=
  let fed := d.replay pieces
  let (store, closing) := fed.session.close fed.store .clear
  let before := fed.events.map LogLine.device
  let after := closing.map LogLine.device
  match fed.result with
  | .error e => .failed (before ++ after) (.replay e)
  | .ok written =>
    let notice := if fed.session.hasPending then [LogLine.command .unterminatedInput] else []
    ⟨replayBytes format written store,
      before ++ notice ++ after ++ [.command (.replayFinished written chunkSize)], none⟩

/-- The most bytes that `seek` copies at once. -/
def copySize : Nat := 8192

/-- Print from the position of a session to the end of the data, and end the session. -/
def copyOutput (s : Session) (store : Store defaultCapacity) : Output :=
  let copied := s.readAll store .clear copySize
  let closing := (copied.session.close copied.store .clear).2
  let log := (copied.events ++ closing).map LogLine.device
  match copied.result with
  | .error e => ⟨[], log, some (.replay (.device e))⟩
  | .ok texts => ⟨texts.flatten, log, none⟩

/-- End a session that failed. -/
def abortOutput (s : Session) (store : Store defaultCapacity) (e : ReplayError) : Output :=
  .failed ((s.close store .clear).2.map .device) (.replay e)

/-- Write an input to a device and print from one of the retained bytes on. The session that wrote
is the one that reads. -/
def seekOutput (d : Device defaultCapacity) (pieces : List Piece) (target : SeekTo) : Output :=
  let fed := d.replay pieces
  Output.after (fed.events.map .device) <|
    match fed.result with
    | .error e => abortOutput fed.session fed.store e
    | .ok _ =>
      let moved := fed.session.seekTo fed.store .clear target
      Output.after (moved.events.map .device) <|
        match moved.result with
        | .error e => abortOutput moved.session moved.store (.device e)
        | .ok position =>
          Output.after [.command (.positioned position)] (copyOutput moved.session moved.store)

/-- Make the device that the options ask for, and run a command on it. -/
def withDevice (env : Environment) (options : InputOptions)
    (command : Device defaultCapacity → Output) : Output :=
  match options.device env with
  | .error failure => .failed [] failure
  | .ok (d, made) => Output.after (made.map .device) (command d)

/-- Run `replay`. -/
def runReplay (env : Environment) (options : InputOptions) (format : OutputFormat) : Output :=
  withDevice env options fun d =>
    replayOutput d (options.pieces env) options.chunkSize format

/-- Run `seek`. -/
def runSeek (env : Environment) (options : InputOptions) (target : SeekTo) : Output :=
  withDevice env options fun d => seekOutput d (options.pieces env) target

/-- Run `bench` without looking at the clock. -/
def runBench (b : Benchmark) : Output :=
  if b.records = 0 then ⟨Text.encode (unlines b.header), [], some .noRecords⟩
  else .printed (unlines (b.header ++ b.report b.measure none))

/-- Run a command line. -/
def Invocation.run (env : Environment) : Invocation → Output
  | .replay options format => runReplay env options format
  | .seek options record offset =>
    runSeek env options ⟨UInt32.ofNat record, UInt32.ofNat offset⟩
  | .bench records recordLength => runBench ⟨records, recordLength, defaultCapacity⟩
  | .version => .printed versionText
  | .help => .printed helpText
  | .misuse => .failed [] .misuse

end RecordRing
