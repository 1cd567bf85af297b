/-!
# The arguments of the command line

The first argument names a command. The others are options and at most one input file; an option
takes its value from behind an equals sign or from the next argument. An option may be given once.
Behind `--` nothing is an option. A value in an argument of its own may not look like an option.

## Main definitions

* `Invocation`, `InputOptions` — what a command line asks for
* `OptionSpec`, `CommandSpec`, `CommandSpec.parse` — the grammar of one command
* `Invocation.parse` — the whole command line
-/

namespace RecordRing

/-- How `replay` prints what was retained. -/
inductive OutputFormat where
  /-- As it was written. -/
  | text
  /-- As a JSON object with a summary. -/
  | json
deriving DecidableEq, Repr

/-- What the commands that replay an input need to know of it. -/
structure InputOptions where
  /-- The input file; else the standard input. -/
  input : Option String
  /-- The most bytes of one write. -/
  chunkSize : Nat
  /-- The file with the settings of the device. -/
  config : Option String
deriving DecidableEq, Repr

/-- What a command line asks for. -/
inductive Invocation where
  /-- Write the input to a device and print what it retains. -/
  | replay (options : InputOptions) (format : OutputFormat)
  /-- Write the input to a device and print from one of its retained bytes on. -/
  | seek (options : InputOptions) (record offset : Nat)
  /-- Insert records into a store and count. -/
  | bench (records recordLength : Nat)
  /-- Print the version. -/
  | version
  /-- Print how the command line is used. -/
  | help
  /-- The command line is wrong. -/
  | misuse
deriving DecidableEq, Repr

/-- What a command that replays an input is told of it. -/
def Invocation.inputOptions? : Invocation → Option InputOptions
  | .replay options _ | .seek options .. => some options
  | _ => none

/-! ### Numbers -/

/-- A natural number in decimal digits. -/
def decimalDigits? (cs : List Char) : Option Nat :=
  if cs.isEmpty || cs.any fun c => !c.isDigit then none
  else some (cs.foldl (fun value c => value * 10 + (c.toNat - '0'.toNat)) 0)

/-- A natural number of 64 bits, with or without a plus sign. -/
def word64? (s : String) : Option Nat :=
  let digits :=
    match s.toList with
    | '+' :: cs => cs
    | cs => cs
  (decimalDigits? digits).filter (· < UInt64.size)

/-- A natural number of 32 bits. It is read as a signed number of 64 bits, so that a zero may have a
minus sign. -/
def word32? (s : String) : Option Nat :=
  match s.toList with
  | '+' :: cs => (decimalDigits? cs).filter (· < UInt32.size)
  | '-' :: cs => (decimalDigits? cs).filter (· == 0)
  | cs => (decimalDigits? cs).filter (· < UInt32.size)

/-- An output format by its name. -/
def OutputFormat.ofName? (s : String) : Option OutputFormat :=
  if s = "text" then some .text else if s = "json" then some .json else none

/-! ### The grammar of one command -/

/-- An option that takes a value. -/
structure OptionSpec where
  /-- The name, without the two hyphens. -/
  name : String
  /-- Whether a text can be its value. -/
  accepts : String → Bool
  /-- Whether it must be given. -/
  required : Bool := false

/-- The options of a command, and whether it takes an input file. -/
structure CommandSpec where
  /-- The options. -/
  options : List OptionSpec
  /-- Whether an argument that is no option names the input. -/
  takesInput : Bool

/-- What was given to a command. -/
structure Given where
  /-- The options and their values. -/
  values : List (String × String)
  /-- The input file. -/
  input : Option String
deriving DecidableEq, Repr

/-- The value of an option. -/
def Given.value? (g : Given) (name : String) : Option String := g.values.lookup name

/-- Why a command was given nothing. -/
inductive Stop where
  /-- Help was asked for. -/
  | help
  /-- An argument is wrong. -/
  | misuse
deriving DecidableEq, Repr

/-- Where the reading of arguments stands. -/
inductive Expecting where
  /-- Anything. -/
  | anything
  /-- The value of an option. -/
  | valueOf (name : String)
  /-- No option any more. -/
  | plainOnly
deriving DecidableEq, Repr

/-- A text up to its first equals sign, and what is behind it. -/
def splitAtEquals : List Char → List Char × Option (List Char)
  | [] => ([], none)
  | c :: cs =>
    if c = '=' then ([], some cs)
    else
      let (name, value?) := splitAtEquals cs
      (c :: name, value?)

/-- What an argument looks like. -/
inductive ArgumentForm where
  /-- Two hyphens alone. -/
  | separator
  /-- An option with a long name, and its value if that is in the same argument. -/
  | long (name : String) (value? : Option String)
  /-- Options of one letter. -/
  | short (letters : List Char)
  /-- No option; a hyphen alone is none either. -/
  | plain
deriving DecidableEq, Repr

/-- The form of an argument. -/
def ArgumentForm.of (arg : String) : ArgumentForm :=
  match arg.toList with
  | ['-', '-'] => .separator
  | '-' :: '-' :: cs =>
    let (name, value?) := splitAtEquals cs
    .long (String.ofList name) (value?.map String.ofList)
  | '-' :: c :: cs => .short (c :: cs)
  | _ => .plain

namespace CommandSpec

/-- Take `value` for the option `name`. -/
def giveValue (spec : CommandSpec) (g : Given) (name value : String) : Except Stop Given :=
  match spec.options.find? (·.name == name) with
  | none => .error .misuse
  | some option =>
    if (g.value? name).isSome || !option.accepts value then .error .misuse
    else .ok { g with values := g.values ++ [(name, value)] }

/-- Take `arg` for the input. -/
def giveInput (spec : CommandSpec) (g : Given) (arg : String) : Except Stop Given :=
  if spec.takesInput && g.input.isNone && !arg.isEmpty then .ok { g with input := some arg }
  else .error .misuse

/-- Take one argument where anything may come. -/
def giveAny (spec : CommandSpec) (g : Given) (arg : String) : Except Stop (Given × Expecting) :=
  match ArgumentForm.of arg with
  | .separator => .ok (g, .plainOnly)
  | .long name none =>
    if name = "help" then .error .help
    else if spec.options.any (·.name == name) then .ok (g, .valueOf name)
    else .error .misuse
  | .long name (some value) => (spec.giveValue g name value).map fun g => (g, .anything)
  | .short letters => .error (if letters.head? = some 'h' then .help else .misuse)
  | .plain => (spec.giveInput g arg).map fun g => (g, .anything)

/-- Take the arguments one by one. -/
def collect (spec : CommandSpec) (g : Given) : Expecting → List String → Except Stop Given
  | .valueOf _, [] => .error .misuse
  | _, [] =>
    if spec.options.all fun o => !o.required || (g.value? o.name).isSome then .ok g
    else .error .misuse
  | .anything, arg :: args =>
    match spec.giveAny g arg with
    | .ok (g, expecting) => collect spec g expecting args
    | .error stop => .error stop
  | .valueOf name, arg :: args =>
    match ArgumentForm.of arg with
    | .plain =>
      match spec.giveValue g name arg with
      | .ok g => collect spec g .anything args
      | .error stop => .error stop
    | _ => .error .misuse
  | .plainOnly, arg :: args =>
    match spec.giveInput g arg with
    | .ok g => collect spec g .plainOnly args
    | .error stop => .error stop

/-- What the arguments give to a command. -/
def parse (spec : CommandSpec) (args : List String) : Except Stop Given :=
  spec.collect ⟨[], none⟩ .anything args

end CommandSpec

/-! ### The commands -/

/-- The most bytes of one write if nothing else is said. -/
def defaultChunkSize : Nat := 1000

/-- The number of records that `bench` inserts if nothing else is said. -/
def defaultBenchRecords : Nat := 1000000

/-- The length of the records that `bench` inserts if nothing else is said. -/
def defaultRecordLength : Nat := 64

/-- An option with a number of 64 bits. -/
def OptionSpec.word64 (name : String) : OptionSpec :=
  { name, accepts := fun s => (word64? s).isSome }

/-- An option with a number of 32 bits. -/
def OptionSpec.word32 (name : String) : OptionSpec :=
  { name, accepts := fun s => (word32? s).isSome }

/-- An option with the path of a file. -/
def OptionSpec.path (name : String) : OptionSpec := { name, accepts := fun s => !s.isEmpty }

/-- The grammar of `replay`. -/
def replaySpec : CommandSpec where
  options := [
    .word64 "chunk-size",
    .path "config",
    { name := "format", accepts := fun s => (OutputFormat.ofName? s).isSome }]
  takesInput := true

/-- The grammar of `seek`. -/
def seekSpec : CommandSpec where
  options := [
    { OptionSpec.word32 "record" with required := true },
    .word32 "offset",
    .word64 "chunk-size",
    .path "config"]
  takesInput := true

/-- The grammar of `bench`. -/
def benchSpec : CommandSpec where
  options := [.word64 "records", .word64 "record-len"]
  takesInput := false

/-- The value of an option, or its default. -/
def Given.get {α : Type} (g : Given) (name : String) (read? : String → Option α) (default : α) :
    α :=
  ((g.value? name).bind read?).getD default

/-- The options of a command that replays an input. -/
def Given.inputOptions (g : Given) : InputOptions where
  input := g.input
  chunkSize := g.get "chunk-size" word64? defaultChunkSize
  config := g.value? "config"

namespace Invocation

/-- What a command's arguments ask for. -/
def ofGiven (result : Except Stop Given) (make : Given → Invocation) : Invocation :=
  match result with
  | .ok g => make g
  | .error .help => .help
  | .error .misuse => .misuse

/-- The names of the commands. -/
def commands : List String := ["replay", "seek", "bench", "help"]

/-- What a command line asks for. -/
def parse : List String → Invocation
  | [] => .misuse
  | "replay" :: args =>
    ofGiven (replaySpec.parse args) fun g =>
      .replay g.inputOptions (g.get "format" OutputFormat.ofName? .text)
  | "seek" :: args =>
    ofGiven (seekSpec.parse args) fun g =>
      .seek g.inputOptions (g.get "record" word32? 0) (g.get "offset" word32? 0)
  | "bench" :: args =>
    ofGiven (benchSpec.parse args) fun g =>
      .bench (g.get "records" word64? defaultBenchRecords)
        (g.get "record-len" word64? defaultRecordLength)
  | "help" :: args =>
    match args with
    | [] => .help
    | [name] => if commands.contains name then .help else .misuse
    | _ => .misuse
  | arg :: _ =>
    match ArgumentForm.of arg with
    | .long name none =>
      if name = "version" then .version else if name = "help" then .help else .misuse
    | .short letters =>
      if letters.head? = some 'V' then .version
      else if letters.head? = some 'h' then .help
      else .misuse
    | _ => .misuse

end Invocation

end RecordRing
