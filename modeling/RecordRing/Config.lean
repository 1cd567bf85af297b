import RecordRing.Assembler
import RecordRing.Duration
import RecordRing.File

/-!
# Configuring a device

A device needs to know the byte that ends a record and how long one poll for the lock lasts. Both
have defaults, and a poll must last some time. A configuration can be read from a file: what the
file leaves out is filled in first, and the whole is checked then, so leaving the interval out is
right where writing zero is wrong.

## Main definitions

* `Config`, `Config.default`, `Config.validate` — configurations
* `ConfigError`, `ConfigError.message` — why there is none
* `Config.reader`, `Config.toJson`, `Config.ofFile` — reading and writing
-/

namespace RecordRing

/-- The settings of a device. -/
structure Config where
  /-- The byte that ends a record. -/
  terminator : UInt8
  /-- How long one poll for the lock lasts. -/
  pollInterval : Duration
deriving DecidableEq, Repr

/-- Why a configuration is not to be had. -/
inductive ConfigError where
  /-- It has a setting that no device can work with. -/
  | invalid (reason : String)
  /-- Its file cannot be read. -/
  | unreadable (path reason : String)
  /-- Its file does not hold one. -/
  | malformed (path : String) (error : Json.Error)
deriving DecidableEq, Repr

/-- The wording of a configuration error. -/
def ConfigError.message : ConfigError → String
  | .invalid reason => s!"invalid configuration: {reason}"
  | .unreadable path reason => s!"failed to read config file '{path}': {reason}"
  | .malformed path error => s!"failed to parse config file '{path}': {error.message}"

namespace Config

/-- How long one poll lasts if nothing else is said. -/
def defaultPollInterval : Duration := Duration.ofMillis 10

/-- The settings where nothing is said. -/
def default : Config := ⟨Assembler.defaultTerminator, defaultPollInterval⟩

instance : Inhabited Config := ⟨default⟩

/-- Whether a device can work with the settings: a poll must last some time. -/
def validate (c : Config) : Except ConfigError Unit :=
  if c.pollInterval.isZero then .error (.invalid "lock_poll_interval cannot be zero") else .ok ()

/-! ### JSON -/

/-- What is known of a configuration while it is read. -/
structure Known where
  /-- The terminator. -/
  terminator? : Option UInt8
  /-- The poll interval. -/
  pollInterval? : Option Duration

/-- Make a configuration of what is known, and of defaults. -/
def make (known : Known) : Config :=
  ⟨known.terminator?.getD default.terminator, known.pollInterval?.getD default.pollInterval⟩

/-- How a configuration is read. -/
def shape : Json.Shape Known Config where
  title := "struct DeviceConfig"
  listTitle := "struct DeviceConfig with 2 elements"
  fields := [
    { name := "terminator"
      known := fun known => known.terminator?.isSome
      read := fun known => do
        return { known with terminator? := some (UInt8.ofNat (← Json.natural UInt8.size "u8")) } },
    { name := "lock_poll_interval"
      known := fun known => known.pollInterval?.isSome
      read := fun known => do
        return { known with pollInterval? := some (← Duration.reader) } }]
  closed := false
  defaults := true
  start := ⟨none, none⟩
  make := fun known => .ok (make known)

/-- Read a configuration. -/
def reader : Json.Reader Config := shape.reader

/-- The JSON value of a configuration. -/
def toJson (c : Config) : Json.Value :=
  .object [
    ("terminator", .natural c.terminator.toNat),
    ("lock_poll_interval", c.pollInterval.toJson)]

/-! ### Files -/

/-- The configuration in the file at `path`, which holds `data`. -/
def ofFile (path : String) (data : Except FileFault (List UInt8)) : Except ConfigError Config := do
  let bytes ←
    match data with
    | .ok bytes => .ok bytes
    | .error fault => .error (.unreadable path fault.message)
  if (Text.decode? bytes).isNone then
    .error (.unreadable path FileFault.notText.message)
  let config ←
    match Json.read reader bytes with
    | .ok config => .ok config
    | .error error => .error (.malformed path error)
  config.validate
  return config

end Config

end RecordRing
