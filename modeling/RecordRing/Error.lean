import RecordRing.Config
import RecordRing.Lock
import RecordRing.Seek
import RecordRing.Store.Address

/-!
# Errors

Each part of the library has errors of its own; this is their sum, with the wording that callers
see. An error has a *kind*, for callers who only choose what to do next, and a *chain* of the texts
of what lies behind it.

## Main definitions

* `Error`, `Error.message` — the errors of a device
* `ErrorKind`, `Error.kind` — their kinds
* `Error.chain` — the texts of what lies behind an error
* `StreamError`, `StreamErrorKind` — errors of reading and writing a device like a file
-/

namespace RecordRing

/-- What can go wrong with a device. -/
inductive Error where
  /-- A record or a byte in it was not found. -/
  | lookup (error : LookupError)
  /-- A chunk was not taken in, or a record not cut. -/
  | assemble (error : AssembleError)
  /-- The lock was not got. -/
  | lock (error : LockError)
  /-- A position was not moved. -/
  | seek (error : SeekError)
  /-- A configuration is not to be had. -/
  | config (error : ConfigError)
deriving DecidableEq, Repr

/-- What a caller can do about an error. -/
inductive ErrorKind where
  /-- Ask for something else. -/
  | invalidArgument
  /-- Try again with more memory. -/
  | outOfMemory
  /-- Try again later. -/
  | lockUnavailable
  /-- Mend the configuration. -/
  | config
deriving DecidableEq, Repr

namespace Error

/-- The kind of an error. -/
def kind : Error → ErrorKind
  | .lookup _ | .seek _ => .invalidArgument
  | .assemble (.outOfMemory ..) => .outOfMemory
  | .lock _ => .lockUnavailable
  | .config _ => .config

/-- The wording of the error of a part. -/
def partMessage : Error → String
  | .lookup error => error.message
  | .assemble error => error.message
  | .lock error => error.message
  | .seek error => error.message
  | .config error => error.message

/-- How messages name the part. -/
def partName : Error → String
  | .lookup _ => "lookup"
  | .assemble _ => "assemble"
  | .lock _ => "lock"
  | .seek _ => "seek"
  | .config _ => "config"

/-- The wording of an error. -/
def message (e : Error) : String := s!"{e.partName} error: {e.partMessage}"

/-- The text of what lies behind the error of a part. -/
def cause? : Error → Option String
  | .assemble (.outOfMemory _ fault) => some fault.message
  | .config (.unreadable _ reason) => some reason
  | .config (.malformed _ error) => some error.message
  | _ => none

/-- The texts of what lies behind an error, the nearest first. -/
def chain (e : Error) : List String := e.partMessage :: e.cause?.toList

end Error

/-! ### Streams -/

/-- What can go wrong when a device is read and written like a file. -/
inductive StreamError where
  /-- The device has an error. -/
  | device (error : Error)
  /-- The data ended before what was asked for. -/
  | unexpectedEnd
deriving DecidableEq, Repr

/-- The kinds of errors that files have. -/
inductive StreamErrorKind where
  /-- What was asked for makes no sense. -/
  | invalidInput
  /-- There is no memory. -/
  | outOfMemory
  /-- Another caller is in the way. -/
  | resourceBusy
  /-- Something else. -/
  | other
  /-- The data ended. -/
  | unexpectedEnd
deriving DecidableEq, Repr

/-- The kind of file error that stands for a kind of device error. -/
def ErrorKind.stream : ErrorKind → StreamErrorKind
  | .invalidArgument => .invalidInput
  | .outOfMemory => .outOfMemory
  | .lockUnavailable => .resourceBusy
  | .config => .other

namespace StreamError

/-- The kind of a stream error. -/
def kind : StreamError → StreamErrorKind
  | .device error => error.kind.stream
  | .unexpectedEnd => .unexpectedEnd

/-- The wording of a stream error. -/
def message : StreamError → String
  | .device error => error.message
  | .unexpectedEnd => "failed to fill whole buffer"

end StreamError

end RecordRing
