import RecordRing.Command

/-!
# The program

Reads the command line, the files it names and the standard input, runs the command, and prints. All
that is decided here is how the system words its errors; `Invocation.run` decides everything else.
-/

namespace RecordRing

/-- Why the system does not give a file's bytes. -/
def FileFault.ofSystem : IO.Error → FileFault
  | .noFileOrDirectory .. => .notFound
  | .inappropriateType _ 20 _ => .notDirectory
  | .inappropriateType _ 21 _ => .isDirectory
  | .invalidArgument _ 36 _ => .nameTooLong
  | error => .other (toString error)

/-- The bytes of a file. -/
def readFile (path : String) : IO (Except FileFault (List UInt8)) := do
  let read : IO ByteArray := do (← IO.FS.Handle.mk path .read).readBinToEnd
  match ← read.toBaseIO with
  | .ok bytes => return .ok bytes.toList
  | .error error => return .error (.ofSystem error)

/-- The bytes of a file, if one is named. -/
def readNamed : Option String → IO (Except FileFault (List UInt8))
  | some path => readFile path
  | none => return .error .notFound

/-- Read the files that the options name, or the standard input in place of an input file. -/
def InputOptions.environment (options : InputOptions) : IO Environment := do
  let settings ← readNamed options.config
  let input ← readNamed options.input
  let standardInput ←
    if options.input.isNone then pure (← (← IO.getStdin).readBinToEnd).toList
    else pure []
  return ⟨fun _ => settings, fun _ => input, standardInput⟩

/-- Read what a command line asks for. -/
def Invocation.environment (invocation : Invocation) : IO Environment :=
  match invocation.inputOptions? with
  | some options => options.environment
  | none => return .empty

/-- Run a command, with a look at the clock where it measures times. -/
def Invocation.perform (invocation : Invocation) : IO Output := do
  match invocation with
  | .bench (records + 1) recordLength =>
    let b : Benchmark := ⟨records + 1, recordLength, defaultCapacity⟩
    let start ← IO.monoNanosNow
    let measured ← IO.lazyPure fun _ => b.measure
    let stop ← IO.monoNanosNow
    return .printed (unlines (b.header ++ b.report measured (some (stop - start))))
  | _ => return invocation.run (← invocation.environment)

end RecordRing

open RecordRing in
/-- Run the program. -/
def main (args : List String) : IO UInt32 := do
  let output ← (Invocation.parse args).perform
  let level? := (← IO.getEnv "RUST_LOG").bind Level.ofName?
  let out ← IO.getStdout
  let err ← IO.getStderr
  for line in shown level? output.log do
    err.putStrLn line.render
  out.write ⟨output.bytes.toArray⟩
  out.flush
  if let some failure := output.failure then
    err.putStrLn s!"Error: {failure.message}"
  return UInt32.ofNat output.code
