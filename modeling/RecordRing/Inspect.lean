import RecordRing.Assembler
import RecordRing.Store.Basic
import RecordRing.Text.Quoted
import RecordRing.Text.Utf8

/-!
# Inner states as text

For whoever looks for a mistake, the inner state of a record, a store and an assembler can be
written out, field by field. The bytes of a record are mostly lines of text and are written as
such; the bytes that an assembler buffers are written as numbers.

## Main definitions

* `Record.inspect`, `Store.inspect`, `Assembler.inspect`
-/

namespace RecordRing

/-- A value with named parts. -/
def inspectParts (name : String) (parts : List (String × String)) : String :=
  name ++ " \x7b " ++ ", ".intercalate (parts.map fun (label, value) => label ++ ": " ++ value) ++
    " \x7d"

/-- A list. -/
def inspectList (items : List String) : String := "[" ++ ", ".intercalate items ++ "]"

/-- A value that may be missing. -/
def inspectOption : Option String → String
  | none => "None"
  | some value => "Some(" ++ value ++ ")"

/-- A record written out. -/
def Record.inspect (r : Record) : String :=
  inspectParts "Record" [
    ("len", toString r.size),
    ("bytes", Text.quote (Text.decodeLossy r.bytes))]

/-- A store written out, slot by slot. -/
def Store.inspect {n : Nat} (s : Store n) : String :=
  inspectParts "RecordStore" [
    ("slots", inspectList (s.slots.toList.map fun slot => inspectOption (slot.map Record.inspect))),
    ("write_cursor", toString s.writeCursor),
    ("read_cursor", toString s.readCursor),
    ("full", toString s.full)]

/-- An assembler written out. -/
def Assembler.inspect (a : Assembler) : String :=
  inspectParts "Assembler" [
    ("terminator", toString a.terminator.toNat),
    ("partial", inspectOption (a.pending?.map fun bytes =>
      inspectList (bytes.map fun b => toString b.toNat))),
    ("scanned", toString a.scanned)]

end RecordRing
