import RecordRing.Decimal.Shortest
import RecordRing.Text.Quoted

/-!
# What can be wrong with a JSON text

An error has a cause and a place. A text can be ill formed, end too early, or be well formed and
describe no value of the type that is read; the three are the categories of an error.

## Main definitions

* `Json.Found` — what was found where something else was expected
* `Json.Cause`, `Json.Cause.message`, `Json.Cause.category` — the causes and their wording
* `Json.Place`, `Json.Place.after` — lines and columns
* `Json.Error`, `Json.Error.message` — a cause at a place
-/

namespace RecordRing.Json

/-- A value that was found where another was expected. -/
inductive Found where
  /-- The value `null`. -/
  | null
  /-- A truth value. -/
  | bool (b : Bool)
  /-- A whole number. -/
  | integer (i : Int)
  /-- A number that is not whole, or too large to be kept as one, by the bits of its double. -/
  | float (bits : UInt64)
  /-- A string. -/
  | string (s : String)
  /-- A list. -/
  | sequence
  /-- An object. -/
  | map
deriving DecidableEq, Repr

/-- How messages name a found value. -/
def Found.describe : Found → String
  | .null => "null"
  | .bool b => s!"boolean `{b}`"
  | .integer i => s!"integer `{i}`"
  | .float bits => s!"floating point `{Decimal.Layout.message.render bits}`"
  | .string s => s!"string {Text.quote s}"
  | .sequence => "sequence"
  | .map => "map"

/-- What is wrong. -/
inductive Cause where
  /-- The text ends inside a list. -/
  | endInList
  /-- The text ends inside an object. -/
  | endInObject
  /-- The text ends inside a string. -/
  | endInString
  /-- The text ends where a value should be. -/
  | endInValue
  /-- There is no colon after a name. -/
  | expectedColon
  /-- After an element there is neither a comma nor the end of the list. -/
  | expectedListMark
  /-- After a member there is neither a comma nor the end of the object. -/
  | expectedObjectMark
  /-- A word starts like `null`, `true` or `false` and goes on differently. -/
  | expectedIdent
  /-- No value starts here. -/
  | expectedValue
  /-- A backslash is followed by something that it does not escape. -/
  | invalidEscape
  /-- A number is ill formed. -/
  | invalidNumber
  /-- A number is too large for a double. -/
  | numberOutOfRange
  /-- A string holds a control character as itself. -/
  | controlCharacter
  /-- A member of an object does not start with a string. -/
  | keyNotString
  /-- Half of a surrogate pair stands alone or second. -/
  | loneSurrogate
  /-- The first half of a surrogate pair is followed by no escape. -/
  | unpairedSurrogate
  /-- A comma is followed by the end of its list or object. -/
  | trailingComma
  /-- Something follows the value. -/
  | trailingCharacters
  /-- The value is of another type. -/
  | wrongType (found : Found) (expected : String)
  /-- The value is of the type but outside its range. -/
  | wrongValue (found : Found) (expected : String)
  /-- A list has too few elements. -/
  | wrongLength (length : Nat) (expected : String)
  /-- A member that has no default is missing. -/
  | missingField (name : String)
  /-- A member is given twice. -/
  | duplicateField (name : String)
  /-- A member is given that the type does not have. -/
  | unknownField (name : String) (expected : List String)
  /-- The value is refused for a reason of its own. -/
  | rejected (reason : String)
deriving DecidableEq, Repr

/-- A choice of names, the way messages give it. -/
def oneOf : List String → String
  | [] => "there are no fields"
  | [a] => s!"expected `{a}`"
  | [a, b] => s!"expected `{a}` or `{b}`"
  | names => "expected one of " ++ ", ".intercalate (names.map fun a => s!"`{a}`")

namespace Cause

/-- The wording of a cause. -/
def message : Cause → String
  | .endInList => "EOF while parsing a list"
  | .endInObject => "EOF while parsing an object"
  | .endInString => "EOF while parsing a string"
  | .endInValue => "EOF while parsing a value"
  | .expectedColon => "expected `:`"
  | .expectedListMark => "expected `,` or `]`"
  | .expectedObjectMark => "expected `,` or `\x7d`"
  | .expectedIdent => "expected ident"
  | .expectedValue => "expected value"
  | .invalidEscape => "invalid escape"
  | .invalidNumber => "invalid number"
  | .numberOutOfRange => "number out of range"
  | .controlCharacter => "control character (\\u0000-\\u001F) found while parsing a string"
  | .keyNotString => "key must be a string"
  | .loneSurrogate => "lone leading surrogate in hex escape"
  | .unpairedSurrogate => "unexpected end of hex escape"
  | .trailingComma => "trailing comma"
  | .trailingCharacters => "trailing characters"
  | .wrongType found expected => s!"invalid type: {found.describe}, expected {expected}"
  | .wrongValue found expected => s!"invalid value: {found.describe}, expected {expected}"
  | .wrongLength length expected => s!"invalid length {length}, expected {expected}"
  | .missingField name => s!"missing field `{name}`"
  | .duplicateField name => s!"duplicate field `{name}`"
  | .unknownField name expected => s!"unknown field `{name}`, {oneOf expected}"
  | .rejected reason => reason

end Cause

/-- The three ways in which a text can be wrong. -/
inductive Category where
  /-- It is ill formed. -/
  | ill
  /-- It describes no value of the type. -/
  | data
  /-- It ends too early. -/
  | eof
deriving DecidableEq, Repr

/-- The category of a cause. -/
def Cause.category : Cause → Category
  | .endInList | .endInObject | .endInString | .endInValue => .eof
  | .wrongType .. | .wrongValue .. | .wrongLength .. | .missingField .. | .duplicateField ..
  | .unknownField .. | .rejected .. => .data
  | _ => .ill

/-! ### Places -/

/-- A line, counted from one, and how many bytes of it come before. -/
structure Place where
  /-- The line. -/
  line : Nat
  /-- The column. -/
  column : Nat
deriving DecidableEq, Repr

namespace Place

/-- The place after one more byte. -/
def next (p : Place) (b : UInt8) : Place :=
  if b = 10 then ⟨p.line + 1, 0⟩ else ⟨p.line, p.column + 1⟩

/-- The place after all of `bs`. -/
def after (bs : List UInt8) : Place := bs.foldl next ⟨1, 0⟩

end Place

/-- A cause and where in the text it was met. -/
structure Error where
  /-- What is wrong. -/
  cause : Cause
  /-- Where. -/
  place : Place
deriving DecidableEq, Repr

namespace Error

/-- The wording of an error. -/
def message (e : Error) : String :=
  s!"{e.cause.message} at line {e.place.line} column {e.place.column}"

/-- The category of an error. -/
def category (e : Error) : Category := e.cause.category

end Error

end RecordRing.Json
