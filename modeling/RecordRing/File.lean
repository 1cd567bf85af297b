/-!
# Files that cannot be read

## Main definitions

* `FileFault`, `FileFault.message` — why a file gives no bytes, or no text
-/

namespace RecordRing

/-- Why a file cannot be read. -/
inductive FileFault where
  /-- There is none of that name. -/
  | notFound
  /-- A part of the path is no directory. -/
  | notDirectory
  /-- It is a directory. -/
  | isDirectory
  /-- Its name, or a part of it, is longer than names can be. -/
  | nameTooLong
  /-- Its bytes are not the text they should be. -/
  | notText
  /-- Something else, as the system words it. -/
  | other (reason : String)
deriving DecidableEq, Repr

/-- The wording of a file fault. -/
def FileFault.message : FileFault → String
  | .notFound => "No such file or directory (os error 2)"
  | .notDirectory => "Not a directory (os error 20)"
  | .isDirectory => "Is a directory (os error 21)"
  | .nameTooLong => "File name too long (os error 36)"
  | .notText => "stream did not contain valid UTF-8"
  | .other reason => reason

end RecordRing
