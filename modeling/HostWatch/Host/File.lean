set_option autoImplicit false

/-!
# Host: reading files

What comes of reading a file: its bytes, or why it cannot be read.
-/

namespace HostWatch

/-- Why a file cannot be read. -/
inductive FileFault where
  /-- there is nothing at the path -/
  | notFound
  /-- the path goes on behind a file -/
  | notDirectory
  /-- the path, or a name in it, has too many bytes -/
  | nameTooLong
  /-- there is a directory at the path -/
  | isDirectory
  /-- the system has another reason -/
  | other (reason : String)
  deriving DecidableEq, Repr, Inhabited

namespace FileFault

/-- The fault in words. -/
def message : FileFault → String
  | notFound => "No such file or directory (os error 2)"
  | notDirectory => "Not a directory (os error 20)"
  | nameTooLong => "File name too long (os error 36)"
  | isDirectory => "Is a directory (os error 21)"
  | other reason => reason

/-- The path leads nowhere. -/
def isAbsence : FileFault → Bool
  | notFound | notDirectory | nameTooLong => true
  | _ => false

end FileFault

/-- What comes of reading a file. -/
abbrev FileReading := Except FileFault (List UInt8)

end HostWatch
