import ConsoleRelay.Text.Numeral

/-! What the operating system refuses. -/
namespace ConsoleRelay

/-- Errors of reading files and starting programs. The system has more than those that have a name
here. -/
inductive OsError where
  | notFound
  | badExecutable
  | badDescriptor
  | permissionDenied
  | exists
  | notADirectory
  | isADirectory
  | nameTooLong
  | notEmpty
  | tooManyLevels
  | invalidText
  | nulInName
  | nulInArgument
  | other (number : Nat) (description : String)
  deriving DecidableEq, Repr

namespace OsError

/-- The number of an error that the system itself reports. -/
def number? : OsError → Option Nat
  | .notFound => some 2
  | .badExecutable => some 8
  | .badDescriptor => some 9
  | .permissionDenied => some 13
  | .exists => some 17
  | .notADirectory => some 20
  | .isADirectory => some 21
  | .nameTooLong => some 36
  | .notEmpty => some 39
  | .tooManyLevels => some 40
  | .invalidText | .nulInName | .nulInArgument => none
  | .other number _ => some number

def description : OsError → String
  | .notFound => "No such file or directory"
  | .badExecutable => "Exec format error"
  | .badDescriptor => "Bad file descriptor"
  | .permissionDenied => "Permission denied"
  | .exists => "File exists"
  | .notADirectory => "Not a directory"
  | .isADirectory => "Is a directory"
  | .nameTooLong => "File name too long"
  | .notEmpty => "Directory not empty"
  | .tooManyLevels => "Too many levels of symbolic links"
  | .invalidText => "stream did not contain valid UTF-8"
  | .nulInName => "file name contained an unexpected NUL byte"
  | .nulInArgument => "nul byte found in provided data"
  | .other _ description => description

def message (e : OsError) : Text :=
  e.description.toList ++
    match e.number? with
    | some n => " (os error ".toList ++ decimal n ++ ")".toList
    | none => []

end OsError

end ConsoleRelay
