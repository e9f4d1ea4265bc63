/-!
How files fail: the causes that the system gives, with their wording.
-/

namespace Storyboard

/-- Why a file could not be read, written or run. -/
inductive FileError where
  | forbidden
  | missing
  | permission
  | taken
  | notDirectory
  | isDirectory
  | notProgram
  /-- An argument is longer than a program can be given. -/
  | argumentTooLong
  | nameTooLong
  /-- The descriptor of an open file is closed, or does not serve for what was asked. -/
  | badDescriptor
  /-- There is no room for what is written. -/
  | noSpace
  /-- What is written goes beyond what its owner may fill. -/
  | overQuota
  /-- The device that holds the files has failed. -/
  | deviceFailed
  /-- Nobody is left to read what is written. -/
  | brokenPipe
  /-- Scripts name each other as their interpreters without an end. -/
  | tooManyLinks
  /-- The name holds a null character. -/
  | nullInName
  /-- An argument of a program holds a null character. -/
  | nullInArgument
  /-- The content is not UTF-8. -/
  | notText
deriving DecidableEq

namespace FileError

def reason : FileError → String
  | .forbidden => "Operation not permitted"
  | .missing => "No such file or directory"
  | .permission => "Permission denied"
  | .taken => "File exists"
  | .notDirectory => "Not a directory"
  | .isDirectory => "Is a directory"
  | .notProgram => "Exec format error"
  | .argumentTooLong => "Argument list too long"
  | .nameTooLong => "File name too long"
  | .badDescriptor => "Bad file descriptor"
  | .noSpace => "No space left on device"
  | .overQuota => "Disk quota exceeded"
  | .deviceFailed => "Input/output error"
  | .brokenPipe => "Broken pipe"
  | .tooManyLinks => "Too many levels of symbolic links"
  | .nullInName => "file name contained an unexpected NUL byte"
  | .nullInArgument => "nul byte found in provided data"
  | .notText => "stream did not contain valid UTF-8"

/-- The number that the system gives a cause; causes found before the system is asked have none. -/
def number? : FileError → Option Nat
  | .forbidden => some 1
  | .missing => some 2
  | .deviceFailed => some 5
  | .argumentTooLong => some 7
  | .notProgram => some 8
  | .badDescriptor => some 9
  | .permission => some 13
  | .taken => some 17
  | .notDirectory => some 20
  | .isDirectory => some 21
  | .noSpace => some 28
  | .brokenPipe => some 32
  | .nameTooLong => some 36
  | .tooManyLinks => some 40
  | .overQuota => some 122
  | .nullInName | .nullInArgument | .notText => none

def message (e : FileError) : String :=
  match e.number? with
  | some n => e.reason ++ " (os error " ++ toString n ++ ")"
  | none => e.reason

end FileError

end Storyboard
