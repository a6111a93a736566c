/-!
# Failures of file operations

* `FileError`: the causes, with the wording and number that the operating system gives them.
-/

namespace ProcessGraph

/-- Why a file operation failed. -/
inductive FileError where
  | notFound
  | alreadyThere
  | notADirectory
  | isADirectory
  | nameTooLong
  | zeroByte
  | notUtf8
  | other (message : String)
deriving DecidableEq, Repr

/-- The wording of a failure. -/
def FileError.message : FileError → String
  | notFound => "No such file or directory (os error 2)"
  | alreadyThere => "File exists (os error 17)"
  | notADirectory => "Not a directory (os error 20)"
  | isADirectory => "Is a directory (os error 21)"
  | nameTooLong => "File name too long (os error 36)"
  | zeroByte => "file name contained an unexpected NUL byte"
  | notUtf8 => "stream did not contain valid UTF-8"
  | other message => message

end ProcessGraph
