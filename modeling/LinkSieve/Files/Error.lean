/-!
# File system errors

The ways in which an operation on files can fail, with the wording that is shown for each.
-/

namespace LinkSieve.Files

/-- Why an operation on files failed. -/
inductive Error where
  | notFound
  | notADirectory
  | isADirectory
  | alreadyExists
  | nameTooLong
  /-- A path with a character that no path can hold. -/
  | invalidPath
  /-- A file that should be copied and is none. -/
  | notAFile
  /-- A file that should be a text and is none. -/
  | notText
  /-- Any other refusal of the operating system. -/
  | other (description : String)
  deriving Repr, DecidableEq

/-- The wording of an error. The first five carry the number that the system gives them. -/
def Error.message : Error → String
  | notFound => "No such file or directory (os error 2)"
  | notADirectory => "Not a directory (os error 20)"
  | isADirectory => "Is a directory (os error 21)"
  | alreadyExists => "File exists (os error 17)"
  | nameTooLong => "File name too long (os error 36)"
  | invalidPath => "file name contained an unexpected NUL byte"
  | notAFile => "the source path is neither a regular file nor a symlink to a regular file"
  | notText => "stream did not contain valid UTF-8"
  | other description => description

end LinkSieve.Files
