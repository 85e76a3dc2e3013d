/-!
# Why a file could not be read

Reading a rule source fails when nothing is at its path, when a directory is there, when a
step of the path is a plain file, or, for sources held in memory, when no source has the name.
Each cause has the text the operating system gives it.
-/

namespace PostRules.Files

/-- Why a file or a named source could not be read. -/
inductive ReadFailure where
  | notFound
  | isDirectory
  | notDirectory
  | unknownSource
  deriving DecidableEq, Repr, Inhabited

/-- The text of a failure. -/
def ReadFailure.message : ReadFailure → String
  | .notFound => "No such file or directory (os error 2)"
  | .isDirectory => "Is a directory (os error 21)"
  | .notDirectory => "Not a directory (os error 20)"
  | .unknownSource => "no such rule source"

end PostRules.Files
