/-!
Contract: why a step on the file system fails.

Owns: the causes and their wording.
-/

namespace TemplateBundle

/-- Why a step on the file system fails. -/
inductive FileFault where
  | missing
  | notDirectory
  | isDirectory
  | alreadyExists
  | denied
  | tooManyLinks
  /-- The path holds a null character and is not handed to the system at all. -/
  | unusablePath
deriving DecidableEq, Repr

/-- The wording of a fault. -/
def FileFault.reason : FileFault → String
  | .missing => "No such file or directory"
  | .notDirectory => "Not a directory"
  | .isDirectory => "Is a directory"
  | .alreadyExists => "File exists"
  | .denied => "Permission denied"
  | .tooManyLinks => "Too many levels of symbolic links"
  | .unusablePath => "embedded null byte"

end TemplateBundle
