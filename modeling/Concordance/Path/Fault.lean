import Concordance.Path

/-!
# Faults of paths

Why a file cannot be read, written or made at a path.
-/

namespace Concordance

/-- Why a path does not serve. -/
inductive PathFault where
  /-- It leads to nothing. -/
  | missing
  /-- A file is in the place of a directory on the way. -/
  | notDirectory
  /-- It leads to a directory, and a file is wanted. -/
  | isDirectory
  /-- It leads to a file, and a directory is to be made. -/
  | occupied
  /-- The path or a name in it is too long. -/
  | tooLong
  /-- It holds a character that no name has. -/
  | forbidden
deriving DecidableEq, Repr

namespace PathFault

def message : PathFault → String
  | .missing => "No such file or directory (os error 2)"
  | .notDirectory => "Not a directory (os error 20)"
  | .isDirectory => "Is a directory (os error 21)"
  | .occupied => "File exists (os error 17)"
  | .tooLong => "File name too long (os error 36)"
  | .forbidden => "file name contained an unexpected NUL byte"

/-- Why a path does not serve whatever files there are. -/
def ofText? (path : String) : Option PathFault :=
  if path.isEmpty then some .missing
  else if path.toList.contains '\x00' then some .forbidden
  else if Path.maxLength < path.utf8ByteSize then some .tooLong
  else none

end PathFault

end Concordance
