import Concordance.Hash
import Concordance.Text.Lowercase
import Concordance.Text.Split
import Concordance.Text.Blank
import Concordance.Text.Utf8

/-!
# Paths

A path names a file by the directories on the way to it. Two paths are equal if their parts are: doubled
slashes, a slash at the end and pieces `.` make no difference, apart from a `.` at the beginning. Every
piece counts when a path is followed.
-/

namespace Concordance

open Text

inductive PathPart where
  /-- The directory that all paths begin in. -/
  | root
  /-- The directory itself; it only counts at the beginning. -/
  | here
  /-- The directory above. -/
  | up
  | name (name : String)
deriving DecidableEq, Repr

namespace Path

/-- The greatest number of bytes of a path that is looked up. -/
def maxLength : Nat := 4095

/-- The greatest number of bytes of a name. -/
def maxNameLength : Nat := 255

def pieces (path : String) : List (List Char) :=
  Text.splitAt '/' path.toList

/-- The part that a piece of a path is. Nothing is the directory itself, as a dot is. -/
def piece (text : List Char) : PathPart :=
  if text.isEmpty || text == ['.'] then .here
  else if text == ['.', '.'] then .up
  else .name (String.ofList text)

def isAbsolute (path : String) : Bool :=
  path.toList.head? == some '/'

def steps (path : String) : List PathPart :=
  (if isAbsolute path then [.root] else []) ++ (pieces path).map piece

/-- The parts of a path: its steps without those that stay, apart from a dot at the beginning. -/
def parts (path : String) : List PathPart :=
  (if (pieces path).head? = some ['.'] then [.here] else []) ++ (steps path).filter (· != .here)

def endsInDot (path : String) : Bool :=
  ((pieces path).filter fun text => !text.isEmpty).getLast? == some ['.']

/-- A path up to its last slash, and what stands behind that. -/
def splitName (path : String) : List Char × List Char :=
  match splitLast? '/' path.toList with
  | some (before, name) => (before ++ ['/'], name)
  | none => ([], path.toList)

/-- The path of the directory in which a path asks for a name, with the slash behind it. -/
def parent (path : String) : String :=
  String.ofList (splitName path).1

def fileName? (path : String) : Option String :=
  match (parts path).getLast? with
  | some (.name name) => some name
  | _ => none

def extension? (path : String) : Option String :=
  (fileName? path).bind fun name =>
    (splitLast? '.' name.toList).bind fun (before, after) =>
      if before.isEmpty then none else some (String.ofList after)

def join (directory name : String) : String :=
  if isAbsolute name || directory.isEmpty then name
  else if directory.toList.getLast? == some '/' then directory ++ name
  else directory ++ "/" ++ name

/-- A path without the mark of a long path before it. -/
def clean (path : String) : String :=
  String.ofList ((stripStart? "\\\\?\\".toList path.toList).getD path.toList)

/-- The id of an article, by its path within the corpus: the path without the extension. -/
def documentId (path : String) : String :=
  let (before, name) := splitName path
  match splitLast? '.' name with
  | some (stem, _) => if stem.isEmpty then path else String.ofList (before ++ stem)
  | none => path

/-- Letters and digits of ASCII, and the joiners, may stand in the name of a cache file. -/
def isPlain (c : Char) : Bool :=
  c.isAlphanum || c == '-' || c == '_'

variable [CharacterTable]

/-- A readable name for a directory: the last part of its path in plain characters. -/
def plainName (path : String) : String :=
  let name := lower ((fileName? path).getD "").toList
  let plain := trimBy (· == '_') ((name.map fun c => if isPlain c then c else '_').take 32)
  if plain.isEmpty then "root" else String.ofList plain

/-- The name of the file that the index of a directory is kept in. -/
def cacheName (root : String) : String :=
  let hash := stableHash (encode root)
  plainName root ++ "_" ++ hexText 8 (hash.toNat % 0x100000000) ++ ".handbook-index"

end Path

end Concordance
