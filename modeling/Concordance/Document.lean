import Concordance.Path.Fault

/-!
# Documents

A document is an article that was read, and `LoadError` lists what can go wrong while a set of them is
gathered.
-/

namespace Concordance

/-- An article with the id under which it is found. -/
structure Document where
  id : String
  title : String
  body : String
  /-- Where the article came from, as it is shown to readers. -/
  path : String
deriving DecidableEq, Repr, Inhabited

/-- Why a text is not an article. -/
inductive Flaw where
  | binaryContent
  | unterminatedFrontMatter
  | emptyTitleHeading
  | noTitleHeading
deriving DecidableEq, Repr

def Flaw.message : Flaw → String
  | .binaryContent => "binary content"
  | .unterminatedFrontMatter => "unterminated front matter"
  | .emptyTitleHeading => "empty title heading"
  | .noTitleHeading => "no title heading"

/-- Why no set of documents was gathered. -/
inductive LoadError where
  /-- There are no documents at all. -/
  | empty (source : String)
  | malformed (path : String) (flaw : Flaw)
  /-- Two documents have one id. -/
  | duplicateId (id : String)
  | notFound (path : String)
  /-- A file cannot be read. -/
  | unreadable (fault : PathFault)
deriving DecidableEq, Repr

def LoadError.message : LoadError → String
  | .empty source => "Corpus is empty: no documents found in " ++ source
  | .malformed path flaw => "Malformed article '" ++ path ++ "': " ++ flaw.message
  | .duplicateId id => "Duplicate document id '" ++ id ++ "'"
  | .notFound path => "Corpus directory does not exist: " ++ path
  | .unreadable fault => "I/O error: " ++ fault.message

end Concordance
