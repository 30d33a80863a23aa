import Concordance.Article
import Concordance.Ignore.Walk
import Concordance.Snapshot

/-!
# Where documents come from

A corpus gives documents, a fingerprint that tells whether they have changed, and a description. A
`View` is what it gives at one moment. The corpus of a directory is its articles, the files with certain
extensions; their fingerprint is a hash of their paths, sizes and times. Documents that are held in
memory have no fingerprint.
-/

namespace Concordance

open Text

/-- What a corpus gives. -/
structure View where
  description : String
  fingerprint : Except LoadError (Option UInt64)
  documents : Except LoadError (List Document)

def View.store (view : View) : Except LoadError Store := do
  Store.ofDocuments view.description (← view.documents)

/-- The snapshot of what a corpus gives. The fingerprint is taken first. -/
def View.snapshot [CharacterTable] (view : View) (config : Config Float) (now : UInt64) :
    Except LoadError (Snapshot Float) := do
  let fingerprint ← view.fingerprint
  let store ← view.store
  return Snapshot.build store config now fingerprint

def View.ofDocuments (documents : List Document) : View where
  description := Store.memoryName documents
  fingerprint := .ok none
  documents := .ok documents

structure DirectoryCorpus where
  /-- The path of the directory. -/
  root : String
  /-- The extensions of articles, in lower case and without a dot. -/
  extensions : List String
  options : Ignore.WalkOptions

namespace DirectoryCorpus

def defaultExtensions : List String := ["md", "markdown"]

variable [CharacterTable]

/-- An extension as it is compared: without white space around it and dots before it, in lower case. -/
def plainExtension (extension : String) : String :=
  String.ofList (lower ((trim extension.toList).dropWhile (· == '.')))

/-- The corpus of a directory with the extensions as they are typed. -/
def ofTyped (root : String) (extensions : List String) (options : Ignore.WalkOptions) : DirectoryCorpus where
  root := root
  extensions := (extensions.map plainExtension).filter fun e => !e.isEmpty
  options := options

/-- Two texts are equal but for the case of letters of ASCII. -/
def sameLetters (a b : String) : Bool :=
  asciiLower a.toList == asciiLower b.toList

def hasExtension (extensions : List String) (path : String) : Bool :=
  match Path.extension? path with
  | none => false
  | some e => extensions.any fun x => sameLetters x e

def relativePath (names : List String) : String :=
  String.ofList ((Path.clean ("/".intercalate names)).toList.map fun c => if c = '\\' then '/' else c)

/-- The articles, in the order of their paths. -/
def articles (corpus : DirectoryCorpus) (tree : FileTree) : Except LoadError (List Ignore.Found) :=
  if !tree.isDirectory corpus.root then .error (.notFound corpus.root)
  else .ok ((Ignore.filesBelow corpus.options tree corpus.root).filter fun found =>
    hasExtension corpus.extensions (found.names.getLast?.getD ""))

/-- An article, if its path is not too long to read it. -/
def readable (found : Ignore.Found) : Except LoadError Ignore.Found :=
  match PathFault.ofText? found.path with
  | some fault => .error (.unreadable fault)
  | none => .ok found

def document (found : Ignore.Found) : Except LoadError Document := do
  let found ← readable found
  let path := relativePath found.names
  let article ← Article.parse path (decodeLossy found.file.content)
  return ⟨Path.documentId path, String.ofList article.title, String.ofList article.body, path⟩

/-- What the fingerprint tells of one article: its path, its size and its time. -/
structure Record where
  path : String
  size : Nat
  modified : Nat
deriving DecidableEq, Repr

def Record.bytes (record : Record) : List UInt8 :=
  encode record.path ++ [0] ++ encode (toString record.size) ++ [0] ++ encode (toString record.modified) ++
    [0x0A]

/-- The bytes whose hash is the fingerprint. -/
def fingerprintBytes (records : List Record) : List UInt8 :=
  records.flatMap Record.bytes

def record (found : Ignore.Found) : Except LoadError Record :=
  (readable found).map fun found =>
    ⟨relativePath found.names, found.file.content.length, found.file.modified⟩

/-- What the corpus gives when the files are those of `tree`. -/
def view (corpus : DirectoryCorpus) (tree : FileTree) : View where
  description := corpus.root
  fingerprint := do
    return some (stableHash (fingerprintBytes (← (← corpus.articles tree).mapM record)))
  documents := do (← corpus.articles tree).mapM document

end DirectoryCorpus

end Concordance
