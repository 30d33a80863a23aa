import Concordance.FileTree
import Concordance.Ignore.Rules

/-!
# Walking a directory

The files below a directory that no rule shuts out. The rules of a directory apply to everything below
it, and those of a nearer directory are asked first. Rules of version control apply inside a repository
only, up to the directory that is one, and come after the rules of plain ignore files. A name that begins
with a dot is passed over unless a rule lets it in. What lies in a directory that is passed over is not
looked at.

Rules are matched against the text of a path behind the text of the directory that they come from. Below
the directory that is walked, both texts begin as the path of that directory is written; for the
directories above it, both begin at the root.
-/

namespace Concordance.Ignore

open Text

structure WalkOptions where
  /-- Names that begin with a dot are not passed over. -/
  hidden : Bool
  /-- The rules of version control do not apply. -/
  noIgnore : Bool
deriving DecidableEq, Repr

/-! ### Texts of paths -/

def withoutStart (start text : String) : String :=
  String.ofList ((stripStart? start.toList text.toList).getD text.toList)

/-- `text` without one dot and slash at its beginning. -/
def withoutDot (text : String) : String :=
  withoutStart "./" text

def isHere (path : String) : Bool :=
  Path.parts path == [.here]

/-- What the rules of a directory are matched against for a path: the part behind the path of the
directory. A name alone is left as it is. -/
def behind (directory path : String) : String :=
  let path := withoutDot path
  if isHere directory || !path.toList.contains '/' then path
  else
    match stripStart? directory.toList path.toList with
    | some rest => withoutStart "/" (String.ofList rest)
    | none => path

/-- A path from the root: `path` begins as `walked`, of which `base` is the canonical form. -/
def fromRoot (base walked path : String) : String :=
  Path.join base
    (if isHere walked then path else withoutStart "/" (withoutStart (withoutDot walked) path))

/-! ### Rules -/

structure Scope where
  /-- The path of the directory, without a dot and a slash at its beginning. -/
  directory : String
  /-- The directory lies above the one that is walked. -/
  isAbove : Bool
  plain : List Rule
  git : List Rule
  exclude : List Rule
  isRepository : Bool

def rulesAt (tree : FileTree) (path : String) : List Rule :=
  ((tree.file? path).map fun file => readRules file.content).getD []

def firstLine? (tree : FileTree) (path : String) : Option (List Char) :=
  (tree.file? path).bind fun file => (readLines file.content).head?

/-- The directory that a repository names as that of its data, instead of holding it. -/
def linkedDirectory? (tree : FileTree) (directory : String) : Option String :=
  (firstLine? tree (Path.join directory ".git")).bind fun line =>
    (stripStart? "gitdir: ".toList line).map String.ofList

/-- The directory of the data that a repository shares with others, if its own data lies in `data`. -/
def sharedDirectory? (tree : FileTree) (data : String) : Option String :=
  (firstLine? tree (Path.join data "commondir")).map fun line =>
    let shared := String.ofList line
    if line.head? = some '.' then Path.join data shared else shared

/-- The file of rules that a repository holds among its data. -/
def excludePath? (tree : FileTree) (directory : String) : Option String :=
  let data := Path.join directory ".git"
  let data := if (tree.file? data).isSome then
      (linkedDirectory? tree directory).bind (sharedDirectory? tree)
    else some data
  data.map fun data => Path.join data "info/exclude"

def Scope.ofDirectory (options : WalkOptions) (tree : FileTree) (isAbove : Bool) (path : String) : Scope where
  directory := withoutDot path
  isAbove := isAbove
  plain := rulesAt tree (Path.join path ".ignore")
  git := if options.noIgnore then [] else rulesAt tree (Path.join path ".gitignore")
  exclude := if options.noIgnore then [] else ((excludePath? tree path).map (rulesAt tree)).getD []
  isRepository := !options.noIgnore &&
    (tree.exists? (Path.join path ".git") || tree.exists? (Path.join path ".jj"))

/-- The scopes up to the nearest one that is a repository, or none if there is none. -/
def insideRepository : List Scope → List Scope
  | [] => []
  | scope :: scopes =>
    if scope.isRepository then [scope]
    else if scopes.any Scope.isRepository then scope :: insideRepository scopes
    else []

/-- An entry of a directory as rules look at it. -/
structure Candidate where
  /-- The path as the walk has it. -/
  path : String
  /-- The path from the root. -/
  fromRoot : String
  isDirectory : Bool

/-- The verdict about an entry: the first one that the rules `rulesOf` of the scopes give, the nearest
scope first. -/
def verdictOf? (rulesOf : Scope → List Rule) (scopes : List Scope) (entry : Candidate) : Option Verdict :=
  scopes.findSome? fun scope =>
    let path := if scope.isAbove then entry.fromRoot else entry.path
    verdict? (rulesOf scope) (encode (behind scope.directory path)) entry.isDirectory

/-- The verdict of all rules about an entry. -/
def entryVerdict? (scopes : List Scope) (entry : Candidate) : Option Verdict :=
  let inside := insideRepository scopes
  ((verdictOf? Scope.plain scopes entry).or (verdictOf? Scope.git inside entry)).or
    (verdictOf? Scope.exclude inside entry)

/-- A name that begins with a dot is hidden, unless it ends with one. -/
def isHidden (name : String) : Bool :=
  name.toList.head? == some '.' && name.toList.getLast? != some '.'

/-! ### The walk -/

/-- A walk and where it began. -/
structure Walk where
  options : WalkOptions
  tree : FileTree
  /-- The path of the directory that is walked, as it is given. -/
  path : String
  /-- The canonical form of this path. -/
  base : String

def Walk.skips (walk : Walk) (scopes : List Scope) (path name : String) (node : FileNode) : Bool :=
  let path := withoutDot path
  match entryVerdict? scopes ⟨path, fromRoot walk.base walk.path path, node.isDirectory⟩ with
  | some .ignored => true
  | some .allowed => false
  | none => !walk.options.hidden && isHidden name

/-- A file, its path as it was found, and the names that lead to it from the directory that was walked. -/
structure Found where
  path : String
  names : List String
  file : File

mutual

/-- The files at or below a node, with its path and the names that lead to it. A directory with too long
a path cannot be looked into. -/
def Walk.files (walk : Walk) (scopes : List Scope) (path : String) (names : List String) :
    FileNode → List Found
  | .file file => [⟨path, names, file⟩]
  | .directory entries =>
    if (PathFault.ofText? path).isSome then []
    else walk.filesAmong (.ofDirectory walk.options walk.tree false path :: scopes) path names entries

def Walk.filesAmong (walk : Walk) (scopes : List Scope) (path : String) (names : List String) :
    List (String × FileNode) → List Found
  | [] => []
  | (name, node) :: entries =>
    let entryPath := Path.join path name
    (if walk.skips scopes entryPath name node then []
      else walk.files scopes entryPath (names ++ [name]) node) ++
      walk.filesAmong scopes path names entries

end

/-- The scopes of the directories above one, the nearest first. -/
def scopesAbove (options : WalkOptions) (tree : FileTree) (names : List String) : List Scope :=
  (List.range names.length).reverse.map fun count =>
    .ofDirectory options tree true (FileTree.writeNames (names.take count))

/-- The first names come before the second ones or are the same. -/
def areOrdered : List String → List String → Bool
  | [], _ => true
  | _ :: _, [] => false
  | a :: as, b :: bs => a < b || (a = b && areOrdered as bs)

/-- The files below the directory that a path leads to, in the order of their names. -/
def filesBelow (options : WalkOptions) (tree : FileTree) (path : String) : List Found :=
  match tree.canonical? path, tree.find? path with
  | some names, some node =>
    let walk : Walk := ⟨options, tree, path, FileTree.writeNames names⟩
    (walk.files (scopesAbove options tree names) path [] node).mergeSort
      fun a b => areOrdered a.names b.names
  | _, _ => []

end Concordance.Ignore
