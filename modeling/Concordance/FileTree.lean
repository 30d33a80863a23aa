import Concordance.FileTree.Node
import Concordance.Path.Fault

/-!
# Trees of files

All files and directories as one value, with a working directory that paths are relative to. A path is
followed from piece to piece, and every piece asks for a directory to start from, so a slash or a dot
behind the name of a file leads to nothing. What a path leads to has one canonical form, the names on the
way from the root.
-/

namespace Concordance

/-- All files, and the directory that paths are relative to. -/
structure FileTree where
  root : FileNode
  /-- The names from the root to the working directory. -/
  workingDirectory : List String

namespace FileTree

/-! ### Following a path -/

/-- The names that a part of a path leads to from those of a directory. -/
def step (root : FileNode) (names : List String) (part : PathPart) : Except PathFault (List String) :=
  match part, root.follow? names with
  | .root, _ => .ok []
  | _, none => .error .missing
  | _, some (.file _) => .error .notDirectory
  | .here, some (.directory _) => .ok names
  | .up, some (.directory _) => .ok names.dropLast
  | .name name, some (.directory entries) =>
    if Path.maxNameLength < name.utf8ByteSize then .error .tooLong
    else if (entries.lookup name).isSome then .ok (names ++ [name])
    else .error .missing

/-- The canonical names of what a path leads to. As the way is followed step by step, a path of any
length has them. -/
def locate (tree : FileTree) (path : String) : Except PathFault (List String) :=
  if path.isEmpty then .error .missing
  else (Path.steps path).foldlM (step tree.root) tree.workingDirectory

def canonical? (tree : FileTree) (path : String) : Option (List String) :=
  (tree.locate path).toOption

/-- What a path leads to, or why it leads to nothing. -/
def find (tree : FileTree) (path : String) : Except PathFault FileNode :=
  match PathFault.ofText? path with
  | some fault => .error fault
  | none => do
    match tree.root.follow? (← tree.locate path) with
    | some node => .ok node
    | none => .error .missing

def find? (tree : FileTree) (path : String) : Option FileNode :=
  (tree.find path).toOption

def file? (tree : FileTree) (path : String) : Option File :=
  (tree.find? path).bind FileNode.file?

def exists? (tree : FileTree) (path : String) : Bool :=
  (tree.find? path).isSome

def isDirectory (tree : FileTree) (path : String) : Bool :=
  ((tree.find? path).map FileNode.isDirectory).getD false

/-- The canonical form of the names that lead to something. -/
def writeNames (names : List String) : String :=
  "/" ++ "/".intercalate names

/-! ### Changing the tree -/

/-- The names that a path asks for: those of a directory that is there, and one more. -/
def place (tree : FileTree) (path : String) : Except PathFault (List String) :=
  match PathFault.ofText? path, Path.piece (Path.splitName path).2 with
  | some fault, _ => .error fault
  | none, .name name =>
    if Path.maxNameLength < name.utf8ByteSize then .error .tooLong
    else if (Path.parent path).isEmpty then .ok (tree.workingDirectory ++ [name])
    else (tree.locate (Path.parent path)).map (· ++ [name])
  | none, _ => .error .isDirectory

/-- Puts something in the place that a path asks for, if its directory is there. -/
def put (tree : FileTree) (path : String) (node : FileNode) : FileTree :=
  match tree.place path with
  | .ok names => { tree with root := FileNode.put node names tree.root }
  | .error _ => tree

def write (tree : FileTree) (path : String) (file : File) : Except PathFault FileTree := do
  let names ← tree.place path
  if ((tree.root.follow? names).map FileNode.isDirectory).getD false then .error .isDirectory
  else .ok { tree with root := FileNode.put (.file file) names tree.root }

def remove (tree : FileTree) (path : String) : FileTree :=
  match tree.canonical? path with
  | some names => { tree with root := FileNode.remove names tree.root }
  | none => tree

/-- Goes on from a directory to a part of a path, and makes the directory of a name that is missing; the
names are gone where there is no way on. -/
def makeStep (state : FileNode × Option (List String)) (part : PathPart) :
    FileNode × Option (List String) :=
  match state with
  | (root, none) => (root, none)
  | (root, some names) =>
    match part, step root names part with
    | _, .ok names => (root, some names)
    | .name name, .error .missing => (FileNode.put .empty (names ++ [name]) root, some (names ++ [name]))
    | _, .error _ => (root, none)

/-- Makes the directory of a path, and those on the way to it, as far as there is a way. A name with a
dot behind it has to be there already if it is the last one. -/
def makeDirectory (tree : FileTree) (path : String) : FileTree :=
  if (PathFault.ofText? path).isSome then tree
  else
    let parts := Path.parts path
    let parts := if Path.endsInDot path then parts.dropLast else parts
    { tree with root := (parts.foldl makeStep (tree.root, some tree.workingDirectory)).1 }

/-- Why the directory of a path is not there after it was to be made. Slashes at the end count for the
length only. -/
def directoryFault? (tree : FileTree) (path : String) : Option PathFault :=
  let bare := String.ofList (Text.trimEndBy (· == '/') path.toList)
  if bare.isEmpty then none
  else
    match PathFault.ofText? path, tree.find bare with
    | some fault, _ => some fault
    | none, .ok (.directory _) => none
    | none, .ok (.file _) => some .occupied
    | none, .error fault => some fault

/-- Puts something in the place that a path asks for; directories on the way are made. -/
def plant (tree : FileTree) (path : String) (node : FileNode) : FileTree :=
  (tree.makeDirectory (Path.parent path)).put path node

end FileTree

end Concordance
