/-!
# Files and directories

A file, or a directory with its entries. What lies below a directory is told by the names that lead to
it.
-/

namespace Concordance

structure File where
  content : List UInt8
  /-- When the file was changed, in nanoseconds since the beginning of 1970. -/
  modified : Nat
deriving DecidableEq, Repr

/-- A file, or a directory with its entries. -/
inductive FileNode where
  | file (file : File)
  | directory (entries : List (String × FileNode))

namespace FileNode

def empty : FileNode := .directory []

/-- The entries of a directory; a file has none. -/
def entries : FileNode → List (String × FileNode)
  | .file _ => []
  | .directory entries => entries

def isDirectory : FileNode → Bool
  | .file _ => false
  | .directory _ => true

def file? : FileNode → Option File
  | .file f => some f
  | .directory _ => none

def entry? (name : String) (node : FileNode) : Option FileNode :=
  node.entries.lookup name

def follow? : (names : List String) → FileNode → Option FileNode
  | [], node => some node
  | name :: names, node => (node.entry? name).bind (follow? names)

/-- Entries with the one of this name changed; `none` removes it. -/
def alterEntry (name : String) (change : Option FileNode → Option FileNode) :
    List (String × FileNode) → List (String × FileNode)
  | [] => ((change none).map fun node => (name, node)).toList
  | (n, node) :: rest =>
    if n = name then ((change (some node)).map fun node => (name, node)).toList ++ rest
    else (n, node) :: alterEntry name change rest

/-- The tree with `new` in the place that the names lead to; directories on the way are made. -/
def put (new : FileNode) : (names : List String) → FileNode → FileNode
  | [], _ => new
  | name :: names, node =>
    .directory (alterEntry name (fun old => some (put new names (old.getD empty))) node.entries)

def remove : (names : List String) → FileNode → FileNode
  | [], node => node
  | [name], node => .directory (alterEntry name (fun _ => none) node.entries)
  | name :: names, node =>
    .directory (alterEntry name (fun old => old.map (remove names)) node.entries)

end FileNode

end Concordance
