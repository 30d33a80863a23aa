import Concordance.FileTree

/-!
# Changes of files

What has to be done outside to turn one tree into another: directories to make, files to write, and
entries to remove. A directory is made before anything is written into it.
-/

namespace Concordance

/-- Something to be done outside. -/
inductive Change where
  | makeDirectory (path : String)
  | write (path : String) (content : List UInt8)
  | remove (path : String)
deriving DecidableEq, Repr

namespace Change

def removals (names : List String) (before after : List (String × FileNode)) : List Change :=
  (before.filter fun (name, _) => (after.lookup name).isNone).map fun (name, _) =>
    .remove (FileTree.writeNames (names ++ [name]))

mutual

/-- What turns `before` into a node, in the place that the names lead to. -/
def betweenNodes (names : List String) (before : Option FileNode) : FileNode → List Change
  | .file file =>
    if before.bind FileNode.file? = some file then []
    else [.write (FileTree.writeNames names) file.content]
  | .directory entries =>
    let old := (before.map FileNode.entries).getD []
    (if (before.map FileNode.isDirectory).getD false then []
      else [.makeDirectory (FileTree.writeNames names)]) ++
      removals names old entries ++ amongEntries names old entries

def amongEntries (names : List String) (before : List (String × FileNode)) :
    List (String × FileNode) → List Change
  | [] => []
  | (name, node) :: entries =>
    betweenNodes (names ++ [name]) (before.lookup name) node ++ amongEntries names before entries

end

def between (before after : FileTree) : List Change :=
  betweenNodes [] (some before.root) after.root

end Change

end Concordance
