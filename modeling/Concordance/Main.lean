import Concordance.CommandLine.Run
import Concordance.FileTree.Change
import Concordance.Unicode.Database
import Std.Time.DateTime.Timestamp

/-!
# The program

Reads the files that a command needs into one value, runs the command on it, and carries out what it
changed and wrote. A server does this for every line. Changes of articles are noticed when a reload is
asked for.
-/

open Concordance

namespace Concordance.Program

/-! ### Files -/

/-- The names of files that tell what is ignored. -/
def ignoreNames : List String := [".ignore", ".gitignore", "exclude", ".git", "commondir"]

/-- A node of the tree for an entry of a directory; only the content of files that are wanted is read. -/
partial def readNode (wants : String → Bool) (entry : IO.FS.DirEntry) : IO (Option FileNode) := do
  let metadata ← entry.path.symlinkMetadata
  match metadata.type with
  | .dir =>
    let mut entries := []
    for child in ← entry.path.readDir do
      if let some node ← readNode wants child then
        entries := (child.fileName, node) :: entries
    return some (.directory entries)
  | .file =>
    let content ← if wants entry.fileName then IO.FS.readBinFile entry.path else pure .empty
    let time := metadata.modified
    return some (.file ⟨content.toList, (time.sec * 1000000000 + time.nsec.toNat).toNat⟩)
  | _ => return none

def readDirectory (wants : String → Bool) (tree : FileTree) (path : String) : IO FileTree := do
  try
    let real ← IO.FS.realPath path
    let mut tree := tree.makeDirectory real.toString
    for entry in ← real.readDir do
      if let some node ← readNode wants entry then
        tree := tree.plant (Path.join real.toString entry.fileName) node
    return tree
  catch _ => return tree

def readFile (tree : FileTree) (path : String) : IO FileTree := do
  try
    let content ← IO.FS.readBinFile path
    let real ← IO.FS.realPath path
    return tree.plant real.toString (.file ⟨content.toList, 0⟩)
  catch _ => return tree

/-- The tree with the mark that something exists, if it does. -/
def markExisting (tree : FileTree) (path : String) : IO FileTree := do
  try
    let real ← IO.FS.realPath path
    return if tree.exists? real.toString then tree else tree.plant real.toString .empty
  catch _ => return tree

/-- The tree with the rules that a repository keeps elsewhere. -/
def readLinked (tree : FileTree) (directory : String) : IO FileTree := do
  let mut tree := tree
  if let some data := Ignore.linkedDirectory? tree directory then
    tree ← readFile tree (Path.join data "commondir")
    if let some path := Ignore.excludePath? tree directory then
      tree ← readFile tree path
  return tree

/-- The tree with the rules that repositories at or below a directory keep elsewhere. -/
partial def readLinkedBelow (tree : FileTree) (directory : String) : IO FileTree := do
  let mut tree ← readLinked tree directory
  for (name, node) in ((tree.find? directory).map FileNode.entries).getD [] do
    if node.isDirectory then
      tree ← readLinkedBelow tree (Path.join directory name)
  return tree

/-- The tree with the ignore files of the directories above a path. -/
def readAbove (tree : FileTree) (path : String) : IO FileTree := do
  let names := (tree.canonical? path).getD []
  let mut tree := tree
  for count in List.range names.length do
    let directory := FileTree.writeNames (names.take count)
    for name in [".git", ".ignore", ".gitignore", ".git/info/exclude"] do
      tree ← readFile tree (Path.join directory name)
    for name in [".git", ".jj"] do
      tree ← markExisting tree (Path.join directory name)
    tree ← readLinked tree directory
  return tree

/-- The files that a command needs: those of its articles and those of its cache. -/
def readTree (corpus : Option CommandLine.CorpusOptions) (cache : String) : IO FileTree := do
  let current ← IO.currentDir
  let working := (Path.parts current.toString).filterMap fun
    | .name name => some name
    | _ => none
  let mut tree : FileTree := FileTree.makeDirectory ⟨.empty, working⟩ current.toString
  if let some options := corpus then
    let extensions := options.corpus.extensions
    let wants (name : String) := ignoreNames.contains name || DirectoryCorpus.hasExtension extensions name
    tree ← readDirectory wants tree options.directory
    tree ← readLinkedBelow tree options.directory
    tree ← readAbove tree options.directory
  tree ← readDirectory (fun _ => true) tree cache
  for entry in Cache.list tree cache do
    if let some root := entry.root then
      tree ← markExisting tree root
  return tree

def carryOut (before after : FileTree) : IO Unit := do
  for change in Change.between before after do
    match change with
    | .makeDirectory path => IO.FS.createDirAll path
    | .write path content => IO.FS.writeBinFile path ⟨content.toArray⟩
    | .remove path => IO.FS.removeFile path

/-! ### Commands -/

/-- The source that a command reads, and the directory of the cache if one is given. -/
def needs : CommandLine.Command → Option CommandLine.CorpusOptions × Option String
  | .index source => (source.corpus, source.cacheDirectory)
  | .search search => (search.source.corpus, search.source.cacheDirectory)
  | .get get => (get.source.corpus, get.source.cacheDirectory)
  | .serve serve => (serve.source.corpus, serve.source.cacheDirectory)
  | .info _ directory => (none, directory)
  | .cleanup directory => (none, directory)
  | .guide _ => (none, none)

def currentTime : IO UInt64 := do
  let now ← Std.Time.Timestamp.now
  return UInt64.ofNat now.toSecondsSinceUnixEpoch.val.toNat

def surroundings : IO CommandLine.Surroundings := do
  return ⟨← IO.getEnv "HOME", ← IO.getEnv "XDG_DATA_HOME", ← currentTime, Codec.addressable, 0⟩

/-- Answers the lines of the input until it ends; gives the status of the program. -/
partial def serveLines (serve : CommandLine.ServeCommand) (cache : String) (server : Server)
    (started : Nat) : IO UInt32 := do
  let line ← (← IO.getStdin).getLine
  if line.isEmpty then return 0
  let begun ← IO.monoMsNow
  let outside ← surroundings
  let tree ← readTree serve.source.corpus cache
  let .ok moment := CommandLine.momentOf outside serve.source.corpus.corpus server tree line.toList
    | return (CommandLine.Outcome.aborted tree).status
  let finished ← IO.monoMsNow
  let moment :=
    { moment with uptime := (begun - started) / 1000, elapsed := (finished - begun).toFloat }
  let after := server.handleLine moment line.toList
  carryOut tree after.tree
  if let some reply := after.result then
    IO.println reply
    (← IO.getStdout).flush
  serveLines serve cache after.server started

/-- Runs a command; gives the status of the program. -/
def runCommand (command : CommandLine.Command) : IO UInt32 := do
  let outside ← surroundings
  let (corpus, directory) := needs command
  let cache := CommandLine.cacheDirectory outside directory
  let tree ← readTree corpus cache
  if let .serve serve := command then
    match CommandLine.startServer outside tree serve with
    | .error _ => return (CommandLine.Outcome.aborted tree).status
    | .ok (.error e) =>
      IO.eprintln ("Error: " ++ e.message)
      return 1
    | .ok (.ok (server, after)) =>
      carryOut tree after
      return ← serveLines serve cache server (← IO.monoMsNow)
  let outcome := CommandLine.run outside tree [] command
  carryOut tree outcome.tree
  IO.print outcome.output
  IO.eprint outcome.errors
  return outcome.status

end Concordance.Program

def main (arguments : List String) : IO UInt32 := do
  match CommandLine.read arguments with
  | .error e =>
    if e.status = 0 then IO.println e.message else IO.eprintln e.message
    return e.status
  | .ok command => Program.runCommand command
