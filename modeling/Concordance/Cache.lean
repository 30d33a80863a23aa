import Concordance.CacheFile
import Concordance.Corpus
import Concordance.Json.Basic

/-!
# The cache

A directory of cache files, one for each corpus, named by the canonical path of the corpus. A cached
snapshot is used if it can be trusted; if not, the snapshot is built anew and kept. A cache file that
announces more than can be had ends whatever reads it. A cache file whose corpus is gone is an orphan, and
`cleanup` removes it.

Wherever cache files are read, `room` is how many bytes can be had for what one of them announces.
-/

namespace Concordance

open Text

/-- What is known of a cache file without reading all of it. -/
structure CacheEntry where
  path : String
  /-- The directory of the corpus, if it can be read. -/
  root : Option String
  size : Nat

namespace Cache

/-! ### Names -/

def fileExtension : String := "handbook-index"

/-- The canonical path of a corpus, or the path as it is given if it leads to nothing. -/
def canonicalRoot (tree : FileTree) (root : String) : String :=
  Path.clean (((tree.canonical? root).map FileTree.writeNames).getD root)

variable [CharacterTable]

def path (tree : FileTree) (directory root : String) : String :=
  Path.join directory (Path.cacheName (canonicalRoot tree root))

/-! ### Reading and writing -/

/-- All files after something was to be written, and the path of what was written. -/
structure Saved where
  tree : FileTree
  result : Except CacheError String

/-- Keeps a snapshot of a corpus. The directory of the cache is made if it is missing. -/
def save (tree : FileTree) (directory root : String) (snapshot : Snapshot Float) (now : UInt64) : Saved :=
  let made := tree.makeDirectory directory
  let path := path made directory root
  let stored := StoredSnapshot.ofSnapshot (canonicalRoot made root) snapshot
  let file : File := ⟨CacheFile.pack StoredSnapshot.codec stored, now.toNat * 1000000000⟩
  match made.directoryFault? directory, made.write path file with
  | some fault, _ => ⟨made, .error (.unavailable fault)⟩
  | none, .error fault => ⟨made, .error (.unavailable fault)⟩
  | none, .ok after => ⟨after, .ok path⟩

def readFile (room : Nat) (tree : FileTree) (path : String) :
    Except Exhausted (Except CacheError StoredSnapshot) :=
  match tree.find path with
  | .error .missing => .ok (.error (.missing path))
  | .error fault => .ok (.error (.unreadable path (.notOpened fault)))
  | .ok (.directory _) => .ok (.error (.unreadable path .isDirectory))
  | .ok (.file file) => CacheFile.unpack room StoredSnapshot.codec path file.content

def loadStored (room : Nat) (tree : FileTree) (directory root : String) :
    Except Exhausted (Except CacheError StoredSnapshot) :=
  readFile room tree (path tree directory root)

/-- The snapshot that is kept of a corpus, if it can be used. -/
def load (room : Nat) (tree : FileTree) (directory root : String) (config : Config Float)
    (now : Option UInt64) : Except Exhausted (Except CacheError (Snapshot Float)) :=
  (loadStored room tree directory root).map fun stored => stored >>= (·.restore config now)

structure Loaded where
  snapshot : Snapshot Float
  fromCache : Bool
  /-- The files after that. -/
  tree : FileTree

/-- Builds the snapshot of a corpus, and keeps it if `useCache` says so and that is possible. -/
def rebuild (tree : FileTree) (directory root : String) (view : View) (config : Config Float)
    (useCache : Bool) (now : UInt64) : Except LoadError Loaded := do
  let snapshot ← view.snapshot config now
  return ⟨snapshot, false, if useCache then (save tree directory root snapshot now).tree else tree⟩

/-- The snapshot of a corpus: from the cache if `useCache` says so and it can be trusted, or else built
anew. -/
def loadOrBuild (room : Nat) (tree : FileTree) (directory root : String) (view : View)
    (config : Config Float) (useCache : Bool) (now : UInt64) : Except Exhausted (Except LoadError Loaded) :=
  if useCache then
    match view.fingerprint with
    | .error e => .ok (.error e)
    | .ok fingerprint => (load room tree directory root config fingerprint).map fun
      | .ok snapshot => .ok ⟨snapshot, true, tree⟩
      | .error _ => rebuild tree directory root view config true now
  else .ok (rebuild tree directory root view config false now)

/-! ### All files -/

def directorySize : Nat := 4096

def entryAt (tree : FileTree) (path : String) : CacheEntry where
  path := path
  root := (tree.file? path).bind fun file => CacheFile.root? file.content
  size :=
    match tree.find? path with
    | some (.file file) => file.content.length
    | some (.directory _) => directorySize
    | none => 0

/-- The files of a cache, in the order of their names. -/
def list (tree : FileTree) (directory : String) : List CacheEntry :=
  let names := (((tree.find? directory).map FileNode.entries).getD []).map Prod.fst
  let names := names.filter fun name => Path.extension? name == some fileExtension
  (names.mergeSort fun a b => decide (a ≤ b)).map fun name => entryAt tree (Path.join directory name)

/-- Removes a cache file if its corpus is gone; counts what was removed. -/
def cleanupStep (state : FileTree × Nat) (entry : CacheEntry) : FileTree × Nat :=
  match entry.root with
  | none => state
  | some root => if state.1.exists? root then state else (state.1.remove entry.path, state.2 + 1)

def cleanup (tree : FileTree) (directory : String) : FileTree × Nat :=
  (list tree directory).foldl cleanupStep (tree, 0)

/-! ### What is told of a cache -/

def ageInHours (now builtAt : UInt64) : Float :=
  (if now < builtAt then 0 else now - builtAt).toFloat / 3600.0

/-- A size in units of `2 ^ 20` bytes. -/
def megabytes (size : Nat) : Float :=
  (UInt64.ofNat size).toFloat / 1048576.0

def oneDigit (x : Float) : Float :=
  (x * 10.0).round / 10.0

/-- A cache file, and what is stored in it if that can be used. -/
structure Report where
  entry : CacheEntry
  stored : Except CacheError StoredSnapshot

def reports (room : Nat) (tree : FileTree) (directory : String) : Except Exhausted (List Report) :=
  (list tree directory).mapM fun entry => (readFile room tree entry.path).map (Report.mk entry)

def Report.json (tree : FileTree) (now : UInt64) (report : Report) : Json :=
  match report.stored with
  | .ok stored => .object
      [("root", .string stored.root), ("file", .string report.entry.path),
        ("documents", .ofNat stored.documents.length), ("terms", .ofNat stored.index.termCount),
        ("sizeMb", .ofFloat (oneDigit (megabytes report.entry.size))),
        ("ageHours", .ofFloat (oneDigit (ageInHours now stored.builtAt))),
        ("orphaned", .bool (!tree.exists? stored.root))]
  | .error e => .object [("file", .string report.entry.path), ("error", .string e.message)]

def json (tree : FileTree) (directory : String) (now : UInt64) (reports : List Report) : Json :=
  .object
    [("directory", .string directory), ("snapshots", .array (reports.map (Report.json tree now)))]

end Cache

end Concordance
