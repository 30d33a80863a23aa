import Concordance.CommandLine.Command
import Concordance.Decimal.Places
import Concordance.Server.Session

/-!
# Running a command

A command gives what it writes to either output, its status, and all files after it. What is found
outside, the time and the directory of the user, is handed in.
-/

namespace Concordance.CommandLine

open Text

/-- What a command finds outside, besides files. -/
structure Surroundings where
  /-- The directory of the user. -/
  home : Option String
  /-- The directory for data of programs, if it is not below that of the user. -/
  dataHome : Option String
  /-- The time, in seconds. -/
  now : UInt64
  /-- How many bytes can be had for what a cache file announces. -/
  room : Nat
  /-- How long the answer to a request takes, in milliseconds. -/
  elapsed : Float

structure Outcome where
  status : UInt32
  output : String
  errors : String
  tree : FileTree

def Outcome.success (tree : FileTree) (output errors : String) : Outcome :=
  ⟨0, output, errors, tree⟩

def Outcome.failure (tree : FileTree) (message : String) : Outcome :=
  ⟨1, "", "Error: " ++ message ++ "\n", tree⟩

/-- An outcome that no error is told of: room was asked for that there is not. -/
def Outcome.aborted (tree : FileTree) : Outcome :=
  ⟨101, "", "", tree⟩

/-- An outcome behind what was written before. -/
def Outcome.behind (outcome : Outcome) (output errors : String) : Outcome :=
  { outcome with output := output ++ outcome.output, errors := errors ++ outcome.errors }

def usualCacheDirectory (surroundings : Surroundings) : String :=
  let base :=
    match surroundings.dataHome with
    | some d => if Path.isAbsolute d then some d else none
    | none => none
  let base := base.or (surroundings.home.map fun h => Path.join h ".local/share")
  Path.join (base.getD ".") "handbook-search"

def cacheDirectory (surroundings : Surroundings) (given : Option String) : String :=
  given.getD (usualCacheDirectory surroundings)

def line (text : String) : String := text ++ "\n"

variable [CharacterTable]

/-- The snapshot that a command answers from. -/
def loadSource (surroundings : Surroundings) (tree : FileTree) (source : SourceOptions) (noCache : Bool) :
    Except Exhausted (Except LoadError Cache.Loaded) :=
  let corpus := source.corpus.corpus
  Cache.loadOrBuild surroundings.room tree (cacheDirectory surroundings source.cacheDirectory) source.corpus.directory
    (corpus.view tree) source.config (!noCache) surroundings.now

/-! ### The index -/

def runIndex (surroundings : Surroundings) (tree : FileTree) (source : SourceOptions) : Outcome :=
  match (source.corpus.corpus.view tree).snapshot source.config surroundings.now with
  | .error e => .failure tree e.message
  | .ok snapshot =>
    let saved := Cache.save tree (cacheDirectory surroundings source.cacheDirectory)
      source.corpus.directory snapshot surroundings.now
    match saved.result with
    | .error e => .failure saved.tree e.message
    | .ok path =>
      let size := (saved.tree.file? path).map fun file => file.content.length
      .success saved.tree "" (line ("Snapshot saved to " ++ path ++ " (" ++ toString snapshot.store.size ++
        " documents, " ++ toString snapshot.index.termCount ++ " terms, " ++
        Decimal.writeFixed (Cache.megabytes (size.getD 0)) 1 ++ " MB)"))

/-! ### A search -/

def writeResult (number : Nat) (s : Shown Float) : String :=
  String.ofList (Decimal.padStart ' ' 2 (Nat.toDigits 10 number)) ++
    line (". " ++ s.title ++ "  [" ++ s.id ++ "]  score " ++ Decimal.writeFixed s.score 3) ++
    line ("    " ++ s.path) ++ (if s.snippet.isEmpty then "" else line ("    " ++ s.snippet)) ++ "\n"

def writeResults (results : List (Shown Float)) : String :=
  String.join (results.zipIdx.map fun (s, n) => writeResult (n + 1) s)

def searchJson (query : String) (outcome : SearchOutcome Float) (results : List (Shown Float)) : Json :=
  .object
    [("results", .array (results.map Server.shownJson)),
      ("summary", .object (Server.summary query outcome results.length))]

def runSearch (surroundings : Surroundings) (tree : FileTree) (search : SearchCommand) : Outcome :=
  if search.limit < 1 then .failure tree (QueryError.invalidLimit search.limit).message
  else
    match loadSource surroundings tree search.source search.noCache with
    | .error _ => .aborted tree
    | .ok (.error e) => .failure tree e.message
    | .ok (.ok loaded) =>
      let snapshot := loaded.snapshot
      let options : SearchOptions :=
        ⟨min search.limit.toNat snapshot.config.maxLimit.toNat, if search.all then .all else .any,
          search.phrase⟩
      match snapshot.search search.query options with
      | .error e => .failure loaded.tree e.message
      | .ok outcome =>
        let results := snapshot.present outcome
        if search.json then
          .success loaded.tree (line (searchJson search.query outcome results).renderIndented) ""
        else if results.isEmpty then
          .success loaded.tree "" (line ("No matches for '" ++ search.query ++ "'."))
        else
          .success loaded.tree (writeResults results)
            (line (toString results.length ++ " of " ++ toString outcome.totalHits ++
              " matching documents shown"))

/-! ### An article -/

def documentJson (d : Document) : Json :=
  .fields [("id", .string d.id), ("title", .string d.title), ("body", .string d.body),
    ("source_path", .string d.path)]

def runGet (surroundings : Surroundings) (tree : FileTree) (get : GetCommand) : Outcome :=
  match loadSource surroundings tree get.source get.noCache with
  | .error _ => .aborted tree
  | .ok (.error e) => .failure tree e.message
  | .ok (.ok loaded) =>
    match loaded.snapshot.store.get? get.id with
    | none => .failure loaded.tree ("Document '" ++ get.id ++ "' not found")
    | some d =>
      .success loaded.tree
        (if get.json then line (documentJson d).renderIndented
          else line ("# " ++ d.title) ++ line ("(" ++ d.path ++ ")") ++ "\n" ++ line d.body) ""

/-! ### The cache -/

/-- What is told of a cache file: on the output, or on the errors if it cannot be used. -/
def describe (tree : FileTree) (now : UInt64) (report : Cache.Report) : String × String :=
  let entry := report.entry
  match report.stored with
  | .error e => ("", line ("  Warning: failed to load " ++ entry.path ++ ": " ++ e.message))
  | .ok stored =>
    (line ("  " ++ stored.root ++ " -- " ++ toString stored.documents.length ++ " documents, " ++
      toString stored.index.termCount ++ " terms, " ++ Decimal.writeFixed (Cache.megabytes entry.size) 1 ++
      " MB, " ++ Decimal.writeFixed (Cache.ageInHours now stored.builtAt) 1 ++ "h ago" ++
      (if tree.exists? stored.root then "" else " [ORPHANED]") ++ " (" ++
      (Path.fileName? entry.path).getD "?" ++ ")"), "")

def describeAll (surroundings : Surroundings) (tree : FileTree) : List CacheEntry → Outcome
  | [] => .success tree "" ""
  | entry :: entries =>
    match Cache.readFile surroundings.room tree entry.path with
    | .error _ => .aborted tree
    | .ok stored =>
      let (output, errors) := describe tree surroundings.now ⟨entry, stored⟩
      (describeAll surroundings tree entries).behind output errors

def runInfo (surroundings : Surroundings) (tree : FileTree) (json : Bool) (given : Option String) : Outcome :=
  let directory := cacheDirectory surroundings given
  if json then
    match Cache.reports surroundings.room tree directory with
    | .error _ => .aborted tree
    | .ok reports => .success tree (line (Cache.json tree directory surroundings.now reports).renderIndented) ""
  else if !tree.exists? directory then
    .success tree "" (line "No snapshots found. Use 'handbook index -d <dir>' to create one.")
  else
    let head := line ("Snapshot directory: " ++ directory) ++ "\n"
    let entries := Cache.list tree directory
    if entries.isEmpty then .success tree "" (head ++ line "No snapshots found.")
    else (describeAll surroundings tree entries).behind "" head

def runCleanup (surroundings : Surroundings) (tree : FileTree) (given : Option String) : Outcome :=
  let directory := cacheDirectory surroundings given
  let (tree, removed) := Cache.cleanup tree directory
  .success tree "" (line ("Scanning for orphaned snapshots in " ++ directory ++ "...") ++
    (if removed = 0 then line "No orphaned snapshots found."
      else line ("Removed " ++ toString removed ++ " orphaned snapshot file(s).")))

def runGuide (tree : FileTree) (json : Bool) : Outcome :=
  .success tree (if json then line Guide.json.renderIndented else Guide.terminal) ""

/-! ### The server -/

/-- The most bytes that an answer may take, by units of 1024. -/
def responseBytes (units : UInt64) : Nat :=
  min (units.toNat * 1024) 0xFFFFFFFFFFFFFFFF

/-- The server that a command starts, with all files after that. -/
def startServer (surroundings : Surroundings) (tree : FileTree) (serve : ServeCommand) :
    Except Exhausted (Except LoadError (Server × FileTree)) :=
  (loadSource surroundings tree serve.source serve.noCache).map fun loaded => loaded.map fun loaded =>
    (Server.start loaded.snapshot serve.source.corpus.directory
      (cacheDirectory surroundings serve.source.cacheDirectory) serve.source.config (!serve.noCache)
      (responseBytes serve.maxResponse), loaded.tree)

/-- What a server finds when a line comes. The cache is read only if the line asks for it. -/
def momentOf (surroundings : Surroundings) (corpus : DirectoryCorpus) (server : Server) (tree : FileTree)
    (text : List Char) : Except Exhausted Moment :=
  let reports :=
    if Server.readsCache text then Cache.reports surroundings.room tree server.cacheDirectory else .ok []
  reports.map fun reports => ⟨tree, corpus.view tree, reports, surroundings.now, 0, surroundings.elapsed⟩

/-- Serves lines one after the other, and ends at one that cannot be given what it asks for. -/
def serveLines (surroundings : Surroundings) (corpus : DirectoryCorpus) (server : Server) (tree : FileTree) :
    List (List Char) → Outcome
  | [] => .success tree "" ""
  | text :: texts =>
    match momentOf surroundings corpus server tree text with
    | .error _ => .aborted tree
    | .ok moment =>
      let after := server.handleLine moment text
      (serveLines surroundings corpus after.server after.tree texts).behind
        (String.join (after.result.toList.map line)) ""

def runServe (surroundings : Surroundings) (tree : FileTree) (serve : ServeCommand) (input : List UInt8) :
    Outcome :=
  match startServer surroundings tree serve with
  | .error _ => .aborted tree
  | .ok (.error e) => .failure tree e.message
  | .ok (.ok (server, tree)) =>
    serveLines surroundings serve.source.corpus.corpus server tree (readLines input)

/-! ### All commands -/

def run (surroundings : Surroundings) (tree : FileTree) (input : List UInt8) : Command → Outcome
  | .index source => runIndex surroundings tree source
  | .search search => runSearch surroundings tree search
  | .get get => runGet surroundings tree get
  | .info json directory => runInfo surroundings tree json directory
  | .serve serve => runServe surroundings tree serve input
  | .cleanup directory => runCleanup surroundings tree directory
  | .guide json => runGuide tree json

end Concordance.CommandLine
