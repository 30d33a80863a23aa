import Concordance.Cache
import Concordance.Guide
import Concordance.Server.Argument
import Concordance.Server.Request
import Concordance.Server.ToolResult
import Concordance.Server.Tools

/-!
# The server

A server answers requests, one to a line, from its live snapshot. Only a reload changes its state: a
snapshot is built from the corpus as it is at that moment and takes the place of the live one, or, if it
cannot be built, the live one stays. Two reloads do not run at once.

What a line finds outside comes with it (`Input`): clocks and files as they are then, and what is read of the
cache if the line asks for that (`readsCache`). A cache file that cannot be read to an end ends the program
before there is an answer, so it is no part of what a line finds.
-/

namespace Concordance

open Text

/-- What a server finds when it is asked. -/
structure Moment where
  /-- All files. -/
  tree : FileTree
  /-- What the corpus gives. -/
  view : View
  /-- The files of the cache, if the line asks for them. -/
  reports : List Cache.Report
  /-- The time, in seconds. -/
  now : UInt64
  /-- How long the server has run, in seconds. -/
  uptime : Nat
  /-- How long the answer takes, in milliseconds. -/
  elapsed : Float

/-- A line, with what the server finds when it comes. -/
structure Input where
  moment : Moment
  line : List Char

/-- A server between two requests. -/
structure Server where
  live : Live Float
  /-- A reload is running. -/
  isReloading : Bool
  /-- The corpus as the cache knows it. -/
  root : String
  config : Config Float
  cacheDirectory : String
  /-- Snapshots are kept in the cache. -/
  persists : Bool
  /-- How many bytes an answer may take; zero is no limit. -/
  maxResponseBytes : Nat
  /-- What is told of a line that is no request, behind `Parse error`. -/
  faultOf : List Char → String

inductive ReloadError where
  | inProgress
  | load (error : LoadError)
deriving DecidableEq, Repr

def ReloadError.message : ReloadError → String
  | .inProgress => "A reload is already in progress. Please wait for it to finish."
  | .load e => "Reload failed, keeping the previous snapshot: " ++ e.message

structure ReloadOutcome where
  generation : UInt64
  documents : Nat
  terms : Nat
deriving DecidableEq, Repr

/-- A server and all files after something was done, with what it gave. -/
structure After (α : Type) where
  server : Server
  tree : FileTree
  result : α

def After.map {α β : Type} (f : α → β) (after : After α) : After β :=
  ⟨after.server, after.tree, f after.result⟩

namespace Server

/-- A server that begins with a snapshot. It tells nothing more of a line that is no request. -/
def start (snapshot : Snapshot Float) (root cacheDirectory : String) (config : Config Float)
    (persists : Bool) (maxResponseBytes : Nat) : Server :=
  ⟨.start snapshot, false, root, config, cacheDirectory, persists, maxResponseBytes, fun _ => ""⟩

/-- What a reload tells of a server whose live snapshot it has published. -/
def outcome (server : Server) : ReloadOutcome :=
  ⟨server.live.generation, server.live.current.store.size, server.live.current.index.termCount⟩

variable [CharacterTable]

/-- All files after a snapshot was kept, if the server keeps snapshots and that is possible. -/
def keep (server : Server) (moment : Moment) (snapshot : Snapshot Float) : FileTree :=
  if server.persists then
    (Cache.save moment.tree server.cacheDirectory server.root snapshot moment.now).tree
  else moment.tree

def reload (server : Server) (moment : Moment) : After (Except ReloadError ReloadOutcome) :=
  if server.isReloading then ⟨server, moment.tree, .error .inProgress⟩
  else
    match moment.view.snapshot server.config moment.now with
    | .error e => ⟨server, moment.tree, .error (.load e)⟩
    | .ok snapshot =>
      let published := { server with live := server.live.publish snapshot }
      ⟨published, server.keep moment snapshot, .ok published.outcome⟩

/-! ### Tools -/

def twoDigits (x : Float) : Float :=
  (x * 100.0).round / 100.0

def refuse (message : String) : ToolResult :=
  .ofJson (.object
    [("results", .array []), ("status", .string "invalid_query"), ("message", .string message)])

/-- The number of results that are asked for; no more than the configuration allows. -/
def limitOf (config : Config Float) (arguments : Json) : Except String Nat := do
  match ← Argument.integer arguments "limit" with
  | none => return config.defaultLimit.toNat
  | some n =>
    if n < 1 then throw (QueryError.invalidLimit n).message
    else return min n.toNat config.maxLimit.toNat

def modeOf (arguments : Json) : Except String MatchMode := do
  match ← Argument.text arguments "mode" with
  | none => return .any
  | some name =>
    match MatchMode.ofName? name with
    | some mode => return mode
    | none => throw ("Unknown mode '" ++ name ++ "': expected 'any' or 'all'")

/-- What is asked of a search besides the query. -/
def optionsOf (config : Config Float) (arguments : Json) : Except String SearchOptions := do
  let limit ← limitOf config arguments
  let mode ← modeOf arguments
  let asPhrase ← Argument.flag arguments "phrase"
  return ⟨limit, mode, asPhrase.getD false⟩

def shownJson (s : Shown Float) : Json :=
  .object
    [("id", .string s.id), ("title", .string s.title), ("path", .string s.path),
      ("snippet", .string s.snippet), ("score", .ofFloat s.score)]

def summary (query : String) (outcome : SearchOutcome Float) (returned : Nat) : List (String × Json) :=
  [("query", .string query), ("clauses", .strings (outcome.query.clauses.map Clause.label)),
    ("mode", .string outcome.query.mode.name), ("totalMatches", .ofNat outcome.totalHits),
    ("returned", .ofNat returned)]

def searchJson (snapshot : Snapshot Float) (query : String) (outcome : SearchOutcome Float)
    (elapsed : Float) : Json :=
  let results := snapshot.present outcome
  .object
    [("results", .array (results.map shownJson)),
      ("summary", .object (summary query outcome results.length ++
        [("generation", .ofNat snapshot.generation.toNat),
          ("searchTimeMs", .ofFloat (twoDigits elapsed))]))]

/-- Finds articles. Only a query that is missing or not a text is an error. -/
def search (server : Server) (moment : Moment) (arguments : Json) : ToolResult :=
  let snapshot := server.live.current
  match Argument.text arguments "query" with
  | .error message => .failure message
  | .ok none => .failure "Missing required parameter: query"
  | .ok (some query) =>
    match optionsOf snapshot.config arguments with
    | .error message => refuse message
    | .ok options =>
      match snapshot.search query options with
      | .error e => refuse e.message
      | .ok outcome => .ofJson (searchJson snapshot query outcome moment.elapsed)

def get (server : Server) (arguments : Json) : ToolResult :=
  match Argument.text arguments "id" with
  | .error message => .failure message
  | .ok none => .failure "Missing required parameter: id"
  | .ok (some id) =>
    match server.live.current.store.get? id with
    | none => .failure ("Article '" ++ id ++ "' not found. Use handbook_search to find valid ids.")
    | some d => .ofJson (.object
        [("id", .string d.id), ("title", .string d.title), ("path", .string d.path),
          ("body", .string d.body), ("generation", .ofNat server.live.current.generation.toNat)])

def configJson (config : Config Float) : Json :=
  .object
    [("tokenizer", .object
        [("min_token_len", .ofNat config.tokenizer.minTermLength.toNat),
          ("fold_diacritics", .bool config.tokenizer.foldsDiacritics)]),
      ("scoring", .object
        [("k1", .ofFloat config.weights.saturation), ("b", .ofFloat config.weights.lengthNorm),
          ("title_weight", .ofFloat config.weights.titleWeight)]),
      ("snippet_chars", .ofNat config.snippetLength.toNat),
      ("default_limit", .ofNat config.defaultLimit.toNat), ("max_limit", .ofNat config.maxLimit.toNat)]

def statsJson (snapshot : Snapshot Float) : Json :=
  .object
    ([("documents", .ofNat snapshot.store.size), ("terms", .ofNat snapshot.index.termCount),
      ("tokens", .ofNat snapshot.index.totalLength.toNat),
      ("avgDocLen", .ofFloat snapshot.index.meanLength), ("builtAt", .ofNat snapshot.builtAt.toNat),
      ("generation", .ofNat snapshot.generation.toNat)] ++
      (snapshot.fingerprint.map fun f => ("fingerprint", .string (hexText 16 f.toNat))).toList)

def info (server : Server) (moment : Moment) : ToolResult :=
  let snapshot := server.live.current
  .ofJson (.object
    [("corpus", .string moment.view.description), ("snapshot", statsJson snapshot),
      ("ageSeconds", .ofNat (moment.now.toNat - snapshot.builtAt.toNat)),
      ("reloading", .bool server.isReloading), ("uptimeSeconds", .ofNat moment.uptime),
      ("config", configJson snapshot.config),
      ("cache", Cache.json moment.tree server.cacheDirectory moment.now moment.reports)])

def reloadResult (elapsed : Float) : Except ReloadError ReloadOutcome → ToolResult
  | .error e => .failure e.message
  | .ok outcome => .ofJson (.object
      [("status", .string "ok"), ("generation", .ofNat outcome.generation.toNat),
        ("documents", .ofNat outcome.documents), ("terms", .ofNat outcome.terms),
        ("rebuildTimeMs", .ofFloat (twoDigits elapsed))])

def callTool (server : Server) (moment : Moment) (name : String) (arguments : Json) : After ToolResult :=
  let unchanged (result : ToolResult) : After ToolResult := ⟨server, moment.tree, result⟩
  let after :=
    match name with
    | "handbook_search" => unchanged (server.search moment arguments)
    | "handbook_get" => unchanged (server.get arguments)
    | "handbook_info" => unchanged (server.info moment)
    | "handbook_reload" => (server.reload moment).map (reloadResult moment.elapsed)
    | "handbook_help" => unchanged (.ofJson Guide.json)
    | _ => unchanged (.failure ("Unknown tool: " ++ name))
  after.map (ToolResult.truncate server.maxResponseBytes)

/-! ### Requests -/

def toolResultJson (result : ToolResult) : Json :=
  .object
    ([("content", .array (result.content.map fun text =>
        .object [("type", .string "text"), ("text", .string text)]))] ++
      if result.isError then [("isError", .bool true)] else [])

def greeting : Json :=
  .object
    [("protocolVersion", .string "2025-03-26"),
      ("capabilities", .object [("tools", .object [("listChanged", .bool false)])]),
      ("serverInfo", .object [("name", .string "handbook-search"), ("version", .string "0.1.0")]),
      ("instructions", .string Guide.instructions)]

def respond (id result : Json) : Json :=
  .object [("jsonrpc", .string "2.0"), ("id", id), ("result", result)]

def unknownMethod (id : Json) (method : String) : Json :=
  .object
    [("jsonrpc", .string "2.0"), ("id", id),
      ("error", .object
        [("code", .ofInt (-32601)), ("message", .string ("Method not found: " ++ method))])]

/-- The answer to a line that is no request. -/
def parseError (fault : String) : Json :=
  .fields
    [("jsonrpc", .string "2.0"), ("id", .null),
      ("error", .fields [("code", .ofInt (-32700)), ("message", .string ("Parse error" ++ fault))])]

def answerCall (server : Server) (moment : Moment) : (params : Option Json) → After ToolResult
  | none => ⟨server, moment.tree, .failure "Missing params"⟩
  | some params =>
    server.callTool moment (((params.get? "name").bind Json.text?).getD "")
      ((params.get? "arguments").getD (.object []))

def answer (server : Server) (moment : Moment) (id : Json) (method : String) (params : Option Json) :
    After Json :=
  let unchanged (reply : Json) : After Json := ⟨server, moment.tree, reply⟩
  match method with
  | "initialize" => unchanged (respond id greeting)
  | "tools/list" => unchanged (respond id (.object [("tools", .array (Tools.all.map Tools.Tool.json))]))
  | "tools/call" => (server.answerCall moment params).map fun result => respond id (toolResultJson result)
  | "ping" => unchanged (respond id (.object []))
  | _ => unchanged (unknownMethod id method)

/-- The tool that a line calls and its arguments, behind the id of the request. A request without an id
calls nothing. -/
def toolCall? (line : List Char) : Option (Json × String × Json) := do
  let request ← Request.read? (trim line)
  let id ← request.id
  let params ← request.params
  if request.method = "tools/call" then
    some (id, ((params.get? "name").bind Json.text?).getD "", (params.get? "arguments").getD (.object []))
  else none

/-- The answer to a line tells of the files of the cache. -/
def readsCache (line : List Char) : Bool :=
  match toolCall? line with
  | some (_, "handbook_info", _) => true
  | _ => false

/-- Handles a line: an empty one and a request without an id get no answer. -/
def handleLine (server : Server) (moment : Moment) (line : List Char) : After (Option String) :=
  let line := trim line
  if line.isEmpty then ⟨server, moment.tree, none⟩
  else
    match Request.read? line with
    | none => ⟨server, moment.tree, some (parseError (server.faultOf line)).render⟩
    | some request =>
      match request.id with
      | none => ⟨server, moment.tree, none⟩
      | some id => (server.answer moment id request.method request.params).map fun reply => some reply.render

/-- Handles lines one after the other. Before the first one, `tree` is all files. -/
def serve (server : Server) (tree : FileTree) : List Input → After (List String)
  | [] => ⟨server, tree, []⟩
  | input :: inputs =>
    let after := server.handleLine input.moment input.line
    (serve after.server after.tree inputs).map fun replies => after.result.toList ++ replies

end Server

end Concordance
