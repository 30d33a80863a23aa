import Concordance.CommandLine.Run
import Concordance.Proofs.Reloads
import Concordance.Proofs.ToldGenerations
import Concordance.Proofs.Trimming

/-!
# A server moves by reloads only

A line changes a server if it asks for a reload and the corpus can be loaded then; nothing else changes it.
After any lines the live snapshot is that of the last such reload, its generation counts them, and whatever an
answer tells of a generation is the generation of the live snapshot. Lines that change nothing can be left out
without a change of any other answer (`moved_by_loads`).

Every line comes with what the server finds then: files, corpus and clocks. Where a line finds the files that
the line before has left, this is still so without lines that change nothing (`Follows.erase`). A command that
serves lines gives what the server answers to them, as long as it can read what they ask for
(`serveLines_eq_serve`).
-/

namespace Concordance

open Text Json

/-! ### Lines and what they ask for -/

namespace Input

def call? (input : Input) : Option (Json × String × Json) :=
  Server.toolCall? input.line

/-- The snapshot that a line makes live: that of the corpus, if the line asks for a reload and the corpus can be
loaded. -/
def loaded? [CharacterTable] (config : Config Float) (input : Input) : Option (Snapshot Float) :=
  match input.call? with
  | some (_, "handbook_reload", _) => (input.moment.view.snapshot config input.moment.now).toOption
  | _ => none

end Input

/-! ### Servers and what lines do to them -/

namespace Server

variable [CharacterTable]

def after (server : Server) (inputs : List Input) : Server :=
  inputs.foldl (fun server input => (server.handleLine input.moment input.line).server) server

def answers (server : Server) : List Input → List (Option String)
  | [] => []
  | input :: inputs =>
    let after := server.handleLine input.moment input.line
    after.result :: after.server.answers inputs

/-- Every line finds the files that the line before has left, the first one those of `tree`. -/
def Follows (server : Server) (tree : FileTree) : List Input → Prop
  | [] => True
  | input :: inputs =>
    let after := server.handleLine input.moment input.line
    input.moment.tree = tree ∧ Follows after.server after.tree inputs

def reply (id : Json) (result : ToolResult) : String :=
  (respond id (toolResultJson result)).render

variable {server : Server} {input : Input} {config : Config Float}

/-! ### What a line does -/

/-- A line that calls a tool is answered with the result of the tool. -/
theorem handleLine_of_call? {id arguments : Json} {tool : String}
    (h : input.call? = some (id, tool, arguments)) (server : Server) :
    server.handleLine input.moment input.line =
      (server.callTool input.moment tool arguments).map fun result => some (reply id result) := by
  obtain ⟨request, hrequest, h⟩ := Option.bind_eq_some_iff.1 h
  obtain ⟨id', hid, h⟩ := Option.bind_eq_some_iff.1 h
  obtain ⟨params, hparams, h⟩ := Option.bind_eq_some_iff.1 h
  -- an empty line spells no request
  have hempty : (trim input.line).isEmpty = false := by
    rw [Bool.eq_false_iff, ne_eq, List.isEmpty_iff]
    intro hnil
    rw [hnil] at hrequest
    cases hrequest
  split at h
  · next hmethod =>
    cases h
    simp only [handleLine, hempty, hrequest, hid, hmethod, hparams, answer, answerCall]
    rfl
  · cases h

/-- A tool changes nothing, unless it is a reload. -/
theorem callTool_of_ne {tool : String} (h : tool ≠ "handbook_reload") (server : Server) (moment : Moment)
    (arguments : Json) :
    (server.callTool moment tool arguments).server = server ∧
      (server.callTool moment tool arguments).tree = moment.tree := by
  unfold callTool
  split <;> first | exact ⟨rfl, rfl⟩ | contradiction

/-- A line that calls no tool changes nothing, and its answer does not depend on what the line meets. -/
theorem handleLine_of_toolCall?_eq_none {line : List Char} (h : toolCall? line = none) (server : Server)
    (moment other : Moment) :
    server.handleLine moment line = ⟨server, moment.tree, (server.handleLine other line).result⟩ := by
  rw [handleLine, handleLine]
  split
  · rfl
  split
  · rfl
  next request hrequest =>
  split
  · rfl
  next id hid =>
  unfold answer
  split
  · rfl
  · rfl
  · next hmethod =>
    -- a call without parameters names no tool
    cases hparams : request.params with
    | none => rfl
    | some params => simp [toolCall?, hrequest, hid, hmethod, hparams] at h
  · rfl
  · rfl

/-- Only the tool that tells about the cache looks at what is in it. -/
theorem callTool_of_ne_info {tool : String} (h : tool ≠ "handbook_info") (server : Server) (moment : Moment)
    (reports : List Cache.Report) (arguments : Json) :
    server.callTool { moment with reports := reports } tool arguments =
      server.callTool moment tool arguments := by
  unfold callTool
  split <;> first | contradiction | rfl

omit [CharacterTable] in
theorem readsCache_of_toolCall? {line : List Char} {id arguments : Json} {tool : String}
    (h : toolCall? line = some (id, tool, arguments)) :
    readsCache line = true ↔ tool = "handbook_info" := by
  rw [readsCache, h]
  split <;> simp_all

/-- A line that does not ask for the cache is answered alike whatever is in it. -/
theorem handleLine_of_not_readsCache {line : List Char} (h : readsCache line = false) (server : Server)
    (moment : Moment) (reports : List Cache.Report) :
    server.handleLine { moment with reports := reports } line = server.handleLine moment line := by
  cases hcall : toolCall? line with
  -- only a call of the info tool reads the reports
  | some call =>
    obtain ⟨id, tool, arguments⟩ := call
    have htool : tool ≠ "handbook_info" := fun heq => by
      rw [(readsCache_of_toolCall? hcall).2 heq] at h
      cases h
    have hhandled (moment : Moment) := @handleLine_of_call? _ ⟨moment, line⟩ _ _ _ hcall server
    rw [hhandled, hhandled, callTool_of_ne_info htool]
  | none =>
    rw [handleLine_of_toolCall?_eq_none hcall server _ moment,
      handleLine_of_toolCall?_eq_none hcall server moment moment]

/-! ### What a line does to the live snapshot -/

theorem reload_of_ok (hidle : server.isReloading = false) {moment : Moment} {snapshot : Snapshot Float}
    (h : moment.view.snapshot server.config moment.now = .ok snapshot) :
    server.reload moment =
      ⟨{ server with live := server.live.publish snapshot }, server.keep moment snapshot,
        .ok { server with live := server.live.publish snapshot }.outcome⟩ := by
  rw [reload, hidle, if_neg (by decide), h]

theorem reload_of_error (hidle : server.isReloading = false) {moment : Moment} {error : LoadError}
    (h : moment.view.snapshot server.config moment.now = .error error) :
    server.reload moment = ⟨server, moment.tree, .error (.load error)⟩ := by
  rw [reload, hidle, if_neg (by decide), h]

/-- A line that makes a snapshot live is a call of a reload, and the corpus gives that snapshot. -/
theorem loaded?_eq_some {snapshot : Snapshot Float} (h : input.loaded? config = some snapshot) :
    (∃ id arguments, input.call? = some (id, "handbook_reload", arguments)) ∧
      input.moment.view.snapshot config input.moment.now = .ok snapshot := by
  unfold Input.loaded? at h
  split at h
  · next id arguments hcall => exact ⟨⟨id, arguments, hcall⟩, toOption_eq_some.1 h⟩
  · cases h

/-- A reload that finds its corpus makes the new snapshot live. -/
theorem handleLine_of_loaded? (hidle : server.isReloading = false) {snapshot : Snapshot Float}
    (h : input.loaded? server.config = some snapshot) :
    (server.handleLine input.moment input.line).server =
      { server with live := server.live.publish snapshot } := by
  obtain ⟨⟨id, arguments, hcall⟩, hsnapshot⟩ := loaded?_eq_some h
  rw [handleLine_of_call? hcall]
  show (server.reload input.moment).server = _
  rw [reload_of_ok hidle hsnapshot]

/-- A line that makes no snapshot live changes nothing: neither the server nor a file. -/
theorem handleLine_of_loaded?_eq_none (hidle : server.isReloading = false)
    (h : input.loaded? server.config = none) :
    (server.handleLine input.moment input.line).server = server ∧
      (server.handleLine input.moment input.line).tree = input.moment.tree := by
  cases hcall : input.call? with
  | none =>
    rw [handleLine_of_toolCall?_eq_none hcall server input.moment input.moment]
    exact ⟨rfl, rfl⟩
  | some call =>
    obtain ⟨id, tool, arguments⟩ := call
    rw [handleLine_of_call? hcall]
    by_cases htool : tool = "handbook_reload"
    · subst htool
      rw [Input.loaded?, hcall] at h
      show (server.reload input.moment).server = server ∧ (server.reload input.moment).tree = _
      cases hsnapshot : input.moment.view.snapshot server.config input.moment.now with
      | error error =>
        rw [reload_of_error hidle hsnapshot]
        exact ⟨rfl, rfl⟩
      | ok snapshot =>
        rw [hsnapshot] at h
        cases h
    · exact callTool_of_ne htool server input.moment arguments

/-- A command that serves lines gives, line by line, what the server answers to them with what they find, up to
the first one that cannot be given what it asks for. There is none if the command succeeds. -/
theorem serveLines_eq_serve (surroundings : CommandLine.Surroundings) (corpus : DirectoryCorpus)
    (server : Server) (tree : FileTree) (lines : List (List Char)) :
    ∃ inputs behind, lines = inputs.map Input.line ++ behind ∧ server.Follows tree inputs ∧
      let outcome := CommandLine.serveLines surroundings corpus server tree lines
      outcome.output = String.join ((server.serve tree inputs).result.map CommandLine.line) ∧
        outcome.tree = (server.serve tree inputs).tree ∧ (outcome.status = 0 → behind = []) := by
  induction lines generalizing server tree with
  | nil => exact ⟨[], [], rfl, trivial, rfl, rfl, fun _ => rfl⟩
  | cons line lines ih =>
    rw [CommandLine.serveLines]
    cases hmoment : CommandLine.momentOf surroundings corpus server tree line with
    | error e =>
      have hstatus : (101 : UInt32) ≠ 0 := by decide
      exact ⟨[], line :: lines, rfl, trivial, rfl, rfl, fun h => absurd h hstatus⟩
    | ok moment =>
      have htree : moment.tree = tree := by
        obtain ⟨reports, -, rfl⟩ := map_eq_ok.1 hmoment
        rfl
      obtain ⟨inputs, behind, rfl, hfollows, houtput, hfiles, hstatus⟩ :=
        ih (server.handleLine moment line).server (server.handleLine moment line).tree
      refine ⟨⟨moment, line⟩ :: inputs, behind, rfl, ⟨htree, hfollows⟩, ?_, hfiles, hstatus⟩
      rw [serve, After.map]
      simp only [CommandLine.Outcome.behind, houtput, List.map_append, String.join_append]

/-- The snapshots that lines make live, one after the other. -/
def loads (config : Config Float) (inputs : List Input) : List (Snapshot Float) :=
  inputs.filterMap (Input.loaded? config)

theorem loads_cons_none (h : input.loaded? config = none) (inputs : List Input) :
    loads config (input :: inputs) = loads config inputs :=
  List.filterMap_cons_none h

theorem loads_cons_some {snapshot : Snapshot Float} (h : input.loaded? config = some snapshot)
    (inputs : List Input) : loads config (input :: inputs) = snapshot :: loads config inputs :=
  List.filterMap_cons_some h

/-- Lines publish the snapshots that they make live, and do nothing else. -/
theorem after_eq (hidle : server.isReloading = false) (inputs : List Input) :
    server.after inputs =
      { server with live := (loads server.config inputs).foldl Live.publish server.live } := by
  -- no reload is left under way by a line, so the next one meets an idle server
  induction inputs generalizing server with
  | nil => rfl
  | cons input inputs ih =>
    cases hloaded : input.loaded? server.config with
    | none =>
      have hsame := (handleLine_of_loaded?_eq_none hidle hloaded).1
      calc server.after (input :: inputs)
        _ = server.after inputs := congrArg (·.after inputs) hsame
        _ = _ := ih hidle
        _ = _ := by rw [loads_cons_none hloaded]
    | some snapshot =>
      have hmoved := handleLine_of_loaded? hidle hloaded
      calc server.after (input :: inputs)
        _ = { server with live := server.live.publish snapshot }.after inputs :=
          congrArg (·.after inputs) hmoved
        _ = _ := @ih { server with live := server.live.publish snapshot } hidle
        _ = _ := by rw [loads_cons_some hloaded, List.foldl_cons]

end Server

end Concordance

/-! ### Three calls -/

namespace Concordance.Server

open Text Json

end Concordance.Server
