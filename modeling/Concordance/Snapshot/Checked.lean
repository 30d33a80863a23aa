import Concordance.Snapshot
import Concordance.Snippet.Measured

/-!
# Searches that look before each step

A search cuts texts at numbers of bytes, takes the first of some lists, counts on from positions of 32 bits
and measures windows. Not every such step can be taken: a cut can go through a character, there can be no
list, no position comes behind the last one. Here a cut is made and a window is measured only where that can
be done, and a phrase is searched for only if it has a first list and the search does not go beyond the last
position. A step that cannot be taken ends the search and is told of.
-/

namespace Concordance

open Text

/-- A step that cannot be taken. -/
inductive Misstep where
  /-- To cut the text at these numbers of bytes. -/
  | cut (start stop : Nat)
  /-- To take the first list of postings. -/
  | first
  /-- To count on from this position. -/
  | next (position : UInt32)
  /-- To measure or to show this window. -/
  | window (w : Snippet.Window)
deriving DecidableEq, Repr

/-! ### Texts -/

/-- How many characters the first `bytes` bytes of a text hold, if they end with a character. -/
def charsWithin? : (cs : List Char) → (bytes : Nat) → Option Nat
  | _, 0 => some 0
  | [], _ + 1 => none
  | c :: rest, bytes + 1 =>
    if c.utf8Size ≤ bytes + 1 then (charsWithin? rest (bytes + 1 - c.utf8Size)).map (· + 1) else none

/-- The characters between two numbers of bytes. -/
def cutBytes (text : List Char) (start stop : Nat) : Except Misstep (List Char) :=
  match charsWithin? text start, charsWithin? text stop with
  | some i, some j =>
    if start ≤ stop then .ok (slice text ⟨start, i⟩ ⟨stop, j⟩) else .error (.cut start stop)
  | _, _ => .error (.cut start stop)

namespace TokenizerConfig

variable [CharacterTable] (config : TokenizerConfig)

def checkedTermsOfRun (text : List Char) (run : Run) : Except Misstep (List (List Char × Run)) :=
  let run := run.trimmed
  if run.chars.isEmpty then .ok []
  else do
    let word ← cutBytes text run.start.byte run.stop.byte
    return (config.termsOfWord word).map fun term => (term, run)

def checkedSpans (text : String) : Except Misstep (List Span) := do
  let placed ← (runsFrom .start text.toList).mapM (config.checkedTermsOfRun text.toList)
  return placed.flatten.zipIdx.map fun ((term, run), position) =>
    ⟨String.ofList term, UInt32.ofNat position, run.start, run.stop⟩

def checkedTerms (text : String) : Except Misstep (List String) := do
  return (← config.checkedSpans text).map Span.term

end TokenizerConfig

/-! ### Queries -/

section Queries

variable [CharacterTable] (config : TokenizerConfig)

namespace Plan

def checkedWord (plan : Plan) (word : List Char) : Except Misstep Plan :=
  if word = "AND".toList then .ok { plan with mode := .all }
  else if word = "OR".toList then .ok plan
  else do
    return { plan with terms := (← config.checkedTerms (String.ofList word)).foldl addNew plan.terms }

def checkedQuoted (plan : Plan) (text : List Char) : Except Misstep Plan := do
  match Clause.ofTerms? (← config.checkedTerms (String.ofList text)) with
  | some (.term t) => return { plan with quoted := addNew plan.quoted t, terms := addNew plan.terms t }
  | some phrase => return { plan with phrases := addNew plan.phrases phrase }
  | none => return plan

def checkedPieces (plan : Plan) (quoted : Bool) : List (List Char) → Except Misstep Plan
  | [] => .ok plan
  | piece :: pieces => do
    let plan ← if quoted then plan.checkedQuoted config piece
      else (words piece).foldlM (checkedWord config) plan
    checkedPieces plan (!quoted) pieces

end Plan

def Query.checkedParse (text : String) (mode : MatchMode) (asPhrase : Bool) :
    Except Misstep (Except QueryError Query) :=
  if asPhrase then do
    let spaced := text.toList.map fun c => if c = '"' then ' ' else c
    return .ok ⟨(Clause.ofTerms? (← config.checkedTerms (String.ofList spaced))).toList, mode⟩
  else if text.toList.count '"' % 2 = 1 then .ok (.error (.unbalancedQuote text))
  else do
    let plan ← Plan.checkedPieces config { mode := mode } false (Text.splitAt '"' text.toList)
    return .ok plan.query

end Queries

/-! ### Phrases -/

/-- The search for a clause takes the first list of postings of a phrase, and it counts on from positions. -/
def Index.checkClause {α : Type} (index : Index α) : Clause → Except Misstep Unit
  | .term _ => .ok ()
  | .phrase ts =>
    if ts.isEmpty then .error .first
    else if (index.phraseHits ts).overflowed then .error (.next lastPosition)
    else .ok ()

/-! ### Snippets -/

variable [CharacterTable]

open Snippet in
def checkedSnippet (config : TokenizerConfig) (text : String) (terms : List String) (width : Nat) :
    Except Misstep String := do
  if width = 0 then return ""
  else
    let spans := (← config.checkedSpans text).toArray
    if spans.isEmpty then return ""
    else
      match ← (measuredWindow? spans width terms).mapError .window with
      | none => return ""
      | some w =>
        match spans[w.first]?, spans[w.last]? with
        | some a, some b =>
          return String.ofList (joinWith [' '] (words (← cutBytes text.toList a.start.byte b.stop.byte)))
        | _, _ => throw (.window w)

/-! ### Searches -/

namespace Snapshot

variable {α : Type} [Scalar α] (snapshot : Snapshot α)

def checkedSearch (text : String) (options : SearchOptions) :
    Except Misstep (Except QueryError (SearchOutcome α)) :=
  if options.limit = 0 then .ok (.error (.invalidLimit 0))
  else do
    match ← Query.checkedParse snapshot.config.tokenizer text options.mode options.asPhrase with
    | .error e => return .error e
    | .ok query =>
      query.clauses.forM snapshot.index.checkClause
      let results := snapshot.ranking query
      return .ok ⟨results.take options.limit, results.length, query, false⟩

omit [Scalar α] in
def checkedShow? (width : Nat) (result : Ranked α) : Except Misstep (Option (Shown α)) :=
  match snapshot.store.document? result.document with
  | none => .ok none
  | some d => do
    let shown ← checkedSnippet snapshot.config.tokenizer d.body result.terms width
    return some ⟨d.id, d.title, d.path, shown, result.score⟩

def checkedPresent (outcome : SearchOutcome α) : Except Misstep (List (Shown α)) := do
  return (← outcome.results.mapM
    (snapshot.checkedShow? snapshot.config.snippetLength.toNat)).filterMap id

end Snapshot

end Concordance
