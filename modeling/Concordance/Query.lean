import Concordance.Tokenizer

/-!
# Queries

The text of a query is planned into clauses: a term, or a phrase of at least two terms. Text between
quotation marks is a phrase; outside of them every term is a clause, a bare `AND` asks for all clauses
and a bare `OR` is passed over. Stop words are dropped unless they were quoted or nothing else is asked
for. Terms come first, in the order in which they first appear, and then the phrases; no clause comes
twice.
-/

namespace Concordance

open Text

/-- Which documents match: those with any clause or those with all of them. -/
inductive MatchMode where
  | any
  | all
deriving DecidableEq, Repr, Inhabited

def MatchMode.name : MatchMode → String
  | .any => "any"
  | .all => "all"

def MatchMode.ofName? (name : String) : Option MatchMode :=
  match String.ofList (asciiLower name.toList) with
  | "any" | "or" => some .any
  | "all" | "and" => some .all
  | _ => none

/-- What a document can match. -/
inductive Clause where
  | term (term : String)
  | phrase (terms : List String)
deriving DecidableEq, Repr

def Clause.terms : Clause → List String
  | .term t => [t]
  | .phrase ts => ts

/-- A clause as the text of a query. -/
def Clause.label : Clause → String
  | .term t => t
  | .phrase ts => "\"" ++ " ".intercalate ts ++ "\""

structure Query where
  clauses : List Clause
  mode : MatchMode
deriving DecidableEq, Repr

namespace Query

def isEmpty (query : Query) : Bool :=
  query.clauses.isEmpty

def distinctTerms (query : Query) : List String :=
  (query.clauses.flatMap Clause.terms).foldl (fun seen t => if seen.contains t then seen else seen ++ [t]) []

end Query

/-- Why a search was refused. -/
inductive QueryError where
  /-- The limit is not a positive number. -/
  | invalidLimit (limit : Int)
  /-- A quotation mark was opened and not closed. -/
  | unbalancedQuote (query : String)
deriving DecidableEq, Repr

def QueryError.message : QueryError → String
  | .invalidLimit limit => "Invalid limit " ++ toString limit ++ ": must be a positive integer"
  | .unbalancedQuote query =>
    "Unbalanced quote in query '" ++ query ++ "': phrases must be closed with '\"'"

/-- The clause for terms that stand together: none for no term, and no phrase of a single one. -/
def Clause.ofTerms? : List String → Option Clause
  | [] => none
  | [t] => some (.term t)
  | ts => some (.phrase ts)

/-- `items` with `item` at the end, unless it is among them. -/
def addNew {α : Type} [BEq α] (items : List α) (item : α) : List α :=
  if items.contains item then items else items ++ [item]

structure Plan where
  mode : MatchMode
  terms : List String := []
  /-- Single terms that were quoted. -/
  quoted : List String := []
  phrases : List Clause := []

namespace Plan

variable [CharacterTable] (config : TokenizerConfig)

def readWord (plan : Plan) (word : List Char) : Plan :=
  if word = "AND".toList then { plan with mode := .all }
  else if word = "OR".toList then plan
  else { plan with terms := (config.terms (String.ofList word)).foldl addNew plan.terms }

def readQuoted (plan : Plan) (text : List Char) : Plan :=
  match Clause.ofTerms? (config.terms (String.ofList text)) with
  | some (.term t) => { plan with quoted := addNew plan.quoted t, terms := addNew plan.terms t }
  | some phrase => { plan with phrases := addNew plan.phrases phrase }
  | none => plan

/-- Reads the pieces between quotation marks; `quoted` says that the first one lies inside. -/
def readPieces (plan : Plan) (quoted : Bool) : List (List Char) → Plan
  | [] => plan
  | piece :: pieces =>
    let plan := if quoted then plan.readQuoted config piece else (words piece).foldl (readWord config) plan
    readPieces plan (!quoted) pieces

/-- Something other than stop words is asked for. -/
def hasContent (plan : Plan) : Bool :=
  !plan.phrases.isEmpty || !plan.quoted.isEmpty || plan.terms.any fun t => !isStopWord t

/-- The terms that become clauses. -/
def keptTerms (plan : Plan) : List String :=
  if plan.hasContent then plan.terms.filter fun t => plan.quoted.contains t || !isStopWord t
  else plan.terms

def query (plan : Plan) : Query :=
  ⟨plan.keptTerms.map .term ++ plan.phrases, plan.mode⟩

end Plan

namespace Query

variable [CharacterTable] (config : TokenizerConfig)

/-- The whole text as one phrase; quotation marks count as spaces. -/
def ofPhrase (mode : MatchMode) (text : String) : Query :=
  let spaced := text.toList.map fun c => if c = '"' then ' ' else c
  ⟨(Clause.ofTerms? (config.terms (String.ofList spaced))).toList, mode⟩

def parse (text : String) (mode : MatchMode) (asPhrase : Bool) : Except QueryError Query :=
  if asPhrase then .ok (ofPhrase config mode text)
  else if text.toList.count '"' % 2 = 1 then .error (.unbalancedQuote text)
  else .ok (Plan.query (Plan.readPieces config { mode := mode } false (Text.splitAt '"' text.toList)))

end Query

end Concordance
