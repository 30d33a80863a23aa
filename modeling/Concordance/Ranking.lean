import Concordance.Index.Basic
import Concordance.Query
import Concordance.Ranking.Phrase
import Concordance.Ranking.Score

/-!
# Ranking

A query is answered from an index in three steps: each clause gives the documents that it hits with a
frequency (`hits`), every document gathers what its clauses add (`tally`), and the documents that match
are put in order of their scores, the greatest first, and of their ids where scores are equal.
-/

namespace Concordance

structure Tally (α : Type) where
  /-- The sum of what the clauses add. -/
  sum : α
  /-- The number of clauses that hit. -/
  matched : Nat
  /-- The terms of the clauses that hit, each once. -/
  terms : List String

structure Ranked (α : Type) where
  document : DocId
  id : String
  score : α
  sum : α
  matched : Nat
  /-- The number of clauses of the query. -/
  total : Nat
  terms : List String

variable {α : Type} [Scalar α]

/-- A tally with what a clause adds. -/
def Tally.add (amount : α) (terms : List String) (old : Option (Tally α)) : Tally α :=
  let ⟨sum, matched, seen⟩ := old.getD ⟨Scalar.ofNat 0, 0, []⟩
  ⟨sum + amount, matched + 1, terms.foldl addNew seen⟩

namespace Ranking

def hits (index : Index α) (weights : Weights α) : Clause → List (DocId × α)
  | .term t =>
    (index.postings t).map fun p =>
      (p.document, weightedFrequency weights p.frequency.toNat p.titleFrequency.toNat)
  | .phrase ts => (index.phraseHits ts).value.map fun (n, count) => (n, number count.toNat)

omit [Scalar α] in
/-- The search for some phrase of a query went beyond the last position. -/
def overflows (index : Index α) (query : Query) : Bool :=
  query.clauses.any fun
    | .term _ => false
    | .phrase ts => (index.phraseHits ts).overflowed

/-- Changes the tally of a document in a list in ascending order, or puts one where it belongs. -/
def alterTally (n : DocId) (change : Option (Tally α) → Tally α) :
    List (DocId × Tally α) → List (DocId × Tally α)
  | [] => [(n, change none)]
  | (m, t) :: rest =>
    if n < m then (n, change none) :: (m, t) :: rest
    else if n = m then (n, change (some t)) :: rest
    else (m, t) :: alterTally n change rest

def tallyClause (index : Index α) (weights : Weights α) (tallies : List (DocId × Tally α))
    (clause : Clause) : List (DocId × Tally α) :=
  let found := hits index weights clause
  let idf := idf index.documentCount.toNat found.length
  found.foldl
    (fun tallies (n, frequency) =>
      let amount := contribution weights idf frequency (index.lengthOf n).toNat index.meanLength
      alterTally n (Tally.add amount clause.terms) tallies)
    tallies

/-- The tallies of all documents that some clause hits, in the order of their numbers. -/
def tally (index : Index α) (weights : Weights α) (query : Query) : List (DocId × Tally α) :=
  query.clauses.foldl (tallyClause index weights) []

/-- A document with this tally answers the query. -/
def answers (query : Query) (t : Tally α) : Bool :=
  query.mode = .any || t.matched = query.clauses.length

def ranked? (store : Store) (query : Query) : DocId × Tally α → Option (Ranked α)
  | (n, t) =>
    (store.document? n).map fun d =>
      ⟨n, d.id, score t.matched t.sum, t.sum, t.matched, query.clauses.length, t.terms⟩

def precedes (a b : Ranked α) : Bool :=
  match Scalar.order a.score b.score with
  | .gt => true
  | .lt => false
  | .eq => a.document ≤ b.document

/-- The documents that answer a query, in order. -/
def rank (index : Index α) (weights : Weights α) (store : Store) (query : Query) :
    List (Ranked α) :=
  (((tally index weights query).filter fun (_, t) => answers query t).filterMap
    (ranked? store query)).mergeSort precedes

end Ranking

end Concordance
