import Concordance.Index.Verify
import Concordance.Snippet

/-!
# Snapshots

A snapshot is a store with its index and the configuration that it answers queries with. It does not
change. A `Live` snapshot is the one that queries go to; a new one takes its place when the documents
have changed, and generations count how often that has happened.
-/

namespace Concordance

structure Snapshot (α : Type) where
  store : Store
  index : Index α
  config : Config α
  /-- When the index was built, in seconds. -/
  builtAt : UInt64
  /-- What the documents were read from, if that is known. -/
  fingerprint : Option UInt64
  generation : UInt64

structure SearchOptions where
  limit : Nat := 10
  mode : MatchMode := .any
  asPhrase : Bool := false

structure SearchOutcome (α : Type) where
  results : List (Ranked α)
  /-- How many documents answer the query. -/
  totalHits : Nat
  query : Query
  /-- The search went beyond the last position, so results may be wrong. -/
  overflowed : Bool

structure Shown (α : Type) where
  id : String
  title : String
  path : String
  snippet : String
  score : α

namespace Snapshot

variable {α : Type}

/-- A snapshot of documents and an index that belongs to them, after checking the index. -/
def ofParts (store : Store) (index : Index α) (config : Config α) (builtAt : UInt64)
    (fingerprint : Option UInt64) : Except IndexFault (Snapshot α) :=
  match index.fault? with
  | some fault => .error fault
  | none =>
    if index.documentCount.toNat ≠ store.size then
      .error (.lengthMismatch store.size index.documentCount.toNat)
    else .ok ⟨store, index, config, builtAt, fingerprint, 0⟩

variable [Text.CharacterTable] [Scalar α]

def build (store : Store) (config : Config α) (builtAt : UInt64) (fingerprint : Option UInt64) :
    Snapshot α :=
  ⟨store, Index.build store config.tokenizer, config, builtAt, fingerprint, 0⟩

def ranking (snapshot : Snapshot α) (query : Query) : List (Ranked α) :=
  if query.isEmpty then []
  else Ranking.rank snapshot.index snapshot.config.weights snapshot.store query

/-- Plans and answers a query. The limit is looked at first. -/
def search (snapshot : Snapshot α) (text : String) (options : SearchOptions) :
    Except QueryError (SearchOutcome α) :=
  if options.limit = 0 then .error (.invalidLimit 0)
  else
    (Query.parse snapshot.config.tokenizer text options.mode options.asPhrase).map fun query =>
      let results := snapshot.ranking query
      ⟨results.take options.limit, results.length, query, Ranking.overflows snapshot.index query⟩

def show? (snapshot : Snapshot α) (width : Nat) (result : Ranked α) : Option (Shown α) :=
  (snapshot.store.document? result.document).map fun d =>
    ⟨d.id, d.title, d.path, snippet snapshot.config.tokenizer d.body result.terms width, result.score⟩

def present (snapshot : Snapshot α) (outcome : SearchOutcome α) : List (Shown α) :=
  outcome.results.filterMap (snapshot.show? snapshot.config.snippetLength.toNat)

end Snapshot

/-- The snapshot that queries go to. -/
structure Live (α : Type) where
  current : Snapshot α
  generation : UInt64

namespace Live

variable {α : Type}

def start (snapshot : Snapshot α) : Live α :=
  ⟨{ snapshot with generation := 1 }, 1⟩

def publish (live : Live α) (snapshot : Snapshot α) : Live α :=
  let generation := live.generation + 1
  ⟨{ snapshot with generation := generation }, generation⟩

end Live

end Concordance
