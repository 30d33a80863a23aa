import Concordance.Proofs.Outcomes
import Concordance.Proofs.Stores
import Concordance.Proofs.Tallies
import Concordance.Snapshot
import Concordance.Unicode.Database
import Mathlib

/-!
# The order of a ranking

A ranking is strictly ordered, whatever index it is made from: no document comes twice, the greater score
comes first, and of equal scores the smaller id. Results are compared by the numbers of their documents;
that these are in the order of the ids is an invariant of the store. A limit cuts a ranking off and changes
nothing before the cut (`ranking_strictly_ordered`).
-/

namespace Concordance

/-! ### The order of floating-point numbers -/

/-- All that is not a number is the same. -/
theorem eq_of_isNaN {x y : Float} (hx : x.isNaN = true) (hy : y.isNaN = true) : x = y := by
  rw [Float.isNaN_eq_decide_eq_nan, decide_eq_true_eq] at hx hy
  rw [hx, hy]

/-- No two numbers have one place. -/
theorem floatRank_injective : Function.Injective floatRank := by
  intro x y h
  have hx := x.toBits.toNat_lt
  have hy := y.toBits.toNat_lt
  by_cases hnan : x.isNaN = true
  · by_cases hnan' : y.isNaN = true
    · exact eq_of_isNaN hnan hnan'
    · rw [floatRank, floatRank, if_pos hnan, if_neg hnan'] at h
      dsimp only at h
      split at h
      · omega
      · omega
  · by_cases hnan' : y.isNaN = true
    · rw [floatRank, floatRank, if_neg hnan, if_pos hnan'] at h
      dsimp only at h
      split at h
      · omega
      · omega
    · -- the ranks below and above zero are disjoint, and each determines the bits
      have hbits : x.toBits.toNat = y.toBits.toNat := by
        rw [floatRank, floatRank, if_neg hnan, if_neg hnan'] at h
        dsimp only at h
        split at h
        · split at h
          · omega
          · omega
        · split at h
          · omega
          · omega
      exact Float.toBits_inj.1 (UInt64.toNat_inj.1 hbits)

instance : Std.TransCmp (Scalar.order : Float → Float → Ordering) :=
  inferInstanceAs (Std.TransCmp (compareOn floatRank))

instance : Std.LawfulEqCmp (Scalar.order : Float → Float → Ordering) where
  compare_self {x} := Std.compare_eq_iff_eq.2 (rfl : floatRank x = floatRank x)
  eq_of_compare h := floatRank_injective (Std.compare_eq_iff_eq.1 h)

/-! ### Results before they are put in order -/

namespace Ranking

variable {α : Type} [Scalar α]

/-- Every clause keeps the tallies in order, so they are in order at the end. -/
theorem pairwise_tally (index : Index α) (weights : Weights α) (query : Query) :
    (tally index weights query).Pairwise fun a b => a.1 < b.1 := by
  rw [tally]
  refine List.foldlRecOn query.clauses _ List.Pairwise.nil ?_
  intro tallies htallies clause _
  rw [tallyClause]
  refine List.foldlRecOn _ _ htallies ?_
  intro tallies htallies hit _
  exact pairwise_alterTally hit.1 _ htallies

/-- What is ranked, in the order of the documents. -/
def found (index : Index α) (weights : Weights α) (store : Store) (query : Query) :
    List (Ranked α) :=
  ((tally index weights query).filter fun (_, t) => answers query t).filterMap (ranked? store query)

theorem rank_eq (index : Index α) (weights : Weights α) (store : Store) (query : Query) :
    rank index weights store query = (found index weights store query).mergeSort precedes :=
  rfl

variable {index : Index α} {weights : Weights α} {store : Store} {query : Query}

/-- A result is of a document of the store, with its id. -/
theorem document?_of_ranked? {entry : DocId × Tally α} {r : Ranked α}
    (h : ranked? store query entry = some r) :
    r.document = entry.1 ∧ ∃ d, store.document? r.document = some d ∧ r.id = d.id := by
  obtain ⟨d, hd, rfl⟩ := Option.map_eq_some_iff.1 h
  exact ⟨rfl, d, hd, rfl⟩

theorem document?_of_mem_rank {r : Ranked α} (h : r ∈ rank index weights store query) :
    ∃ d, store.document? r.document = some d ∧ r.id = d.id := by
  rw [rank_eq, List.mem_mergeSort, found, List.mem_filterMap] at h
  obtain ⟨entry, -, hentry⟩ := h
  exact (document?_of_ranked? hentry).2

/-- The ids of a store ascend with the numbers. -/
theorem id_lt_of_document? {m n : DocId} {d e : Document} (h : m < n)
    (hd : store.document? m = some d) (he : store.document? n = some e) : d.id < e.id := by
  obtain ⟨hm, rfl⟩ := List.getElem?_eq_some_iff.1 hd
  obtain ⟨hn, rfl⟩ := List.getElem?_eq_some_iff.1 he
  exact List.pairwise_iff_getElem.1 store.ascending _ _ hm hn (UInt32.lt_iff_toNat_lt.1 h)

/-- Before they are put in order, results come by the numbers of their documents, and so by their ids. -/
theorem pairwise_found : (found index weights store query).Pairwise fun a b =>
    a.document < b.document ∧ a.id < b.id := by
  rw [found, List.pairwise_filterMap]
  refine ((pairwise_tally index weights query).filter _).imp ?_
  intro x y hlt a ha b hb
  obtain ⟨hda, d, hd, hida⟩ := document?_of_ranked? ha
  obtain ⟨hdb, e, he, hidb⟩ := document?_of_ranked? hb
  rw [← hda, ← hdb] at hlt
  refine ⟨hlt, ?_⟩
  rw [hida, hidb]
  exact id_lt_of_document? hlt hd he

theorem nodup_document_rank : ((rank index weights store query).map Ranked.document).Nodup := by
  have hperm := (List.mergeSort_perm (found index weights store query) precedes).map Ranked.document
  rw [rank_eq, hperm.nodup_iff, List.Nodup, List.pairwise_map]
  refine pairwise_found.imp ?_
  rintro a b ⟨hlt, -⟩ heq
  rw [heq] at hlt
  exact UInt32.lt_irrefl _ hlt

theorem nodup_id_rank : ((rank index weights store query).map Ranked.id).Nodup := by
  have hperm := (List.mergeSort_perm (found index weights store query) precedes).map Ranked.id
  rw [rank_eq, hperm.nodup_iff, List.Nodup, List.pairwise_map]
  refine pairwise_found.imp ?_
  rintro a b ⟨-, hlt⟩ heq
  rw [heq] at hlt
  exact String.lt_irrefl _ hlt

/-! ### Results in order -/

/-- Results are compared by their scores, the greatest first, and then by their numbers. -/
def compareRanked : Ranked α → Ranked α → Ordering :=
  compareLex (fun a b => Scalar.order b.score a.score) (compareOn Ranked.document)

/-- `a` has the greater score, or an equal one and the smaller id. -/
def Outranks (a b : Ranked α) : Prop :=
  Scalar.order a.score b.score = .gt ∨ Scalar.order a.score b.score = .eq ∧ a.id < b.id

variable [Std.TransCmp (Scalar.order : α → α → Ordering)]

instance : Std.TransCmp (compareRanked : Ranked α → Ranked α → Ordering) :=
  have : Std.TransCmp fun a b : Ranked α => Scalar.order b.score a.score := {
    eq_swap := Std.OrientedCmp.eq_swap
    isLE_trans := fun hab hbc => Std.TransCmp.isLE_trans hbc hab }
  inferInstanceAs (Std.TransCmp (compareLex _ _))

theorem precedes_eq_isLE (a b : Ranked α) : precedes a b = (compareRanked a b).isLE := by
  have hswap : Scalar.order a.score b.score = (Scalar.order b.score a.score).swap :=
    Std.OrientedCmp.eq_swap
  rw [precedes, compareRanked, compareLex, hswap]
  cases Scalar.order b.score a.score with
  | lt => rfl
  | gt => rfl
  | eq =>
    show decide (a.document ≤ b.document) = (compare a.document b.document).isLE
    rw [Bool.eq_iff_iff, decide_eq_true_eq, Std.isLE_compare]

/-- The sorting works: to come before is transitive, and of two results one comes before the other. -/
theorem pairwise_precedes_rank :
    (rank index weights store query).Pairwise fun a b => precedes a b = true := by
  apply List.pairwise_mergeSort
  · intro a b c hab hbc
    rw [precedes_eq_isLE] at hab hbc ⊢
    exact Std.TransCmp.isLE_trans hab hbc
  · intro a b
    rw [precedes_eq_isLE, precedes_eq_isLE, Bool.or_eq_true]
    cases h : compareRanked a b with
    | lt => exact .inl rfl
    | eq => exact .inl rfl
    | gt =>
      have hlt : compareRanked b a = .lt := Std.OrientedCmp.lt_of_gt h
      exact .inr (by rw [hlt]; rfl)

/-- Every result outranks those behind it. -/
theorem pairwise_outranks_rank : (rank index weights store query).Pairwise Outranks := by
  have hdistinct : (rank index weights store query).Pairwise fun a b => a.document ≠ b.document :=
    List.pairwise_map.1 nodup_document_rank
  refine List.Pairwise.imp_of_mem ?_ (pairwise_precedes_rank.and hdistinct)
  rintro a b ha hb ⟨hab, hne⟩
  obtain ⟨d, hd, hida⟩ := document?_of_mem_rank ha
  obtain ⟨e, he, hidb⟩ := document?_of_mem_rank hb
  rw [precedes] at hab
  split at hab
  · next hgt => exact .inl hgt
  · cases hab
  · next heq =>
    refine .inr ⟨heq, ?_⟩
    rw [hida, hidb]
    exact id_lt_of_document? (UInt32.lt_of_le_of_ne (of_decide_eq_true hab) hne) hd he

end Ranking

/-! ### Limits -/

namespace Snapshot

section Search

variable [Text.CharacterTable] {α : Type} [Scalar α] (snapshot : Snapshot α) (text : String)

/-- A search cuts off the ranking of the query that its text is planned to. -/
theorem search_eq (options : SearchOptions) (h : options.limit ≠ 0) :
    snapshot.search text options =
      (Query.parse snapshot.config.tokenizer text options.mode options.asPhrase).map fun query =>
        ⟨(snapshot.ranking query).take options.limit, (snapshot.ranking query).length, query,
          Ranking.overflows snapshot.index query⟩ := by
  rw [search, if_neg h]

/-- A smaller limit cuts off more and changes nothing else. -/
theorem search_take (mode : MatchMode) (asPhrase : Bool) {limit limit' : Nat} (h : 1 ≤ limit)
    (hle : limit ≤ limit') :
    snapshot.search text ⟨limit, mode, asPhrase⟩ =
      (snapshot.search text ⟨limit', mode, asPhrase⟩).map fun outcome =>
        { outcome with results := outcome.results.take limit } := by
  have hne : limit ≠ 0 := Nat.ne_of_gt h
  have hne' : limit' ≠ 0 := Nat.ne_of_gt (Nat.le_trans h hle)
  rw [search_eq snapshot text ⟨limit, mode, asPhrase⟩ hne,
    search_eq snapshot text ⟨limit', mode, asPhrase⟩ hne']
  cases Query.parse snapshot.config.tokenizer text mode asPhrase with
  | error e => rfl
  | ok query =>
    have htake : ((snapshot.ranking query).take limit').take limit =
        (snapshot.ranking query).take limit := by
      rw [List.take_take, Nat.min_eq_left hle]
    simp only [Except.map, htake]

end Search

section Ranking

variable {α : Type} [Scalar α] {snapshot : Snapshot α} {query : Query}

/-- Nothing is asked for and nothing found, or the documents are ranked. -/
theorem ranking_cases (snapshot : Snapshot α) (query : Query) :
    snapshot.ranking query = [] ∨ snapshot.ranking query =
      Ranking.rank snapshot.index snapshot.config.weights snapshot.store query := by
  rw [ranking]
  split
  · exact .inl rfl
  · exact .inr rfl

theorem nodup_document_ranking : ((snapshot.ranking query).map Ranked.document).Nodup := by
  rcases snapshot.ranking_cases query with h | h
  · rw [h]
    exact List.nodup_nil
  · rw [h]
    exact Ranking.nodup_document_rank

end Ranking

end Snapshot

/-- A ranking is strictly ordered and a limit takes its beginning. Whatever index, store and weights a
snapshot has: in the ranking of a query no document and no id comes twice, and each result comes before
those of a smaller score and, where scores are the same, before those of a greater id. With a limit of at
least one a search gives the beginning of that ranking and the number of all its results; with a smaller
limit it gives the beginning of what it gives with a greater one, or the same error. -/
theorem ranking_strictly_ordered [Text.CharacterTable] (snapshot : Snapshot Float) :
    (∀ query, ((snapshot.ranking query).map Ranked.document).Nodup ∧
      ((snapshot.ranking query).map Ranked.id).Nodup ∧
      (snapshot.ranking query).Pairwise fun a b =>
        Scalar.order a.score b.score = .gt ∨ a.score = b.score ∧ a.id < b.id) ∧
    ∀ (text : String) (mode : MatchMode) (asPhrase : Bool) (limit limit' : Nat),
      1 ≤ limit → limit ≤ limit' →
        snapshot.search text ⟨limit, mode, asPhrase⟩ =
          (snapshot.search text ⟨limit', mode, asPhrase⟩).map (fun outcome =>
            { outcome with results := outcome.results.take limit }) ∧
        ∀ outcome, snapshot.search text ⟨limit, mode, asPhrase⟩ = .ok outcome →
          outcome.results = (snapshot.ranking outcome.query).take limit ∧
          outcome.totalHits = (snapshot.ranking outcome.query).length ∧
          outcome.results.length ≤ limit := by
  constructor
  · intro query
    rcases snapshot.ranking_cases query with h | h
    · rw [h]
      exact ⟨List.nodup_nil, List.nodup_nil, List.Pairwise.nil⟩
    · rw [h]
      refine ⟨Ranking.nodup_document_rank, Ranking.nodup_id_rank, ?_⟩
      refine Ranking.pairwise_outranks_rank.imp ?_
      rintro a b (hgt | ⟨heq, hid⟩)
      · exact .inl hgt
      · exact .inr ⟨Std.LawfulEqCmp.eq_of_compare heq, hid⟩
  · intro text mode asPhrase limit limit' h hle
    refine ⟨snapshot.search_take text mode asPhrase h hle, ?_⟩
    intro outcome houtcome
    have hne : limit ≠ 0 := Nat.ne_of_gt h
    rw [snapshot.search_eq text ⟨limit, mode, asPhrase⟩ hne] at houtcome
    obtain ⟨query, -, rfl⟩ := map_eq_ok.1 houtcome
    exact ⟨rfl, rfl, List.length_take_le _ _⟩

/-- Two documents with an index that does not fit them: the postings of its term are out of order, one
document has two of them, and one of them is of a document that there is not. -/
def disorderlySnapshot : Snapshot Float where
  store := ⟨[⟨"a", "", "", "a.md"⟩, ⟨"b", "", "", "b.md"⟩], by decide, by decide⟩
  index :=
    { terms := SortedMap.ofList [("x", [⟨1, 1, 0, []⟩, ⟨0, 3, 5, [2, 1]⟩, ⟨1, 1, 0, [4]⟩, ⟨7, 1, 1, [0]⟩])]
      lengths := []
      documentCount := 1
      meanLength := 0
      totalLength := 0 }
  config := .standard
  builtAt := 0
  fingerprint := none
  generation := 0

theorem ranking_strictly_ordered_sample :
    1 ≤ 1 ∧ 1 ≤ 2 ∧
      disorderlySnapshot.search "x" ⟨1, .any, false⟩ =
        (disorderlySnapshot.search "x" ⟨2, .any, false⟩).map (fun outcome =>
          { outcome with results := outcome.results.take 1 }) ∧
      ∀ outcome, disorderlySnapshot.search "x" ⟨1, .any, false⟩ = .ok outcome →
        outcome.results = (disorderlySnapshot.ranking outcome.query).take 1 ∧
        outcome.totalHits = (disorderlySnapshot.ranking outcome.query).length ∧
        outcome.results.length ≤ 1 :=
  ⟨by decide, by decide,
    (ranking_strictly_ordered disorderlySnapshot).2 "x" .any false 1 2 (by decide) (by decide)⟩

end Concordance
