import Concordance.Proofs.Phrases
import Concordance.Proofs.QueryPlans
import Concordance.Proofs.Tallies
import Concordance.Proofs.Terms
import Concordance.Snapshot

/-!
# Answering a query without an index

A scan looks through the terms of every document for each clause of a query. The index is there to be
faster: it ranks the same documents, with the same scores and in the same order.
-/

namespace Concordance

open Text Ranking

/-! ## The scan -/

namespace Scan

variable [CharacterTable] {α : Type} [Scalar α]

def holds (config : TokenizerConfig) (document : Document) : Clause → Bool
  | .term t =>
    decide (t ∈ config.terms document.title) || decide (t ∈ config.terms document.body)
  | .phrase ts =>
    decide (ts <:+: config.terms document.title) || decide (ts <:+: config.terms document.body)

def frequency (config : TokenizerConfig) (weights : Weights α) (document : Document) : Clause → α
  | .term t =>
    weightedFrequency weights
      ((config.terms document.title).count t + (config.terms document.body).count t)
      ((config.terms document.title).count t)
  | .phrase ts =>
    number (occurrences ts (config.terms document.title) +
      occurrences ts (config.terms document.body))

def length (config : TokenizerConfig) (document : Document) : Nat :=
  (config.terms document.title).length + (config.terms document.body).length

def meanLength (config : TokenizerConfig) (documents : List Document) : α :=
  number (documents.map (length config)).sum / number documents.length

def amount (config : Config α) (documents : List Document) (document : Document)
    (clause : Clause) : α :=
  contribution config.weights
    (idf documents.length (documents.countP fun d => holds config.tokenizer d clause))
    (frequency config.tokenizer config.weights document clause)
    (length config.tokenizer document) (meanLength config.tokenizer documents)

def held (config : TokenizerConfig) (clauses : List Clause) (document : Document) : List Clause :=
  clauses.filter (holds config document)

/-- A document is an answer if some clause holds, or all of them if the query asks for all. -/
def answers (config : TokenizerConfig) (query : Query) (document : Document) : Bool :=
  match query.mode with
  | .any => query.clauses.any (holds config document)
  | .all => !query.clauses.isEmpty && query.clauses.all (holds config document)

def sum (config : Config α) (documents : List Document) (clauses : List Clause)
    (document : Document) : α :=
  ((held config.tokenizer clauses document).map (amount config documents document)).foldl (· + ·)
    (number 0)

def ranked (config : Config α) (documents : List Document) (query : Query)
    (numbered : DocId × Document) : Ranked α :=
  let document := numbered.2
  let clauses := held config.tokenizer query.clauses document
  let sum := sum config documents query.clauses document
  { document := numbered.1
    id := document.id
    score := score clauses.length sum
    sum := sum
    matched := clauses.length
    total := query.clauses.length
    terms := (clauses.flatMap Clause.terms).eraseDups }

/-- The greatest score comes first, and of equal scores the smallest id. -/
def precedes (a b : Ranked α) : Bool :=
  match Scalar.order a.score b.score with
  | .gt => true
  | .lt => false
  | .eq => decide (a.id ≤ b.id)

def ranking (config : Config α) (store : Store) (query : Query) : List (Ranked α) :=
  ((store.numbered.filter fun x => answers config.tokenizer query x.2).map
    (ranked config store.documents query)).mergeSort precedes

/-! ## The index gives the same -/

variable {config : Config α} {store : Store}

theorem holds_term_iff {tokenizer : TokenizerConfig} {document : Document} {t : String} :
    holds tokenizer document (.term t) = true ↔ Index.placesOf tokenizer t document ≠ [] := by
  rw [holds, Bool.or_eq_true, decide_eq_true_eq, decide_eq_true_eq, ne_eq,
    Index.placesOf_eq_nil_iff, not_and_or, not_not, not_not]

theorem holds_phrase_iff {tokenizer : TokenizerConfig} {document : Document} {ts : List String} :
    holds tokenizer document (.phrase ts) = true ↔ Index.phraseCount tokenizer ts document ≠ 0 := by
  rw [holds, Bool.or_eq_true, decide_eq_true_eq, decide_eq_true_eq, ← occurrences_pos_iff,
    ← occurrences_pos_iff, Index.phraseCount]
  omega

/-- The clause is a term or a phrase that is not empty. -/
def IsAsked : Clause → Prop
  | .term _ => True
  | .phrase ts => ts ≠ []

/-- The documents that a clause hits are those for which it holds, with its frequency. -/
theorem hits_build (h : store.Fits config.tokenizer) {clause : Clause} (hasked : IsAsked clause) :
    hits (Index.build store config.tokenizer) config.weights clause =
      known (fun x => if holds config.tokenizer x.2 clause then
        some (frequency config.tokenizer config.weights x.2 clause) else none) store.numbered := by
  cases clause with
  | term t =>
      rw [hits, Index.postings_build, List.map_filterMap, known]
      refine List.filterMap_congr fun x hx => ?_
      have hfits := h.fits x.2 (Store.mem_documents_of_mem_numbered hx)
      rw [Index.Fits, Index.termTotal] at hfits
      -- no count wraps, as a document that fits is shorter than 2 ^ 32 terms
      have htitle : ((config.tokenizer.terms x.2.title).count t) ≤
          (config.tokenizer.terms x.2.title).length := List.count_le_length
      have hbody : ((config.tokenizer.terms x.2.body).count t) ≤
          (config.tokenizer.terms x.2.body).length := List.count_le_length
      rw [Index.posting?]
      by_cases hnone : Index.placesOf config.tokenizer t x.2 = []
      · rw [if_pos hnone, if_neg fun hholds => holds_term_iff.1 hholds hnone]
        rfl
      · rw [if_neg hnone, if_pos (holds_term_iff.2 hnone)]
        simp only [Index.posting, List.length_map, Index.length_placesOf, Option.map_some]
        rw [UInt32.toNat_ofNat_of_lt' (show _ < 2 ^ 32 by omega),
          UInt32.toNat_ofNat_of_lt' (show _ < 2 ^ 32 by omega)]
        rfl
  | phrase ts =>
      rw [hits, Index.phraseHits_build h hasked, List.map_filterMap, known]
      refine List.filterMap_congr fun x hx => ?_
      have hfits := h.fits x.2 (Store.mem_documents_of_mem_numbered hx)
      -- the counts of phrases do not wrap either
      have hlt := Index.phraseCount_lt hfits hasked
      by_cases hzero : Index.phraseCount config.tokenizer ts x.2 = 0
      · rw [if_pos hzero, if_neg fun hholds => holds_phrase_iff.1 hholds hzero]
        rfl
      · rw [if_neg hzero, if_pos (holds_phrase_iff.2 hzero)]
        simp only [Option.map_some, UInt32.toNat_ofNat_of_lt' hlt]
        rfl

/-- The number of hits of a clause is the number of documents for which it holds. -/
theorem length_hits_build (h : store.Fits config.tokenizer) {clause : Clause}
    (hasked : IsAsked clause) :
    (hits (Index.build store config.tokenizer) config.weights clause).length =
      store.documents.countP fun d => holds config.tokenizer d clause := by
  rw [hits_build h hasked, known, List.length_filterMap_eq_countP, ← store.map_snd_numbered,
    List.countP_map]
  refine List.countP_congr fun x _ => ?_
  by_cases hholds : holds config.tokenizer x.2 clause = true
  · simp [hholds]
  · simp [hholds]

/-- The tally of a document after some clauses. -/
def tally? (config : Config α) (documents : List Document) (clauses : List Clause)
    (x : DocId × Document) : Option (Tally α) :=
  let clauses' := held config.tokenizer clauses x.2
  if clauses' = [] then none
  else
    some ⟨sum config documents clauses x.2, clauses'.length,
      (clauses'.flatMap Clause.terms).eraseDups⟩

/-- The tally of a scan is taken over the clauses that the document holds. -/
theorem getD_tally? (config : Config α) (documents : List Document) (clauses : List Clause)
    (x : DocId × Document) :
    (tally? config documents clauses x).getD ⟨number 0, 0, []⟩ =
      ⟨sum config documents clauses x.2, (held config.tokenizer clauses x.2).length,
        ((held config.tokenizer clauses x.2).flatMap Clause.terms).eraseDups⟩ := by
  rw [tally?]
  split
  · next hnil => rw [sum, hnil]; rfl
  · rfl

/-- One more clause adds to the tally if it holds, and leaves it alone if not. -/
theorem tally?_concat (config : Config α) (documents : List Document) (clauses : List Clause)
    (clause : Clause) (x : DocId × Document) :
    tally? config documents (clauses ++ [clause]) x =
      if holds config.tokenizer x.2 clause then
        some (Tally.add (amount config documents x.2 clause) clause.terms
          (tally? config documents clauses x))
      else tally? config documents clauses x := by
  have hheld : held config.tokenizer (clauses ++ [clause]) x.2 =
      held config.tokenizer clauses x.2 ++
        if holds config.tokenizer x.2 clause then [clause] else [] := by
    rw [held, List.filter_append, List.filter_cons, List.filter_nil]
    rfl
  by_cases hholds : holds config.tokenizer x.2 clause = true
  · rw [if_pos hholds] at hheld ⊢
    rw [Tally.add, getD_tally?, tally?, hheld, if_neg (by simp), sum, hheld, List.map_append,
      List.foldl_append, List.length_append, List.flatMap_append, ← foldl_addNew,
      List.foldl_append, foldl_addNew]
    simp [sum]
  · rw [if_neg hholds] at hheld ⊢
    rw [List.append_nil] at hheld
    rw [tally?, tally?, hheld, sum, sum, hheld]

/-- What the index gathers for the clauses of a query. -/
theorem tally_build (h : store.Fits config.tokenizer) (clauses : List Clause)
    (hasked : ∀ clause ∈ clauses, IsAsked clause) :
    clauses.foldl (tallyClause (Index.build store config.tokenizer) config.weights) [] =
      known (tally? config store.documents clauses) store.numbered := by
  -- tallies are carried from clause to clause, so the last clause is taken off
  induction clauses using List.reverseRecOn with
  | nil =>
      symm
      exact List.filterMap_eq_nil_iff.2 fun x _ => rfl
  | append_singleton clauses clause ih =>
      have hclause := hasked clause (by simp)
      have hasc := (Store.pairwise_numbered h.size_lt).imp fun hlt => hlt.1
      rw [List.foldl_append, List.foldl_cons, List.foldl_nil,
        ih fun c hc => hasked c (List.mem_append_left _ hc), tallyClause,
        length_hits_build h hclause, hits_build h hclause, h.documentCount_build,
        h.meanLength_build]
      let change (n : DocId) (frequency : α) :=
        Tally.add (contribution config.weights
          (idf store.documents.length
            (store.documents.countP fun d => holds config.tokenizer d clause))
          frequency ((Index.build store config.tokenizer : Index α).lengthOf n).toNat
          (number (store.documents.map (Index.termTotal config.tokenizer)).sum /
            number store.documents.length)) clause.terms
      refine (foldl_alterTally hasc change _ _).trans ?_
      refine List.filterMap_congr fun x hx => ?_
      rw [tally?_concat, tallied]
      by_cases hholds : holds config.tokenizer x.2 clause = true
      · rw [if_pos hholds, if_pos hholds]
        simp only [change, h.lengthOf_build hx]
        rfl
      · rw [if_neg hholds, if_neg hholds]

/-- A document is an answer if some clause holds and, where all are asked for, none is missing. -/
theorem answers_iff {tokenizer : TokenizerConfig} {query : Query} {document : Document} :
    answers tokenizer query document = true ↔
      held tokenizer query.clauses document ≠ [] ∧
        (query.mode = .any ∨
          (held tokenizer query.clauses document).length = query.clauses.length) := by
  have hany : held tokenizer query.clauses document ≠ [] ↔
      query.clauses.any (holds tokenizer document) = true := by
    rw [held, ne_eq, List.filter_eq_nil_iff, List.any_eq_true]
    simp
  rw [answers]
  cases query.mode with
  | any => simp [hany]
  | all =>
      rw [Bool.and_eq_true, Bool.not_eq_true', List.isEmpty_eq_false_iff, List.all_eq_true,
        ← List.length_filter_eq_length_iff, ← held]
      constructor
      · rintro ⟨hne, hlength⟩
        -- if none held, there would be no clauses at all
        refine ⟨fun hnil => hne ?_, .inr hlength⟩
        rwa [hnil, List.length_nil, eq_comm, List.length_eq_zero_iff] at hlength
      · rintro ⟨hne, hmode | hlength⟩
        · cases hmode
        · refine ⟨fun hnil => hne ?_, hlength⟩
          rw [hnil]
          rfl

/-- Whether a document is ranked, and how. -/
theorem bind_tally?_eq (h : store.Fits config.tokenizer) (query : Query)
    {x : DocId × Document} (hx : x ∈ store.numbered) :
    ((tally? config store.documents query.clauses x).bind fun t =>
        if Ranking.answers query t then Ranking.ranked? store query (x.1, t) else none) =
      if answers config.tokenizer query x.2 then
        some (ranked config store.documents query x)
      else none := by
  have hdocument : store.document? x.1 = some x.2 := Store.getElem?_of_mem_numbered h.size_lt hx
  by_cases hnil : held config.tokenizer query.clauses x.2 = []
  · rw [tally?, if_pos hnil, if_neg fun hanswers => (answers_iff.1 hanswers).1 hnil]
    rfl
  · have hsame (matched : Nat)
        (hmatched : matched = (held config.tokenizer query.clauses x.2).length) (s : α)
        (terms : List String) :
        Ranking.answers query ⟨s, matched, terms⟩ = answers config.tokenizer query x.2 := by
      rw [Bool.eq_iff_iff, answers_iff, Ranking.answers, hmatched]
      simp [hnil]
    rw [tally?, if_neg hnil, Option.bind_some, hsame _ rfl, Ranking.ranked?, hdocument]
    rfl

/-- Comparing numbers is comparing ids. -/
theorem precedes_eq (h : store.Fits config.tokenizer) (query : Query) {x y : DocId × Document}
    (hx : x ∈ store.numbered) (hy : y ∈ store.numbered) :
    Ranking.precedes (ranked config store.documents query x)
        (ranked config store.documents query y) =
      precedes (ranked config store.documents query x)
        (ranked config store.documents query y) := by
  rw [Ranking.precedes, precedes]
  cases Scalar.order (ranked config store.documents query x).score
      (ranked config store.documents query y).score with
  | gt => rfl
  | lt => rfl
  | eq => exact decide_eq_decide.2 (Store.le_iff_of_mem_numbered h.size_lt hx hy)

/-- The index ranks what the scan ranks. -/
theorem ranking_build (h : store.Fits config.tokenizer) (query : Query)
    (hasked : ∀ clause ∈ query.clauses, IsAsked clause) (builtAt : UInt64)
    (fingerprint : Option UInt64) :
    (Snapshot.build store config builtAt fingerprint).ranking query =
      ranking config store query := by
  rw [Snapshot.ranking, Query.isEmpty]
  split
  · next hempty =>
      rw [List.isEmpty_iff] at hempty
      have hnone : store.numbered.filter (fun x => answers config.tokenizer query x.2) = [] := by
        rw [List.filter_eq_nil_iff]
        intro x _
        rw [answers, hempty]
        split
        · simp
        · simp
      rw [ranking, hnone, List.map_nil, List.mergeSort_nil]
  · -- what is left to compare are the unsorted lists, document by document
    have hranked : ((tally (Index.build store config.tokenizer) config.weights query).filter
        fun entry => Ranking.answers query entry.2).filterMap (Ranking.ranked? store query) =
        (store.numbered.filter fun x => answers config.tokenizer query x.2).map
          (ranked config store.documents query) := by
      rw [tally, tally_build h query.clauses hasked, known, List.filterMap_filter,
        List.filterMap_filterMap, ← List.filterMap_eq_map, List.filterMap_filter]
      refine List.filterMap_congr fun x hx => ?_
      rw [Option.bind_map]
      exact bind_tally?_eq h query hx
    have hsort := List.map_mergeSort (f := id) (r := Ranking.precedes) (s := precedes)
      (l := (store.numbered.filter fun x => answers config.tokenizer query x.2).map
        (ranked config store.documents query)) ?_
    · rw [List.map_id, List.map_id] at hsort
      rw [ranking, ← hsort, ← hranked]
      rfl
    · -- on these items the two orders agree, so sorting by one is sorting by the other
      intro a ha b hb
      obtain ⟨x, hx, rfl⟩ := List.mem_map.1 ha
      obtain ⟨y, hy, rfl⟩ := List.mem_map.1 hb
      exact precedes_eq h query (List.mem_filter.1 hx).1 (List.mem_filter.1 hy).1

/-- The planner asks for no empty phrase. -/
theorem isAsked_of_parse {tokenizer : TokenizerConfig} {text : String} {mode : MatchMode}
    {asPhrase : Bool} {query : Query}
    (hparse : Query.parse tokenizer text mode asPhrase = .ok query) :
    ∀ clause ∈ query.clauses, IsAsked clause := by
  intro clause hmem
  cases clause with
  | term t => trivial
  | phrase ts =>
      rintro rfl
      exact absurd (Query.two_le_length_of_mem hparse hmem) (by decide)

/-- Documents can be counted, and the terms of each as well. -/
def Counted (config : TokenizerConfig) (documents : List Document) : Prop :=
  documents.length < 2 ^ 32 ∧ ∀ d ∈ documents, length config d + 16 < 2 ^ 32

theorem fits_of_perm {tokenizer : TokenizerConfig} {documents : List Document}
    (hperm : store.documents.Perm documents) (h : Counted tokenizer documents) :
    store.Fits tokenizer where
  size_lt := by
    rw [Store.size, hperm.length_eq]
    exact h.1
  fits d hd := h.2 d (hperm.mem_iff.1 hd)

end Scan

/-- Searching with the index is scanning. Documents with distinct ids make a store that holds just
them, and the snapshot of the store ranks, for every query that a text is planned to, what a scan of
the terms of the documents ranks. -/
theorem ranking_eq_scan [CharacterTable] {α : Type} [Scalar α] (config : Config α)
    {documents : List Document} (hne : documents ≠ [])
    (hids : (documents.map Document.id).Nodup)
    (hcounted : Scan.Counted config.tokenizer documents) :
    ∃ store, Store.ofList documents = .ok store ∧ store.documents.Perm documents ∧
      ∀ (builtAt : UInt64) (fingerprint : Option UInt64) (text : String) (mode : MatchMode)
        (asPhrase : Bool) (query : Query),
        Query.parse config.tokenizer text mode asPhrase = .ok query →
          (Snapshot.build store config builtAt fingerprint).ranking query =
            Scan.ranking config store query := by
  obtain ⟨store, hstore, hdocuments⟩ := Store.ofDocuments_ok "document list" hne hids
  have hperm : store.documents.Perm documents := hdocuments ▸ Store.sort_perm documents
  have hfits : store.Fits config.tokenizer := Scan.fits_of_perm hperm hcounted
  refine ⟨store, hstore, hperm, fun builtAt fingerprint text mode asPhrase query hparse => ?_⟩
  exact Scan.ranking_build hfits query (Scan.isAsked_of_parse hparse) builtAt fingerprint

namespace Scan

/-- Two documents that hold one term, one in its title and the other in its body. -/
def sample : List Document :=
  [⟨"second", "a", "", "second.md"⟩, ⟨"first", "", "a", "first.md"⟩]

theorem counted_sample : Counted Config.standard.tokenizer sample := by
  refine ⟨by decide, fun d hd => ?_⟩
  rw [sample, List.mem_cons, List.mem_singleton] at hd
  rcases hd with rfl | rfl
  · rw [length, Unicode.terms_a, terms_empty]
    decide
  · rw [length, Unicode.terms_a, terms_empty]
    decide

/-- A fraction as a score; one less than it stands for its logarithm. -/
structure Fraction where
  value : Rat
deriving DecidableEq, Repr

instance : Scalar Fraction where
  add a b := ⟨a.value + b.value⟩
  sub a b := ⟨a.value - b.value⟩
  mul a b := ⟨a.value * b.value⟩
  div a b := ⟨a.value / b.value⟩
  ofNat n := ⟨n⟩
  half := ⟨1 / 2⟩
  log a := ⟨a.value - 1⟩
  isPositive a := decide (0 < a.value)
  order a b := compareOfLessAndEq a.value b.value

/-- An occurrence in a title counts twice. -/
def sampleConfig : Config Fraction :=
  { weights := ⟨⟨6 / 5⟩, ⟨3 / 4⟩, ⟨2⟩⟩ }

/-- The sample in the order of the ids. -/
def sampleStore : Store :=
  ⟨[⟨"first", "", "a", "first.md"⟩, ⟨"second", "a", "", "second.md"⟩], by decide, by decide⟩

theorem mergeSort_pair {α : Type} (le : α → α → Bool) (a b : α) :
    [a, b].mergeSort le = if le a b then [a, b] else [b, a] := by
  simp [List.mergeSort, List.MergeSort.Internal.splitInTwo, List.merge]

theorem ofList_sample : Store.ofList sample = .ok sampleStore := by
  refine Store.ofDocuments_eq_ok_iff.2 ⟨by decide, by decide, ?_⟩
  rw [sample, Store.sort, mergeSort_pair, if_neg (by decide)]
  rfl

set_option maxRecDepth 100000 in
/-- Both documents hold one term, but an occurrence in the title counts twice. -/
theorem ranking_sample :
    (ranking sampleConfig sampleStore ⟨[.term "a"], .any⟩).map
        (fun r => (r.id, r.matched, r.score.value)) =
      [("second", 1, 62 / 51), ("first", 1, 7 / 6)] := by
  have hanswers : (sampleStore.numbered.filter fun x =>
      answers sampleConfig.tokenizer ⟨[.term "a"], .any⟩ x.2) = sampleStore.numbered := by
    decide +kernel
  rw [ranking, hanswers]
  show (List.mergeSort [_, _] precedes).map _ = _
  rw [mergeSort_pair, if_neg (by decide +kernel)]
  decide +kernel

end Scan

/-- The document with the term in its title comes first, though its id is the greater one. -/
theorem ranking_eq_scan_sample :
    Scan.sample ≠ [] ∧ (Scan.sample.map Document.id).Nodup ∧
      Scan.Counted Scan.sampleConfig.tokenizer Scan.sample ∧
      ∃ store query, Store.ofList Scan.sample = .ok store ∧
        Query.parse Scan.sampleConfig.tokenizer "a" .any false = .ok query ∧
        (Snapshot.build store Scan.sampleConfig 0 none).ranking query =
          Scan.ranking Scan.sampleConfig store query ∧
        ((Snapshot.build store Scan.sampleConfig 0 none).ranking query).map
            (fun r => (r.id, r.matched, r.score.value)) =
          [("second", 1, 62 / 51), ("first", 1, 7 / 6)] := by
  have hparse : Query.parse Scan.sampleConfig.tokenizer "a" .any false = .ok ⟨[.term "a"], .any⟩ := by
    decide +kernel
  obtain ⟨store, hstore, -, hranking⟩ :=
    ranking_eq_scan Scan.sampleConfig (by decide) (by decide) Scan.counted_sample
  obtain rfl := Except.ok.inj (Scan.ofList_sample.symm.trans hstore)
  have hsame := hranking 0 none "a" .any false _ hparse
  exact ⟨by decide, by decide, Scan.counted_sample, _, _, hstore, hparse, hsame,
    hsame ▸ Scan.ranking_sample⟩

end Concordance
