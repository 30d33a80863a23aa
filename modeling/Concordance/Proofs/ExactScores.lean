import Concordance.Proofs.LosslessIndexes
import Concordance.Proofs.RankingOrder
import Mathlib.Data.Real.Basic
import Mathlib.Tactic.Linarith
import Mathlib.Tactic.Positivity

/-!
# Scores without rounding

The ranking formulas over the real numbers. All that is asked of the logarithm is that it is positive
above one. Then every clause that hits a document adds an amount that is not negative, and what the
amounts add to the number of clauses stays below one: a document that matches more clauses comes first,
whatever else is known of it (`more_matches_first`).
-/

namespace Concordance

/-! ### Real numbers to compute scores with -/

/-- A real number as a score; `ln` stands for the logarithm. -/
structure Exact (ln : ℝ → ℝ) where
  value : ℝ

namespace Exact

variable {ln : ℝ → ℝ}

noncomputable instance : Scalar (Exact ln) where
  add a b := ⟨a.value + b.value⟩
  sub a b := ⟨a.value - b.value⟩
  mul a b := ⟨a.value * b.value⟩
  div a b := ⟨a.value / b.value⟩
  ofNat n := ⟨n⟩
  half := ⟨1 / 2⟩
  log a := ⟨ln a.value⟩
  isPositive a := decide (0 < a.value)
  order a b := compare a.value b.value

@[simp] theorem value_add (a b : Exact ln) : (a + b).value = a.value + b.value :=
  rfl

@[simp] theorem value_sub (a b : Exact ln) : (a - b).value = a.value - b.value :=
  rfl

@[simp] theorem value_mul (a b : Exact ln) : (a * b).value = a.value * b.value :=
  rfl

@[simp] theorem value_div (a b : Exact ln) : (a / b).value = a.value / b.value :=
  rfl

@[simp] theorem value_ofNat (n : Nat) : (Scalar.ofNat n : Exact ln).value = n :=
  rfl

@[simp] theorem value_half : (Scalar.half : Exact ln).value = 1 / 2 :=
  rfl

@[simp] theorem value_log (a : Exact ln) : (Scalar.log a).value = ln a.value :=
  rfl

@[simp] theorem isPositive_iff (a : Exact ln) : Scalar.isPositive a = true ↔ 0 < a.value :=
  decide_eq_true_iff

noncomputable instance : Std.TransCmp (Scalar.order : Exact ln → Exact ln → Ordering) :=
  inferInstanceAs (Std.TransCmp (compareOn Exact.value))

theorem atLeastZero_nonneg (a : Exact ln) : 0 ≤ (Scalar.atLeastZero a).value := by
  rw [Scalar.atLeastZero]
  split
  · next h => exact le_of_lt ((isPositive_iff a).1 h)
  · simp

end Exact

/-- Weights that keep the formula above zero: occurrences count, and the length counts between not at all and
fully. The titles may have any weight. -/
structure Weights.InRange {ln : ℝ → ℝ} (weights : Weights (Exact ln)) : Prop where
  saturation_nonneg : 0 ≤ weights.saturation.value
  lengthNorm_nonneg : 0 ≤ weights.lengthNorm.value
  lengthNorm_le_one : weights.lengthNorm.value ≤ 1

/-- Weights for which the formula makes sense. -/
structure Weights.Sensible {ln : ℝ → ℝ} (weights : Weights (Exact ln)) : Prop where
  saturation_pos : 0 < weights.saturation.value
  lengthNorm_nonneg : 0 ≤ weights.lengthNorm.value
  lengthNorm_le_one : weights.lengthNorm.value ≤ 1
  titleWeight_nonneg : 0 ≤ weights.titleWeight.value

theorem Weights.Sensible.inRange {ln : ℝ → ℝ} {weights : Weights (Exact ln)} (hw : weights.Sensible) :
    weights.InRange where
  saturation_nonneg := le_of_lt hw.saturation_pos
  lengthNorm_nonneg := hw.lengthNorm_nonneg
  lengthNorm_le_one := hw.lengthNorm_le_one

/-- The documents of a store, and the terms of each of them, are counted in 32 bits. With more of them
the counts of an index wrap around: a document of 2³² terms would have the length zero. -/
structure Store.Counted [Text.CharacterTable] (config : TokenizerConfig) (store : Store) : Prop where
  size_lt : store.size < 2 ^ 32
  total_lt : ∀ d ∈ store.documents, Index.termTotal config d < 2 ^ 32

theorem Store.Fits.counted [Text.CharacterTable] {config : TokenizerConfig} {store : Store}
    (h : store.Fits config) : store.Counted config where
  size_lt := h.size_lt
  total_lt := by
    intro d hd
    exact Nat.lt_of_le_of_lt (Nat.le_add_right _ _) (h.fits d hd)

/-! ### The formulas -/

namespace Ranking

variable {ln : ℝ → ℝ} {weights : Weights (Exact ln)} {length : Nat} {mean : Exact ln}

/-- A clause that hits no more documents than there are has a positive weight. -/
theorem idf_pos (hln : ∀ x, 1 < x → 0 < ln x) {documents hits : Nat} (h : hits ≤ documents) :
    0 < (idf documents hits : Exact ln).value := by
  have hle : (hits : ℝ) ≤ documents := Nat.cast_le.2 h
  have hhits : (0 : ℝ) ≤ hits := Nat.cast_nonneg hits
  rw [idf, Exact.value_log]
  apply hln
  have habove : 0 < ((documents : ℝ) - hits + 1 / 2) / (hits + 1 / 2) := by
    apply div_pos
    · linarith
    · linarith
  simpa using habove

theorem lengthRatio_nonneg (length : Nat) (mean : Exact ln) : 0 ≤ (lengthRatio length mean).value := by
  rw [lengthRatio]
  split
  · next h =>
      rw [Exact.value_div, Exact.value_ofNat]
      exact div_nonneg (Nat.cast_nonneg length) (le_of_lt ((Exact.isPositive_iff mean).1 h))
  · simp

theorem lengthRatio_pos (h : 0 < length) (mean : Exact ln) : 0 < (lengthRatio length mean).value := by
  rw [lengthRatio]
  split
  · next hmean =>
      rw [Exact.value_div, Exact.value_ofNat]
      exact div_pos (Nat.cast_pos.2 h) ((Exact.isPositive_iff mean).1 hmean)
  · simp

theorem value_norm (weights : Weights (Exact ln)) (length : Nat) (mean : Exact ln) :
    (norm weights length mean).value =
      weights.saturation.value *
        (1 - weights.lengthNorm.value + weights.lengthNorm.value * (lengthRatio length mean).value) := by
  simp [norm]

theorem norm_nonneg (hw : weights.InRange) (length : Nat) (mean : Exact ln) :
    0 ≤ (norm weights length mean).value := by
  have hratio := mul_nonneg hw.lengthNorm_nonneg (lengthRatio_nonneg length mean)
  have hle := hw.lengthNorm_le_one
  rw [value_norm]
  apply mul_nonneg hw.saturation_nonneg
  linarith

/-- Where the length counts in full, a document that is not empty has a length to be counted. -/
theorem norm_pos (hw : weights.InRange) (hs : 0 < weights.saturation.value) (h : 0 < length) (mean : Exact ln) :
    0 < (norm weights length mean).value := by
  rw [value_norm]
  apply mul_pos hs
  have hratio := lengthRatio_pos h mean
  rcases hw.lengthNorm_le_one.lt_or_eq with hlt | heq
  · have hproduct := mul_nonneg hw.lengthNorm_nonneg (le_of_lt hratio)
    linarith
  · rw [heq]
    linarith

/-- What a clause adds is divided by a positive number if it occurs or the document is not empty. -/
theorem denominator_pos (hw : weights.InRange) (hs : 0 < weights.saturation.value) {frequency : Exact ln}
    (hf : 0 ≤ frequency.value) (h : 0 < frequency.value ∨ 0 < length) :
    0 < (frequency + norm weights length mean).value := by
  rw [Exact.value_add]
  rcases h with hpos | hlength
  · have hnorm := norm_nonneg hw length mean
    linarith
  · have hnorm := norm_pos hw hs hlength mean
    linarith

/-- The amounts lift a score, but not to the next number. -/
theorem score_bounds (matched : Nat) {sum : Exact ln} (h : 0 ≤ sum.value) :
    (matched : ℝ) ≤ (score matched sum).value ∧ (score matched sum).value < matched + 1 := by
  have hscore : (score matched sum).value = matched + sum.value / (1 + sum.value) := by
    simp [score]
  have hpos : 0 < 1 + sum.value := by linarith
  have hlt : sum.value / (1 + sum.value) < 1 := by
    rw [div_lt_one hpos]
    linarith
  have hnonneg : 0 ≤ sum.value / (1 + sum.value) := div_nonneg h (le_of_lt hpos)
  rw [hscore]
  constructor
  · linarith
  · linarith

end Ranking

/-! ### What a clause hits -/

namespace Index

theorem length_intersect_le (as bs : List DocId) : (intersect as bs).length ≤ as.length := by
  fun_induction intersect as bs with
  | case1 => exact Nat.le_refl _
  | case2 => exact Nat.zero_le _
  | case3 as a bs ih => exact Nat.succ_le_succ ih
  | case4 as a b bs _ _ ih => exact Nat.le_trans ih (Nat.le_succ _)
  | case5 as a b bs _ _ ih => exact ih

/-- There are no more common documents than postings in any of the lists. -/
theorem length_commonDocuments_le {bound : Nat} {lists : List (List Posting)}
    (h : ∀ postings ∈ lists, postings.length ≤ bound) : (commonDocuments lists).length ≤ bound := by
  cases lists with
  | nil => exact Nat.zero_le _
  | cons first rest =>
      rw [commonDocuments]
      refine List.foldlRecOn (motive := fun common : List DocId => common.length ≤ bound) rest _ ?_ ?_
      · rw [List.length_map]
        exact h first List.mem_cons_self
      · intro common hcommon postings _
        exact Nat.le_trans (length_intersect_le common _) hcommon

/-- A phrase hits no more documents than its terms have postings. -/
theorem length_phraseHits_le {α : Type} {index : Index α} {bound : Nat}
    (h : ∀ t, (index.postings t).length ≤ bound) (ts : List String) :
    (index.phraseHits ts).value.length ≤ bound := by
  rw [value_phraseHits]
  dsimp only
  split
  · exact Nat.zero_le _
  · refine Nat.le_trans (List.length_filterMap_le _ _) (length_commonDocuments_le ?_)
    intro postings hmem
    obtain ⟨t, -, rfl⟩ := List.mem_map.1 hmem
    exact h t

/-- A document in which a phrase does not occur is no hit. -/
theorem ne_zero_of_mem_phraseHits {α : Type} {index : Index α} {ts : List String}
    {hit : DocId × UInt32} (h : hit ∈ (index.phraseHits ts).value) : hit.2 ≠ 0 := by
  rw [value_phraseHits] at h
  dsimp only at h
  split at h
  · cases h
  · obtain ⟨n, -, hn⟩ := List.mem_filterMap.1 h
    split at hn
    · cases hn
    · next hne =>
        cases hn
        exact hne

end Index

/-! ### What clauses add and documents gather -/

namespace Ranking

section Tallies

variable {ln : ℝ → ℝ}

/-- The number below the line of what a clause adds for a document. -/
noncomputable def denominator (index : Index (Exact ln)) (weights : Weights (Exact ln))
    (hit : DocId × Exact ln) : Exact ln :=
  hit.2 + norm weights (index.lengthOf hit.1).toNat index.meanLength

noncomputable def amount (index : Index (Exact ln)) (weights : Weights (Exact ln)) (clause : Clause)
    (hit : DocId × Exact ln) : Exact ln :=
  contribution weights (idf index.documentCount.toNat (hits index weights clause).length) hit.2
    (index.lengthOf hit.1).toNat index.meanLength

/-- The number above the line. -/
noncomputable def numerator (index : Index (Exact ln)) (weights : Weights (Exact ln)) (clause : Clause)
    (hit : DocId × Exact ln) : Exact ln :=
  idf index.documentCount.toNat (hits index weights clause).length * (hit.2 * (weights.saturation + number 1))

/-- What a clause adds is one division, by the number below the line. -/
theorem amount_eq_div (index : Index (Exact ln)) (weights : Weights (Exact ln)) (clause : Clause)
    (hit : DocId × Exact ln) :
    amount index weights clause hit = numerator index weights clause hit / denominator index weights hit :=
  rfl

/-- A clause adds what its hits are worth, one document after the other. -/
theorem tallyClause_eq (index : Index (Exact ln)) (weights : Weights (Exact ln))
    (tallies : List (DocId × Tally (Exact ln))) (clause : Clause) :
    tallyClause index weights tallies clause =
      (hits index weights clause).foldl
        (fun tallies hit =>
          alterTally hit.1 (Tally.add (amount index weights clause hit) clause.terms) tallies)
        tallies :=
  rfl

def Nonnegative (tallies : List (DocId × Tally (Exact ln))) : Prop :=
  ∀ entry ∈ tallies, 0 ≤ entry.2.sum.value

/-- Adding what is not negative leaves no sum negative. -/
theorem Nonnegative.add {tallies : List (DocId × Tally (Exact ln))} (h : Nonnegative tallies)
    {amount : Exact ln} (hamount : 0 ≤ amount.value) (n : DocId) (terms : List String) :
    Nonnegative (alterTally n (Tally.add amount terms) tallies) := by
  intro entry hentry
  rcases mem_alterTally hentry with hold | rfl | ⟨t, ht, rfl⟩
  · exact h entry hold
  · -- the first amount of a document
    show 0 ≤ (Scalar.ofNat 0 + amount : Exact ln).value
    simpa using hamount
  · show 0 ≤ (t.sum + amount).value
    have hsum := h (n, t) ht
    rw [Exact.value_add]
    exact add_nonneg hsum hamount

end Tallies

/-! ### The index of a store -/

variable [Text.CharacterTable] {config : TokenizerConfig} {store : Store}

/-- A clause hits no more documents than there are. -/
theorem length_hits_build_le {α : Type} [Scalar α] (config : TokenizerConfig) (store : Store)
    (weights : Weights α) (clause : Clause) :
    (hits (Index.build store config) weights clause).length ≤ store.size := by
  have hpostings (t : String) : ((Index.build store config : Index α).postings t).length ≤ store.size := by
    rw [Index.postings_build, ← store.length_numbered]
    exact List.length_filterMap_le _ _
  cases clause with
  | term t =>
      rw [hits, List.length_map]
      exact hpostings t
  | phrase ts =>
      rw [hits, List.length_map]
      exact Index.length_phraseHits_le hpostings ts

variable {ln : ℝ → ℝ} {weights : Weights (Exact ln)}

omit [Text.CharacterTable] in
/-- A phrase is found only where it occurs. -/
theorem frequency_pos_of_phrase {index : Index (Exact ln)} {ts : List String} {hit : DocId × Exact ln}
    (hmem : hit ∈ hits index weights (.phrase ts)) : 0 < hit.2.value := by
  obtain ⟨⟨n, count⟩, hcount, rfl⟩ := List.mem_map.1 hmem
  have hne : count ≠ 0 := Index.ne_zero_of_mem_phraseHits hcount
  exact Nat.cast_pos.2 (Nat.pos_of_ne_zero fun hzero => hne (UInt32.toNat_inj.1 hzero))

/-- A hit has a frequency, which may be zero only for a term of a document that is not empty: all its
occurrences may lie in a title that does not count. -/
theorem frequency_of_mem_hits (h : store.Counted config) {clause : Clause} {hit : DocId × Exact ln}
    (hmem : hit ∈ hits (Index.build store config) weights clause) :
    0 ≤ hit.2.value ∧
      (0 < hit.2.value ∨ 0 < ((Index.build store config : Index (Exact ln)).lengthOf hit.1).toNat) := by
  cases clause with
  | term t =>
      obtain ⟨p, hp, rfl⟩ := List.mem_map.1 hmem
      rw [Index.postings_build] at hp
      obtain ⟨x, hx, hposting⟩ := List.mem_filterMap.1 hp
      refine ⟨Exact.atLeastZero_nonneg _, .inr ?_⟩
      show 0 < ((Index.build store config : Index (Exact ln)).lengthOf p.document).toNat
      rw [Index.document_of_posting? hposting, Index.lengthOf_build h.size_lt hx,
        UInt32.toNat_ofNat_of_lt' (h.total_lt x.2 (Store.mem_documents_of_mem_numbered hx))]
      -- the term has a place in the document
      rw [Index.posting?] at hposting
      split at hposting
      · cases hposting
      · next hne =>
          have hplaces := List.length_pos_of_ne_nil hne
          rw [Index.length_placesOf] at hplaces
          have htitle := List.count_le_length (a := t) (l := config.terms x.2.title)
          have hbody := List.count_le_length (a := t) (l := config.terms x.2.body)
          rw [Index.termTotal]
          omega
  | phrase ts =>
      have hpos := frequency_pos_of_phrase hmem
      exact ⟨le_of_lt hpos, .inl hpos⟩

/-- What a clause adds is not negative. Where there is nothing to divide by, zero stands for the quotient. -/
theorem amount_nonneg_of_inRange (hln : ∀ x, 1 < x → 0 < ln x) (hw : weights.InRange)
    (h : store.Counted config) {clause : Clause} {hit : DocId × Exact ln}
    (hmem : hit ∈ hits (Index.build store config) weights clause) :
    0 ≤ (amount (Index.build store config) weights clause hit).value := by
  have hfrequency := (frequency_of_mem_hits h hmem).1
  have hsaturation := hw.saturation_nonneg
  have hidf : 0 < (idf (Index.build store config : Index (Exact ln)).documentCount.toNat
      (hits (Index.build store config) weights clause).length : Exact ln).value := by
    apply idf_pos hln
    rw [Index.documentCount_build h.size_lt]
    exact length_hits_build_le config store weights clause
  rw [amount_eq_div, Exact.value_div]
  apply div_nonneg
  · simp only [numerator, Exact.value_mul, Exact.value_add, Exact.value_ofNat, Nat.cast_one]
    positivity
  · rw [denominator, Exact.value_add]
    exact add_nonneg hfrequency (norm_nonneg hw _ _)

/-- What a clause adds is well defined and not negative. -/
theorem amount_nonneg (hln : ∀ x, 1 < x → 0 < ln x) (hw : weights.Sensible)
    (h : store.Counted config) {clause : Clause} {hit : DocId × Exact ln}
    (hmem : hit ∈ hits (Index.build store config) weights clause) :
    0 < (denominator (Index.build store config) weights hit).value ∧
      0 ≤ (amount (Index.build store config) weights clause hit).value := by
  obtain ⟨hf, hpos⟩ := frequency_of_mem_hits h hmem
  exact ⟨denominator_pos hw.inRange hw.saturation_pos hf hpos,
    amount_nonneg_of_inRange hln hw.inRange h hmem⟩

theorem nonnegative_tally (hln : ∀ x, 1 < x → 0 < ln x) (hw : weights.InRange)
    (h : store.Counted config) (query : Query) :
    Nonnegative (tally (Index.build store config) weights query) := by
  rw [tally]
  -- clause by clause, and hit by hit within a clause
  refine List.foldlRecOn (motive := Nonnegative) query.clauses _ ?_ ?_
  · intro entry hentry
    cases hentry
  · intro tallies htallies clause _
    rw [tallyClause_eq]
    refine List.foldlRecOn (motive := Nonnegative) _ _ htallies ?_
    intro tallies htallies hit hhit
    exact htallies.add (amount_nonneg_of_inRange hln hw h hhit) hit.1 clause.terms

/-- The sum of a result is not negative. -/
theorem sum_nonneg_of_mem_rank (hln : ∀ x, 1 < x → 0 < ln x) (hw : weights.InRange)
    (h : store.Counted config) {query : Query} {r : Ranked (Exact ln)}
    (hr : r ∈ rank (Index.build store config) weights store query) :
    0 ≤ r.sum.value ∧ r.score = score r.matched r.sum := by
  rw [rank_eq, List.mem_mergeSort, found, List.mem_filterMap] at hr
  obtain ⟨⟨n, t⟩, hentry, hranked⟩ := hr
  obtain ⟨d, -, rfl⟩ := Option.map_eq_some_iff.1 hranked
  exact ⟨nonnegative_tally hln hw h query (n, t) (List.mem_filter.1 hentry).1, rfl⟩

/-- A score tells how many clauses a result matches. -/
theorem score_of_mem_rank (hln : ∀ x, 1 < x → 0 < ln x) (hw : weights.Sensible)
    (h : store.Counted config) {query : Query} {r : Ranked (Exact ln)}
    (hr : r ∈ rank (Index.build store config) weights store query) :
    (r.matched : ℝ) ≤ r.score.value ∧ r.score.value < r.matched + 1 := by
  obtain ⟨hsum, hscore⟩ := sum_nonneg_of_mem_rank hln hw.inRange h hr
  rw [hscore]
  exact score_bounds r.matched hsum

/-- A result comes before the results that match fewer clauses. -/
theorem pairwise_matched_rank (hln : ∀ x, 1 < x → 0 < ln x) (hw : weights.Sensible)
    (h : store.Counted config) (query : Query) :
    (rank (Index.build store config) weights store query).Pairwise fun a b => b.matched ≤ a.matched := by
  refine List.Pairwise.imp_of_mem ?_ pairwise_outranks_rank
  intro a b ha hb hab
  have hle : b.score.value ≤ a.score.value := by
    rcases hab with hgt | ⟨heq, -⟩
    · exact le_of_lt (compare_gt_iff_gt.1 hgt)
    · exact ge_of_eq (compare_eq_iff_eq.1 heq)
  have hbelow : (b.matched : ℝ) < a.matched + 1 :=
    calc (b.matched : ℝ) ≤ b.score.value := (score_of_mem_rank hln hw h hb).1
      _ ≤ a.score.value := hle
      _ < a.matched + 1 := (score_of_mem_rank hln hw h ha).2
  exact Nat.lt_succ_iff.1 (by exact_mod_cast hbelow)

end Ranking

/-- Matching more clauses always wins. In the snapshot of a store, with sensible weights and a logarithm
that is positive above one, what each clause adds for a document is divided by a positive number and not
negative; a score lies in the unit interval that begins at the number of matched clauses; and a result
that matches more clauses than another one stands strictly before it. -/
theorem more_matches_first [Text.CharacterTable] {ln : ℝ → ℝ} (hln : ∀ x, 1 < x → 0 < ln x)
    {config : Config (Exact ln)} (hw : config.weights.Sensible) {store : Store}
    (h : store.Counted config.tokenizer) (builtAt : UInt64) (fingerprint : Option UInt64)
    (query : Query) :
    let snapshot := Snapshot.build store config builtAt fingerprint
    (∀ clause ∈ query.clauses, ∀ hit ∈ Ranking.hits snapshot.index config.weights clause,
      0 < (Ranking.denominator snapshot.index config.weights hit).value ∧
        0 ≤ (Ranking.amount snapshot.index config.weights clause hit).value) ∧
    (∀ r ∈ snapshot.ranking query,
      (r.matched : ℝ) ≤ r.score.value ∧ r.score.value < r.matched + 1) ∧
    ∀ (i j : Nat) (a b : Ranked (Exact ln)), (snapshot.ranking query)[i]? = some a →
      (snapshot.ranking query)[j]? = some b → b.matched < a.matched → i < j := by
  intro snapshot
  have hranking : snapshot.ranking query = [] ∨ snapshot.ranking query =
      Ranking.rank (Index.build store config.tokenizer) config.weights store query :=
    snapshot.ranking_cases query
  refine ⟨?_, ?_, ?_⟩
  · intro clause _ hit hhit
    exact Ranking.amount_nonneg hln hw h hhit
  · intro r hr
    rcases hranking with hnil | hrank
    · rw [hnil] at hr
      cases hr
    · rw [hrank] at hr
      exact Ranking.score_of_mem_rank hln hw h hr
  · intro i j a b ha hb hmatched
    have hpairwise : (snapshot.ranking query).Pairwise fun a b => b.matched ≤ a.matched := by
      rcases hranking with hnil | hrank
      · rw [hnil]
        exact List.Pairwise.nil
      · rw [hrank]
        exact Ranking.pairwise_matched_rank hln hw h query
    obtain ⟨hi, rfl⟩ := List.getElem?_eq_some_iff.1 ha
    obtain ⟨hj, rfl⟩ := List.getElem?_eq_some_iff.1 hb
    -- in an ordered list an earlier place has no fewer matches, so b cannot stand at or before a
    apply Nat.lt_of_not_le
    intro hle
    rcases Nat.lt_or_eq_of_le hle with hlt | rfl
    · have hless := List.pairwise_iff_getElem.1 hpairwise j i hj hi hlt
      omega
    · exact Nat.lt_irrefl _ hmatched

namespace Exact

/-- A function that is positive above one, and negative below. -/
def sampleLog (x : ℝ) : ℝ :=
  x - 1

/-- The length counts in full, and occurrences in a title do not count. -/
def sampleConfig : Config (Exact sampleLog) :=
  { weights := ⟨⟨1⟩, ⟨1⟩, ⟨0⟩⟩ }

theorem sampleLog_pos (x : ℝ) (h : 1 < x) : 0 < sampleLog x :=
  sub_pos.2 h

theorem sensible_sample : sampleConfig.weights.Sensible where
  saturation_pos := one_pos
  lengthNorm_nonneg := zero_le_one
  lengthNorm_le_one := le_refl 1
  titleWeight_nonneg := le_refl 0

end Exact

/-- A document that matches one clause of two does not come before one that matches both. -/
theorem more_matches_first_sample :
    (∀ x, 1 < x → 0 < Exact.sampleLog x) ∧ Exact.sampleConfig.weights.Sensible ∧
      Index.sampleStore.Counted Exact.sampleConfig.tokenizer ∧
      let query : Query := ⟨[.term "a", .phrase ["a", "a"]], .any⟩
      let snapshot := Snapshot.build Index.sampleStore Exact.sampleConfig 0 none
      (∀ clause ∈ query.clauses, ∀ hit ∈ Ranking.hits snapshot.index Exact.sampleConfig.weights clause,
        0 < (Ranking.denominator snapshot.index Exact.sampleConfig.weights hit).value ∧
          0 ≤ (Ranking.amount snapshot.index Exact.sampleConfig.weights clause hit).value) ∧
      (∀ r ∈ snapshot.ranking query,
        (r.matched : ℝ) ≤ r.score.value ∧ r.score.value < r.matched + 1) ∧
      ∀ (i j : Nat) (a b : Ranked (Exact Exact.sampleLog)), (snapshot.ranking query)[i]? = some a →
        (snapshot.ranking query)[j]? = some b → b.matched < a.matched → i < j :=
  ⟨Exact.sampleLog_pos, Exact.sensible_sample, Index.fits_sample.counted,
    more_matches_first Exact.sampleLog_pos Exact.sensible_sample Index.fits_sample.counted 0 none
      ⟨[.term "a", .phrase ["a", "a"]], .any⟩⟩

end Concordance
