import Concordance.Proofs.ExactScores
import Mathlib.Analysis.SpecialFunctions.Log.Basic

/-!
# Where scores are defined

The ranking formulas divide by two numbers that depend on documents and weights: what a clause adds is divided by
its frequency and a share of the length of the document, and the score divides the sum of a document by one more
than this sum. While occurrences count and the length counts between not at all and fully, the second number is
never zero. The first one is zero where neither the length nor the occurrences of a term count.
-/

namespace Concordance

variable {ln : ℝ → ℝ}

/-- No number below a line is zero when a query is answered. -/
def Snapshot.ScoresDefined [Text.CharacterTable] (snapshot : Snapshot (Exact ln)) (query : Query) : Prop :=
  (∀ clause ∈ query.clauses, ∀ hit ∈ Ranking.hits snapshot.index snapshot.config.weights clause,
    (Ranking.denominator snapshot.index snapshot.config.weights hit).value ≠ 0) ∧
  ∀ r ∈ snapshot.ranking query, 1 + r.sum.value ≠ 0

variable [Text.CharacterTable] {config : TokenizerConfig} {store : Store}

/-- How often a term occurs in a document; an occurrence in the title counts with a weight. -/
noncomputable def Document.weightedCount (config : TokenizerConfig) (titleWeight : ℝ) (t : String)
    (d : Document) : ℝ :=
  (config.terms d.body).count t + titleWeight * (config.terms d.title).count t

/-- A term of a document counts where the title does. -/
theorem Document.weightedCount_pos {titleWeight : ℝ} (hw : 0 < titleWeight) {t : String} {d : Document}
    (h : t ∈ config.terms d.title ∨ t ∈ config.terms d.body) : 0 < d.weightedCount config titleWeight t := by
  rw [weightedCount]
  rcases h with htitle | hbody
  · have hcount : 0 < (config.terms d.title).count t := List.count_pos_iff.2 htitle
    positivity
  · have hcount : 0 < (config.terms d.body).count t := List.count_pos_iff.2 hbody
    positivity

namespace Ranking

variable {weights : Weights (Exact ln)} {t : String}

omit [Text.CharacterTable] in
/-- Occurrences in the title are counted once and weighted for the rest; a negative sum counts as zero. -/
theorem value_weightedFrequency (weights : Weights (Exact ln)) (frequency titleFrequency : Nat) :
    (weightedFrequency weights frequency titleFrequency).value =
      max (frequency + (weights.titleWeight.value - 1) * titleFrequency) 0 := by
  rw [weightedFrequency, Scalar.atLeastZero]
  split
  · next hpos => simpa using (max_eq_left (le_of_lt ((Exact.isPositive_iff _).1 hpos))).symm
  · next hneg =>
    rw [Exact.isPositive_iff, not_lt] at hneg
    simpa using hneg

/-- The frequency of a posting is the weighted count, or zero where that is negative. -/
theorem frequency_of_posting? (h : store.Counted config) {x : DocId × Document} (hx : x ∈ store.numbered)
    {p : Posting} (hp : Index.posting? config t x = some p) :
    (weightedFrequency weights p.frequency.toNat p.titleFrequency.toNat).value =
      max (x.2.weightedCount config weights.titleWeight.value t) 0 := by
  have hbound := h.total_lt x.2 (Store.mem_documents_of_mem_numbered hx)
  have htitle := List.count_le_length (a := t) (l := config.terms x.2.title)
  have hbody := List.count_le_length (a := t) (l := config.terms x.2.body)
  rw [Index.termTotal] at hbound
  rw [Index.posting?] at hp
  split at hp
  · cases hp
  · cases hp
    rw [value_weightedFrequency, Document.weightedCount]
    simp only [Index.posting, List.length_map, Index.length_placesOf]
    rw [UInt32.toNat_ofNat_of_lt' (show _ < 2 ^ 32 by omega),
      UInt32.toNat_ofNat_of_lt' (show _ < 2 ^ 32 by omega)]
    push_cast
    congr 1
    ring

/-- The frequencies of a term are not zero where it counts in every document that it occurs in. -/
theorem frequencies_ne_zero_iff (h : store.Counted config) :
    (∀ hit ∈ hits (Index.build store config) weights (.term t), hit.2.value ≠ 0) ↔
      ∀ d ∈ store.documents, t ∈ config.terms d.title ∨ t ∈ config.terms d.body →
        0 < d.weightedCount config weights.titleWeight.value t := by
  simp only [hits, List.mem_map, Index.postings_build, List.mem_filterMap]
  constructor
  · intro hne d hd hoccurs
    rw [← store.map_snd_numbered] at hd
    obtain ⟨x, hx, rfl⟩ := List.mem_map.1 hd
    obtain ⟨p, hp⟩ := Index.exists_posting?_iff.2 hoccurs
    have hfrequency := hne _ ⟨p, ⟨x, hx, hp⟩, rfl⟩
    rw [frequency_of_posting? h hx hp] at hfrequency
    by_contra hle
    exact hfrequency (max_eq_right (not_lt.1 hle))
  · rintro hpos _ ⟨p, ⟨x, hx, hp⟩, rfl⟩
    have hcount := hpos x.2 (Store.mem_documents_of_mem_numbered hx) (Index.exists_posting?_iff.1 ⟨p, hp⟩)
    rw [frequency_of_posting? h hx hp, max_eq_left (le_of_lt hcount)]
    exact ne_of_gt hcount

/-- While a frequency or the length of the document counts, every clause divides by a positive number. -/
theorem denominator_pos_of_saturation (hw : weights.InRange) (hs : 0 < weights.saturation.value)
    (h : store.Counted config) {clause : Clause} {hit : DocId × Exact ln}
    (hmem : hit ∈ hits (Index.build store config) weights clause) :
    0 < (denominator (Index.build store config) weights hit).value := by
  obtain ⟨hfrequency, hpos⟩ := frequency_of_mem_hits h hmem
  exact denominator_pos hw hs hfrequency hpos

omit [Text.CharacterTable] in
/-- Where occurrences do not count, the frequency alone stands below the line. -/
theorem denominator_of_saturation_eq_zero (hs : weights.saturation.value = 0) (index : Index (Exact ln))
    (hit : DocId × Exact ln) : (denominator index weights hit).value = hit.2.value := by
  rw [denominator, Exact.value_add, value_norm, hs, zero_mul, add_zero]

/-- The numbers that the clauses of a query divide by. -/
theorem denominators_ne_zero_iff (hw : weights.InRange) (h : store.Counted config) (query : Query) :
    (∀ clause ∈ query.clauses, ∀ hit ∈ hits (Index.build store config) weights clause,
      (denominator (Index.build store config) weights hit).value ≠ 0) ↔
    0 < weights.saturation.value ∨
      ∀ t, .term t ∈ query.clauses → ∀ d ∈ store.documents,
        t ∈ config.terms d.title ∨ t ∈ config.terms d.body →
          0 < d.weightedCount config weights.titleWeight.value t := by
  rcases hw.saturation_nonneg.lt_or_eq with hs | hs
  · exact iff_of_true (fun _ _ _ hhit => ne_of_gt (denominator_pos_of_saturation hw hs h hhit)) (.inl hs)
  · simp only [denominator_of_saturation_eq_zero hs.symm]
    rw [or_iff_right (ne_of_lt · hs)]
    constructor
    · intro hne t ht
      exact (frequencies_ne_zero_iff h).1 (hne _ ht)
    · intro hpos clause hclause
      cases clause with
      | term t => exact (frequencies_ne_zero_iff h).2 (hpos t hclause)
      | phrase ts => exact fun hit hhit => ne_of_gt (frequency_pos_of_phrase hhit)

end Ranking

/-- The score of a result divides by a positive number. -/
theorem Snapshot.one_add_sum_pos (hln : ∀ x, 1 < x → 0 < ln x) {config : Config (Exact ln)}
    (hw : config.weights.InRange) (h : store.Counted config.tokenizer) {builtAt : UInt64}
    {fingerprint : Option UInt64} {query : Query} {r : Ranked (Exact ln)}
    (hr : r ∈ (build store config builtAt fingerprint).ranking query) : 0 < 1 + r.sum.value := by
  rcases (build store config builtAt fingerprint).ranking_cases query with hnil | hrank
  · rw [hnil] at hr
    cases hr
  · rw [hrank] at hr
    have hsum := (Ranking.sum_nonneg_of_mem_rank hln hw h hr).1
    linarith

/-- Where a search divides by zero. Let the saturation be zero or more, and let the length count between not at all
and fully. In the snapshot of a store the scores of a query are then defined exactly if the saturation is positive,
or if each term of the query counts in every document that it occurs in. Where titles have no weight, a term
does not count in a document that has it in the title alone; where they have a positive weight, all scores are
defined. -/
theorem Snapshot.scoresDefined_iff (hln : ∀ x, 1 < x → 0 < ln x) {config : Config (Exact ln)}
    (hw : config.weights.InRange) (h : store.Counted config.tokenizer) (builtAt : UInt64)
    (fingerprint : Option UInt64) (query : Query) :
    ((build store config builtAt fingerprint).ScoresDefined query ↔
      0 < config.weights.saturation.value ∨
      ∀ t, .term t ∈ query.clauses → ∀ d ∈ store.documents,
        t ∈ config.tokenizer.terms d.title ∨ t ∈ config.tokenizer.terms d.body →
          0 < d.weightedCount config.tokenizer config.weights.titleWeight.value t) ∧
    (0 < config.weights.titleWeight.value → (build store config builtAt fingerprint).ScoresDefined query) := by
  have hscores : ∀ r ∈ (build store config builtAt fingerprint).ranking query, 1 + r.sum.value ≠ 0 :=
    fun r hr => ne_of_gt (one_add_sum_pos hln hw h hr)
  have hiff := Ranking.denominators_ne_zero_iff hw h query
  refine ⟨⟨fun hdefined => hiff.1 hdefined.1, fun hcounts => ⟨hiff.2 hcounts, hscores⟩⟩, fun htitle => ?_⟩
  exact ⟨hiff.2 (.inr fun t _ d _ => Document.weightedCount_pos htitle), hscores⟩

end Concordance

namespace Concordance.Unicode

open Text

/-- Neither further occurrences nor the title count. -/
noncomputable def binary : Config (Exact Real.log) :=
  { weights := ⟨⟨0⟩, ⟨3 / 4⟩, ⟨0⟩⟩ }

theorem inRange_binary : binary.weights.InRange where
  saturation_nonneg := le_refl 0
  lengthNorm_nonneg := by norm_num [binary]
  lengthNorm_le_one := by norm_num [binary]

/-- A document that has its one term in the title. -/
def headed : Store :=
  ⟨[⟨"a", "a", "", "a.md"⟩], by decide, by decide⟩

theorem terms_binary : binary.tokenizer.terms "a" = ["a"] ∧ binary.tokenizer.terms "" = [] :=
  ⟨terms_a, terms_empty⟩

theorem parse_a : Query.parse binary.tokenizer "a" .any false = .ok ⟨[.term "a"], .any⟩ := by
  have hterms : binary.tokenizer.terms (String.ofList ['a']) = ["a"] := terms_a
  have hpieces : Text.splitAt '"' "a".toList = [['a']] := by decide
  rw [Query.parse, if_neg (by decide), if_neg (by decide), hpieces]
  simp [Plan.readPieces, settled_a.words_eq, Plan.readWord, hterms]
  decide

/-- The term is not counted, and nothing else stands below the line. -/
theorem not_scoresDefined_headed :
    Query.parse binary.tokenizer "a" .any false = .ok ⟨[.term "a"], .any⟩ ∧
      headed.Counted binary.tokenizer ∧
      ¬(Snapshot.build headed binary 0 none).ScoresDefined ⟨[.term "a"], .any⟩ := by
  obtain ⟨hterms, hempty⟩ := terms_binary
  have hcounted : headed.Counted binary.tokenizer := by
    refine ⟨by decide, fun d hd => ?_⟩
    obtain rfl := List.mem_singleton.1 hd
    rw [Index.termTotal, hterms, hempty]
    decide
  refine ⟨parse_a, hcounted, fun hdefined => ?_⟩
  rcases (Ranking.denominators_ne_zero_iff inRange_binary hcounted _).1 hdefined.1 with hs | hpos
  · exact lt_irrefl 0 hs
  · have hcount := hpos "a" List.mem_cons_self _ List.mem_cons_self (.inl (hterms ▸ List.mem_cons_self))
    simp [Document.weightedCount, binary] at hcount

/-- With the same settings scores are defined where every document has the term in its body. -/
theorem scoresDefined_iff_sample :
    (∀ x, 1 < x → 0 < Real.log x) ∧ binary.weights.InRange ∧ Index.sampleStore.Counted binary.tokenizer ∧
      (Snapshot.build Index.sampleStore binary 0 none).ScoresDefined ⟨[.term "a"], .any⟩ := by
  have hcounted : Index.sampleStore.Counted binary.tokenizer := Index.fits_sample.counted
  refine ⟨fun x => Real.log_pos, inRange_binary, hcounted,
    (Snapshot.scoresDefined_iff (fun x => Real.log_pos) inRange_binary hcounted 0 none _).1.2 (.inr ?_)⟩
  intro t ht d hd _
  obtain rfl : t = "a" := by simpa using ht
  have hbody : d.body = "a" := by
    rw [Index.sampleStore, List.mem_cons, List.mem_singleton] at hd
    rcases hd with rfl | rfl <;> rfl
  rw [Document.weightedCount, hbody, terms_binary.1]
  simp [binary]

end Concordance.Unicode
