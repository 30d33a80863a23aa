import Concordance.Proofs.Mentions
import Concordance.Proofs.Terms

/-!
# Which clauses are planned

The clauses of a query are told from what its text mentions: the distinct terms in the order in which they
are first mentioned, without the stop words that are dropped, and then the distinct phrases. A stop word is
dropped if it is not quoted anywhere and something else than unquoted stop words is mentioned, wherever
that stands in the text.
-/

namespace Concordance

open Text

/-! ### What is planned -/

namespace Mention

/-- Nothing but stop words is mentioned, and none of them is quoted. -/
def OnlyStopWords (mentions : List Mention) : Prop :=
  mentions.filterMap phrase? = [] ∧ mentions.filterMap quoted? = [] ∧
    ∀ t ∈ mentions.filterMap free?, isStopWord t = true

instance (mentions : List Mention) : Decidable (OnlyStopWords mentions) :=
  inferInstanceAs (Decidable (_ ∧ _ ∧ _))

/-- The terms that are asked for, each once and in the order in which they are first mentioned: without
the stop words that are not quoted somewhere, unless only stop words are mentioned. -/
def kept (mentions : List Mention) : List String :=
  let terms := (mentions.filterMap term?).eraseDups
  if OnlyStopWords mentions then terms
  else terms.filter fun t => t ∈ mentions.filterMap quoted? ∨ isStopWord t = false

variable {mentions : List Mention} {t : String}

theorem nodup_kept (mentions : List Mention) : (kept mentions).Nodup := by
  rw [kept]
  split
  · exact nodup_eraseDups _
  · exact (nodup_eraseDups _).filter _

theorem mem_kept_iff :
    t ∈ kept mentions ↔ t ∈ mentions.filterMap term? ∧
      (OnlyStopWords mentions ∨ t ∈ mentions.filterMap quoted? ∨ isStopWord t = false) := by
  rw [kept]
  split
  · next h => rw [List.mem_eraseDups, and_iff_left (.inl h)]
  · next h => rw [List.mem_filter, List.mem_eraseDups, decide_eq_true_eq, or_iff_right h]

/-- If no term is asked for and no phrase, then nothing is mentioned. -/
theorem eq_nil_of_kept_eq_nil (hphrases : mentions.filterMap phrase? = []) (h : kept mentions = []) :
    mentions.filterMap free? = [] ∧ mentions.filterMap quoted? = [] := by
  have hnone (t : String) : t ∉ kept mentions := by
    rw [h]
    exact List.not_mem_nil
  have hquoted : mentions.filterMap quoted? = [] := List.eq_nil_iff_forall_not_mem.2 fun t ht =>
    hnone t (mem_kept_iff.2 ⟨mem_terms_iff.2 (.inr ht), .inr (.inl ht)⟩)
  have honly : OnlyStopWords mentions := by
    refine ⟨hphrases, hquoted, fun t ht => ?_⟩
    by_contra hstop
    exact hnone t (mem_kept_iff.2 ⟨mem_terms_iff.2 (.inl ht), .inr (.inr (by simpa using hstop))⟩)
  exact ⟨List.eq_nil_iff_forall_not_mem.2 fun t ht =>
    hnone t (mem_kept_iff.2 ⟨mem_terms_iff.2 (.inl ht), .inl honly⟩), hquoted⟩

theorem kept_eq_nil (hfree : mentions.filterMap free? = []) (hquoted : mentions.filterMap quoted? = []) :
    kept mentions = [] := by
  refine List.eq_nil_iff_forall_not_mem.2 fun t ht => ?_
  have hterm := mem_terms_iff.1 (mem_kept_iff.1 ht).1
  rw [hfree, hquoted, or_self] at hterm
  exact List.not_mem_nil hterm

end Mention

namespace Plan

theorem hasContent_eq_false_iff {plan : Plan} :
    plan.hasContent = false ↔
      plan.phrases = [] ∧ plan.quoted = [] ∧ ∀ t ∈ plan.terms, isStopWord t = true := by
  simp [hasContent, and_assoc]

/-- What a plan holds after some mentions and nothing else. -/
theorem foldl_take_start (mentions : List Mention) (mode : MatchMode) :
    mentions.foldl take { mode := mode } =
      { mode := if .all ∈ mentions then .all else mode
        terms := (mentions.filterMap Mention.term?).eraseDups
        quoted := (mentions.filterMap Mention.quoted?).eraseDups
        phrases := (mentions.filterMap Mention.phrase?).eraseDups.map .phrase } := by
  have hphrase : Function.Injective Clause.phrase := fun a b h => Clause.phrase.inj h
  rw [foldl_take, foldl_addNew, foldl_addNew, foldl_addNew, eraseDups_map hphrase]

/-- There is nothing but stop words in a plan if nothing else was mentioned. -/
theorem hasContent_foldl_take (mentions : List Mention) (mode : MatchMode) :
    (mentions.foldl take { mode := mode }).hasContent = false ↔ Mention.OnlyStopWords mentions := by
  rw [hasContent_eq_false_iff, foldl_take_start]
  simp only [List.map_eq_nil_iff, eraseDups_eq_nil_iff, List.mem_eraseDups, Mention.OnlyStopWords]
  refine and_congr_right fun _ => and_congr_right fun hquoted => ?_
  simp only [Mention.mem_terms_iff, hquoted, List.not_mem_nil, or_false]

/-- The terms of a plan that become clauses. -/
theorem keptTerms_foldl_take (mentions : List Mention) (mode : MatchMode) :
    (mentions.foldl take { mode := mode }).keptTerms = Mention.kept mentions := by
  have hcontent := hasContent_foldl_take mentions mode
  rw [keptTerms, Mention.kept]
  split
  · next h =>
    rw [if_neg fun honly => absurd h (by simp [hcontent.2 honly]), foldl_take_start]
    refine List.filter_congr fun t _ => ?_
    rw [Bool.eq_iff_iff]
    simp
  · next h =>
    rw [if_pos (hcontent.1 (by simpa using h)), foldl_take_start]

/-- The query that some mentions make up. -/
theorem query_foldl_take (mentions : List Mention) (mode : MatchMode) :
    (mentions.foldl take { mode := mode }).query =
      { clauses := (Mention.kept mentions).map .term ++
          (mentions.filterMap Mention.phrase?).eraseDups.map .phrase
        mode := if .all ∈ mentions then .all else mode } := by
  rw [query, keptTerms_foldl_take, foldl_take_start]

end Plan

/-- No clause is planned twice. -/
theorem Plan.nodup_clauses (mentions : List Mention) :
    ((Mention.kept mentions).map Clause.term ++
      (mentions.filterMap Mention.phrase?).eraseDups.map Clause.phrase).Nodup := by
  refine List.nodup_append'.2 ⟨?_, ?_, ?_⟩
  · exact (Mention.nodup_kept mentions).map fun a b h => Clause.term.inj h
  · exact (nodup_eraseDups _).map fun a b h => Clause.phrase.inj h
  · intro clause hterm hphrase
    obtain ⟨t, -, rfl⟩ := List.mem_map.1 hterm
    obtain ⟨ts, -, hts⟩ := List.mem_map.1 hphrase
    cases hts

/-- A balanced text is planned to the terms that it mentions, each once and in the order in which they are
first mentioned, and then the phrases. Stop words that are not quoted anywhere are left out, unless
nothing but such stop words is mentioned. All clauses are asked for if that is the mode or a bare `AND`
stands in the text. The terms of a text outside quotation marks are those of its words. -/
theorem clauses_of_mentions (config : TokenizerConfig) {text : String}
    (h : text.toList.count '"' % 2 = 0) (mode : MatchMode) :
    let mentions := Mention.ofText config text.toList
    let free := mentions.filterMap Mention.free?
    let quoted := mentions.filterMap Mention.quoted?
    let phrases := mentions.filterMap Mention.phrase?
    ∃ query terms, Query.parse config text mode false = .ok query ∧
      query.clauses = terms.map .term ++ phrases.eraseDups.map .phrase ∧ query.clauses.Nodup ∧
      terms = (if phrases = [] ∧ quoted = [] ∧ ∀ t ∈ free, isStopWord t = true then
          (mentions.filterMap Mention.term?).eraseDups
        else (mentions.filterMap Mention.term?).eraseDups.filter fun t =>
          t ∈ quoted ∨ isStopWord t = false) ∧
      (query.isEmpty = true ↔ free = [] ∧ quoted = [] ∧ phrases = []) ∧
      (∀ ts, .phrase ts ∈ query.clauses → 2 ≤ ts.length) ∧
      (query.mode = .all ↔ mode = .all ∨ HasBareAnd text.toList) ∧
      ∀ piece : List Char, config.terms (String.ofList piece) =
        (words piece).flatMap fun word => config.terms (String.ofList word) := by
  intro mentions free quoted phrases
  have hparse := Query.parse_of_balanced config h mode
  rw [Plan.query_foldl_take] at hparse
  refine ⟨_, Mention.kept mentions, hparse, rfl, Plan.nodup_clauses mentions, rfl, ?_, ?_, ?_, ?_⟩
  · rw [Query.isEmpty, List.isEmpty_iff, List.append_eq_nil_iff, List.map_eq_nil_iff, List.map_eq_nil_iff,
      eraseDups_eq_nil_iff]
    constructor
    · rintro ⟨hkept, hphrases⟩
      obtain ⟨hfree, hquoted⟩ := Mention.eq_nil_of_kept_eq_nil hphrases hkept
      exact ⟨hfree, hquoted, hphrases⟩
    · rintro ⟨hfree, hquoted, hphrases⟩
      exact ⟨Mention.kept_eq_nil hfree hquoted, hphrases⟩
  · exact fun ts hts => Query.two_le_length_of_mem hparse hts
  · rw [Mention.hasBareAnd_iff config]
    split
    · next hall => exact iff_of_true rfl (.inr hall)
    · next hall => exact (or_iff_left hall).symm
  · exact TokenizerConfig.terms_eq_flatMap_words fun c => Unicode.isWordChar_of_isBlank

theorem ofText_sample :
    Mention.ofText Config.standard.tokenizer "a \"a\"".toList = [.free "a", .quoted "a"] := by
  have hpieces : Text.splitAt '"' "a \"a\"".toList = [['a', ' '], ['a'], []] := by decide
  have hwords : words ['a', ' '] = [['a']] ∧ words [] = [] := by simp [words, runsOf, isBlank]
  have hterms : Config.standard.tokenizer.terms (String.ofList ['a']) = ["a"] := Unicode.terms_a
  rw [Mention.ofText, hpieces]
  simp [Mention.ofPieces, Mention.ofWord, Mention.ofQuoted, hwords, hterms]

/-- The stop word `a` is kept, for it is quoted once. -/
theorem clauses_of_mentions_sample :
    "a \"a\"".toList.count '"' % 2 = 0 ∧
      ∃ query, Query.parse Config.standard.tokenizer "a \"a\"" .any false = .ok query ∧
        query.clauses = [.term "a"] := by
  have hbalanced : "a \"a\"".toList.count '"' % 2 = 0 := by decide
  obtain ⟨query, terms, hparse, hclauses, -, hterms, -⟩ :=
    clauses_of_mentions Config.standard.tokenizer hbalanced .any
  refine ⟨hbalanced, query, hparse, ?_⟩
  rw [hclauses, hterms, ofText_sample]
  decide

end Concordance
