import Concordance.Proofs.CharacterLaws
import Concordance.Proofs.TextRuns
import Concordance.Proofs.UnicodeLaws

/-!
# Terms stay as they are

A term that the tokenizer gives is a settled word: it is made of characters of runs, begins and ends
with characters that are not joiners, is long enough, and normalizing leaves it alone. A text that holds
a settled word and nothing else that runs are made of has this word as its only term; so tokenizing a
term gives this term (`tokenize_term`).
-/

namespace Concordance

open Text

variable [CharacterTable]

/-- A word that the tokenizer does not change any more. -/
structure Settled (config : TokenizerConfig) (word : List Char) : Prop where
  keeps : config.keeps word = true
  isRunChar : ∀ c ∈ word, isRunChar c = true
  trimmed : trimBy isJoiner word = word
  isLowered : ∀ c ∈ word, IsLowered c
  isPlain : config.foldsDiacritics = true → ∀ c ∈ word, IsPlain c

variable {config : TokenizerConfig} {word : List Char}

theorem Settled.ne_nil (h : Settled config word) : word ≠ [] := by
  have hkeeps := h.keeps
  rw [TokenizerConfig.keeps, Bool.and_eq_true, Bool.not_eq_true', List.isEmpty_eq_false_iff]
    at hkeeps
  exact hkeeps.1

/-! ### Every term is settled -/

@[simp] theorem mem_placeMark {c d : Char} {before : List Char} :
    d ∈ placeMark c before ↔ d = c ∨ d ∈ before := by
  induction before with
  | nil => simp [placeMark]
  | cons e rest ih =>
      rw [placeMark]
      split
      · rw [List.mem_cons, ih, List.mem_cons]
        exact or_left_comm
      · exact List.mem_cons

@[simp] theorem mem_orderMarks {d : Char} {cs : List Char} : d ∈ orderMarks cs ↔ d ∈ cs := by
  have hfold (before : List Char) :
      d ∈ cs.foldl (fun before c => placeMark c before) before ↔ d ∈ before ∨ d ∈ cs := by
    induction cs generalizing before with
    | nil => simp
    | cons c rest ih =>
        rw [List.foldl_cons, ih, mem_placeMark, List.mem_cons, or_assoc, or_left_comm]
  rw [orderMarks, List.mem_reverse, hfold]
  simp

theorem mem_withoutMarks {d : Char} {cs : List Char} (h : d ∈ withoutMarks cs) :
    isMark d = false ∧ ∃ c ∈ cs, d ∈ CharacterTable.decompose c := by
  obtain ⟨hmem, hmark⟩ := List.mem_filter.1 h
  rw [decomposed, mem_orderMarks, List.mem_flatMap] at hmem
  exact ⟨by simpa using hmark, hmem⟩

section Lawful

variable [LawfulCharacters]

open LawfulCharacters

theorem isLowered_of_mem_normalize {c : Char} (h : c ∈ config.normalize word) : IsLowered c := by
  rw [TokenizerConfig.normalize] at h
  split at h
  · exact isLowered_of_mem_lower h
  · exact isLowered_of_mem_lower h

theorem isPlain_of_mem_normalize (hfolds : config.foldsDiacritics = true) {c : Char}
    (h : c ∈ config.normalize word) : IsPlain c := by
  rw [TokenizerConfig.normalize, if_pos hfolds] at h
  obtain ⟨d, hd, hc⟩ := mem_lower h
  obtain ⟨hmark, e, -, hdecompose⟩ := mem_withoutMarks hd
  exact isPlain_of_mem hdecompose hmark hc

/-- The terms of a word are settled. -/
theorem settled_of_mem_termsOfWord {term : List Char} (h : term ∈ config.termsOfWord word) :
    Settled config term := by
  obtain ⟨hmem, hkeeps⟩ := List.mem_filter.1 h
  obtain ⟨piece, hpiece, rfl⟩ := List.mem_map.1 hmem
  have hpieces := mem_of_mem_splitBy hpiece
  -- trimming takes characters away and adds none
  have hsub : ∀ c ∈ trimBy isJoiner piece, c ∈ piece :=
    fun c hc => (infix_trimBy isJoiner piece).subset hc
  refine ⟨hkeeps, ?_, trimBy_trimBy isJoiner piece, ?_, ?_⟩
  · intro c hc
    simpa using (hpieces c (hsub c hc)).2
  · exact fun c hc => isLowered_of_mem_normalize (hpieces c (hsub c hc)).1
  · exact fun hfolds c hc => isPlain_of_mem_normalize hfolds (hpieces c (hsub c hc)).1

/-- The terms of a text are settled. -/
theorem settled_of_mem_terms {text term : String} (h : term ∈ config.terms text) :
    Settled config term.toList := by
  rw [TokenizerConfig.terms_eq] at h
  obtain ⟨⟨chars, run⟩, hmem, rfl⟩ := List.mem_map.1 h
  obtain ⟨run', -, hrun⟩ := List.mem_flatMap.1 hmem
  rw [TokenizerConfig.termsOfRun] at hrun
  split at hrun
  · cases hrun
  · obtain ⟨chars', hchars, heq⟩ := List.mem_map.1 hrun
    cases heq
    rw [String.toList_ofList]
    exact settled_of_mem_termsOfWord hchars

/-! ### A settled word is its own only term -/

/-- A text without marks has none to be ordered. -/
theorem orderMarks_of_isPlain {cs : List Char} (h : ∀ c ∈ cs, IsPlain c) : orderMarks cs = cs := by
  -- only marks are moved to the front
  have hplace {c : Char} (hc : IsPlain c) (before : List Char) :
      placeMark c before = c :: before := by
    cases before with
    | nil => rfl
    | cons d before =>
        have hclass : CharacterTable.combiningClass c = 0 := combiningClass_of_not_isMark hc.2
        rw [placeMark, if_neg fun hcond => hcond.1 hclass]
  have hfold (before : List Char) :
      cs.foldl (fun before c => placeMark c before) before = cs.reverse ++ before := by
    induction cs generalizing before with
    | nil => rfl
    | cons c rest ih =>
        rw [List.foldl_cons, hplace (h c List.mem_cons_self),
          ih fun d hd => h d (List.mem_cons_of_mem _ hd)]
        simp
  rw [orderMarks, hfold]
  simp

theorem withoutMarks_of_isPlain {cs : List Char} (h : ∀ c ∈ cs, IsPlain c) :
    withoutMarks cs = cs := by
  have hdecompose : cs.flatMap CharacterTable.decompose = cs := by
    have hmap := List.flatMap_congr fun c hc => (h c hc).1
    rw [hmap]
    exact List.flatMap_singleton' cs
  rw [withoutMarks, decomposed, hdecompose, orderMarks_of_isPlain h, List.filter_eq_self]
  exact fun c hc => by simp [(h c hc).2]

/-- A settled word is not changed by normalization. -/
theorem Settled.normalize_eq (h : Settled config word) : config.normalize word = word := by
  rw [TokenizerConfig.normalize]
  split
  · next hfolds =>
      rw [withoutMarks_of_isPlain (h.isPlain hfolds)]
      exact lower_of_isLowered h.isLowered
  · exact lower_of_isLowered h.isLowered

theorem Settled.termsOfWord_eq (h : Settled config word) : config.termsOfWord word = [word] := by
  have hnone : ∀ c ∈ word, (!Text.isRunChar c) = false := fun c hc => by simp [h.isRunChar c hc]
  rw [TokenizerConfig.termsOfWord, h.normalize_eq, splitBy_of_none hnone, List.map_singleton,
    h.trimmed, List.filter_cons_of_pos h.keeps, List.filter_nil]

end Lawful

section Lawful

variable [LawfulCharacters]

/-- A text with a settled word and nothing else that runs are made of has this word as its term. -/
theorem Settled.terms_eq (h : Settled config word) {before after : List Char}
    (hbefore : ∀ c ∈ before, Text.isRunChar c = false)
    (hafter : ∀ c ∈ after, Text.isRunChar c = false) :
    config.terms (String.ofList (before ++ word ++ after)) = [String.ofList word] := by
  rw [TokenizerConfig.terms_eq_map_termsIn, String.toList_ofList,
    TokenizerConfig.termsIn_append_separators hafter, TokenizerConfig.termsIn_separators_append hbefore,
    TokenizerConfig.termsIn_of_all h.isRunChar, h.trimmed, h.termsOfWord_eq]
  rfl

theorem Settled.terms_word (h : Settled config word) :
    config.terms (String.ofList word) = [String.ofList word] := by
  have hnone : ∀ c ∈ ([] : List Char), Text.isRunChar c = false := by simp
  have hterms := h.terms_eq hnone hnone
  simpa using hterms

/-! ### Characters of settled words -/

open LawfulCharacters

theorem isBlank_of_isRunChar {c : Char} (h : isRunChar c = true) : isBlank c = false := by
  by_contra hblank
  rw [isRunChar_of_isBlank (fun c => isWordChar_of_isBlank) (by simpa using hblank)] at h
  cases h

theorem isRunChar_quote : isRunChar '"' = false := by
  rw [isRunChar, isWordChar_quote]
  decide

theorem isRunChar_space : isRunChar ' ' = false := by
  rw [Bool.eq_false_iff]
  intro h
  exact absurd (isBlank_of_isRunChar h) (by decide)

namespace Settled

theorem quote_not_mem (h : Settled config word) : '"' ∉ word := fun hmem => by
  have hrun := h.isRunChar _ hmem
  rw [isRunChar_quote] at hrun
  cases hrun

theorem words_eq (h : Settled config word) : words word = [word] := by
  apply runsOf_of_all h.ne_nil
  intro c hc
  simp [isBlank_of_isRunChar (h.isRunChar c hc)]

/-- A settled word is in lower case, so it is no operator. -/
theorem ne_operator (h : Settled config word) : word ≠ "AND".toList ∧ word ≠ "OR".toList := by
  constructor
  · rintro rfl
    exact not_isLowered_A (h.isLowered 'A' (by decide))
  · rintro rfl
    exact not_isLowered_O (h.isLowered 'O' (by decide))

end Settled

/-- Whatever the characters are, if they keep the laws, a term of a text is its own only term. -/
theorem TokenizerConfig.tokenize_of_mem {text t : String} {position : UInt32}
    (h : (t, position) ∈ config.tokenize text) : config.tokenize t = [(t, 0)] := by
  obtain ⟨span, hspan, hpair⟩ := List.mem_map.1 h
  have hmem : t ∈ config.terms text := by
    cases hpair
    exact List.mem_map_of_mem hspan
  have hterms := (settled_of_mem_terms hmem).terms_word
  rw [String.ofList_toList] at hterms
  rw [tokenize_eq, hterms]
  rfl

end Lawful

@[simp] theorem terms_empty : config.terms "" = [] := by
  rw [TokenizerConfig.terms_eq, show "".toList = [] by decide, runsFrom]
  rfl

end Concordance

namespace Concordance.Unicode

open Text

set_option maxRecDepth 100000 in
theorem contains_a : alphabetic.contains 0x61 = true ∧ lowercase.imageOf 0x61 = [0x61] := by
  decide +kernel

theorem settled_a : Settled Config.standard.tokenizer ['a'] where
  keeps := by decide
  isRunChar c hc := by
    obtain rfl := List.mem_singleton.1 hc
    rw [Text.isRunChar, Text.isWordChar, isAlphabetic_eq, Table.holds]
    simp only [Bool.or_eq_true]
    exact .inl (.inl (.inl contains_a.1))
  trimmed := by decide
  isLowered c hc := by
    obtain rfl := List.mem_singleton.1 hc
    exact ⟨by decide, image_of_imageOf_eq_self contains_a.2⟩
  isPlain := by simp [Config.standard]

/-- In the usual settings `a` is a term, though it is a stop word. -/
theorem terms_a : Config.standard.tokenizer.terms "a" = ["a"] :=
  settled_a.terms_word

def folding : TokenizerConfig := { foldsDiacritics := true }

set_option maxRecDepth 100000 in
theorem termsOfWord_half :
    isRunChar '½' = true ∧ folding.termsOfWord ['½'] = [['1'], ['2']] := by
  decide +kernel

/-- The sign for a half is folded to two terms with one stretch of the text. -/
theorem spans_half :
    folding.spans "½" = [⟨"1", 0, ⟨0, 0⟩, ⟨2, 1⟩⟩, ⟨"2", 1, ⟨0, 0⟩, ⟨2, 1⟩⟩] := by
  have hruns : runsFrom .start "½".toList = [⟨.start, ['½']⟩] := by
    rw [show "½".toList = ['½'] by decide]
    simp [runsFrom, termsOfWord_half.1]
  have hrun : folding.termsOfRun ⟨.start, ['½']⟩ =
      [(['1'], ⟨.start, ['½']⟩), (['2'], ⟨.start, ['½']⟩)] := by
    have htrimmed : (⟨.start, ['½']⟩ : Run).trimmed = ⟨.start, ['½']⟩ := rfl
    rw [TokenizerConfig.termsOfRun, htrimmed]
    simp only [termsOfWord_half.2]
    rfl
  rw [TokenizerConfig.spans, TokenizerConfig.spansOf, hruns, List.flatMap_singleton, hrun]
  rfl

/-- Tokenizing a term of a text gives this term again and nothing else, at the first position. -/
theorem tokenize_term {config : TokenizerConfig} {text t : String} {position : UInt32}
    (h : (t, position) ∈ config.tokenize text) : config.tokenize t = [(t, 0)] :=
  TokenizerConfig.tokenize_of_mem h

/-- Neither of the two terms brings back the sign. -/
theorem tokenize_term_sample :
    ("2", 1) ∈ folding.tokenize "½" ∧ folding.tokenize "2" = [("2", 0)] := by
  have hmem : ("2", 1) ∈ folding.tokenize "½" := by
    rw [TokenizerConfig.tokenize, spans_half]
    simp
  exact ⟨hmem, tokenize_term hmem⟩

end Concordance.Unicode
