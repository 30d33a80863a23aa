import Concordance.Proofs.PlannedClauses

/-!
# Queries that are written out

A query can be written out as a text: its clauses by their labels, a whole text as one phrase by putting
it between quotation marks. Planning what is written gives the query back.
-/

namespace Concordance

open Text

/-! ### A text as one phrase -/

/-- The characters of a text, with spaces for its quotation marks. -/
def Query.spaced (text : String) : List Char :=
  text.toList.map fun c => if c = '"' then ' ' else c

def Query.quote (text : String) : String :=
  "\"" ++ String.ofList (Query.spaced text) ++ "\""

theorem Query.quote_not_mem_spaced (text : String) : '"' ∉ Query.spaced text := by
  intro hmem
  obtain ⟨c, -, hc⟩ := List.mem_map.1 hmem
  split at hc
  · cases hc
  · next hne => exact hne hc

theorem Query.toList_quote (text : String) :
    (Query.quote text).toList = '"' :: (Query.spaced text ++ ['"']) := by
  simp [Query.quote]

section Quote

variable [CharacterTable] (config : TokenizerConfig)

/-- A text as a phrase asks for what it mentions between quotation marks. -/
theorem Query.ofPhrase_eq (mode : MatchMode) (text : String) :
    Query.ofPhrase config mode text =
      ((Mention.ofQuoted config (Query.spaced text)).foldl Plan.take { mode := mode }).query := by
  have hphrase : Query.ofPhrase config mode text =
      ⟨(Clause.ofTerms? (config.terms (String.ofList (Query.spaced text)))).toList, mode⟩ := rfl
  rw [hphrase, Mention.ofQuoted]
  cases config.terms (String.ofList (Query.spaced text)) with
  | nil => rfl
  | cons t ts =>
    cases ts with
    | nil => exact (Plan.query_quoted_term t mode).symm
    | cons s ts => rfl

theorem Query.ofText_quote (text : String) :
    Mention.ofText config (Query.quote text).toList = Mention.ofQuoted config (Query.spaced text) := by
  rw [Query.toList_quote, Mention.ofText_quoted config (Query.quote_not_mem_spaced text),
    Mention.ofText_nil, List.append_nil]

/-- A text in quotes is planned as a phrase. -/
theorem Query.parse_quote (mode : MatchMode) (text : String) :
    Query.parse config (Query.quote text) mode false = .ok (Query.ofPhrase config mode text) := by
  have hnone : (Query.spaced text).count '"' = 0 :=
    List.count_eq_zero.2 (Query.quote_not_mem_spaced text)
  have hbalanced : (Query.quote text).toList.count '"' % 2 = 0 := by
    rw [Query.toList_quote, List.count_cons_self, List.count_append, hnone]
    rfl
  rw [Query.parse_of_balanced config hbalanced, Query.ofText_quote, Query.ofPhrase_eq]

/-- Asking for a text as a phrase is quoting it: both are planned to one query, and every snapshot answers
both in one way. -/
theorem parse_phrase_eq_quote (text : String) (mode : MatchMode) :
    (∃ query, Query.parse config text mode true = .ok query ∧
      Query.parse config (Query.quote text) mode false = .ok query) ∧
    ∀ {α : Type} [Scalar α] (snapshot : Snapshot α) (limit : Nat),
      snapshot.search text ⟨limit, mode, true⟩ = snapshot.search (Query.quote text) ⟨limit, mode, false⟩ := by
  refine ⟨⟨_, rfl, Query.parse_quote config mode text⟩, ?_⟩
  intro α _ snapshot limit
  have hparse : Query.parse snapshot.config.tokenizer text mode true =
      Query.parse snapshot.config.tokenizer (Query.quote text) mode false :=
    (Query.parse_quote snapshot.config.tokenizer mode text).symm
  rw [Snapshot.search, Snapshot.search, hparse]

end Quote

/-! ### Clauses by their labels -/

/-- What a clause mentions where it is written out. -/
def Clause.mention : Clause → Mention
  | .term t => .free t
  | .phrase ts => .phrase ts

def labels (clauses : List Clause) : List Char :=
  [' '].intercalate (clauses.map fun clause => clause.label.toList)

@[simp] theorem labels_singleton (clause : Clause) : labels [clause] = clause.label.toList := by
  simp [labels]

theorem labels_cons_cons (clause next : Clause) (clauses : List Clause) :
    labels (clause :: next :: clauses) = clause.label.toList ++ ' ' :: labels (next :: clauses) := by
  simp [labels]

section Labels

variable [CharacterTable] {config : TokenizerConfig}

/-- The clause is made of terms that the tokenizer gives. -/
structure Clause.Settled (config : TokenizerConfig) (clause : Clause) : Prop where
  term : ∀ t ∈ clause.terms, Concordance.Settled config t.toList
  phrase : ∀ ts, clause = .phrase ts → 2 ≤ ts.length

variable [LawfulCharacters] {clause : Clause} {words : List (List Char)}

theorem Settled.termsIn_eq {word : List Char} (h : Settled config word) : config.termsIn word = [word] := by
  rw [TokenizerConfig.termsIn_of_all h.isRunChar, h.trimmed, h.termsOfWord_eq]

/-- Settled words with spaces between them are the terms of the text that they make up. -/
theorem termsIn_intercalate (h : ∀ word ∈ words, Settled config word) :
    config.termsIn ([' '].intercalate words) = words := by
  induction words with
  | nil => exact TokenizerConfig.termsIn_nil
  | cons word words ih =>
    have hword : Settled config word := h word List.mem_cons_self
    cases words with
    | nil => rw [List.intercalate_singleton, hword.termsIn_eq]
    | cons next words =>
      rw [List.intercalate_cons_cons, List.append_assoc, List.singleton_append,
        TokenizerConfig.termsIn_append_separator isRunChar_space, hword.termsIn_eq,
        ih fun w hw => h w (List.mem_cons_of_mem _ hw)]
      rfl

theorem quote_not_mem_intercalate (h : ∀ word ∈ words, Settled config word) :
    '"' ∉ [' '].intercalate words :=
  not_mem_intercalate (by decide) fun word hword => (h word hword).quote_not_mem

/-! ### What labels mention -/

namespace Mention

/-- Settled terms between quotation marks are mentioned as a phrase. -/
theorem ofQuoted_of_settled {ts : List String} (hlength : 2 ≤ ts.length)
    (h : ∀ t ∈ ts, Settled config t.toList) :
    ofQuoted config ([' '].intercalate (ts.map String.toList)) = [.phrase ts] := by
  have hterms : config.terms (String.ofList ([' '].intercalate (ts.map String.toList))) = ts := by
    rw [TokenizerConfig.terms_eq_map_termsIn, String.toList_ofList,
      termsIn_intercalate (by simpa using h), List.map_map]
    simp [Function.comp_def]
  rw [ofQuoted, hterms]
  obtain ⟨s, ts, rfl⟩ := List.exists_cons_of_length_pos (Nat.lt_of_lt_of_le Nat.zero_lt_two hlength)
  obtain ⟨s', ts, rfl⟩ := List.exists_cons_of_length_pos (Nat.le_of_succ_le_succ hlength)
  rfl

/-- What follows a phrase does not change what it mentions. -/
theorem ofText_phrase_label {ts : List String} (h : (Clause.phrase ts).Settled config) (rest : List Char) :
    ofText config ((Clause.phrase ts).label.toList ++ rest) = .phrase ts :: ofText config rest := by
  have hterms : ∀ t ∈ ts, Settled config t.toList := h.term
  have hchars : (Clause.phrase ts).label.toList ++ rest =
      '"' :: ([' '].intercalate (ts.map String.toList) ++ '"' :: rest) := by
    simp [Clause.label]
  rw [hchars, ofText_quoted config (quote_not_mem_intercalate (by simpa using hterms)),
    ofQuoted_of_settled (h.phrase ts rfl) hterms]
  rfl

/-- The label of a clause mentions the clause and nothing else. -/
theorem ofText_label (h : clause.Settled config) :
    ofText config clause.label.toList = [clause.mention] := by
  cases clause with
  | term t =>
    have ht : Settled config t.toList := h.term t List.mem_cons_self
    rw [Clause.label, ofText_of_no_quote config ht.quote_not_mem, ofWord_of_settled ht,
      String.ofList_toList]
    rfl
  | phrase ts =>
    have hlabel := ofText_phrase_label h []
    rwa [List.append_nil, ofText_nil] at hlabel

/-- A label with a space behind it is read as its own clause. -/
theorem ofText_label_append (h : clause.Settled config) (rest : List Char) :
    ofText config (clause.label.toList ++ ' ' :: rest) = clause.mention :: ofText config rest := by
  cases clause with
  | term t =>
    have ht : Settled config t.toList := h.term t List.mem_cons_self
    rw [Clause.label, ofText_append_blank config ht.quote_not_mem (by decide), ofWord_of_settled ht,
      String.ofList_toList]
    rfl
  | phrase ts => rw [ofText_phrase_label h, ofText_blank config (by decide), Clause.mention]

end Mention

/-- Quotation marks come in pairs in a label. -/
theorem balanced_label (h : clause.Settled config) : clause.label.toList.count '"' % 2 = 0 := by
  cases clause with
  | term t =>
    have ht : Settled config t.toList := h.term t List.mem_cons_self
    rw [Clause.label, List.count_eq_zero.2 ht.quote_not_mem]
  | phrase ts =>
    have hterms : ∀ t ∈ ts, Settled config t.toList := h.term
    have hnone : '"' ∉ [' '].intercalate (ts.map String.toList) :=
      quote_not_mem_intercalate (by simpa using hterms)
    simp [Clause.label, List.count_eq_zero.2 hnone]

/-- Every label opens as many quotation marks as it closes. -/
theorem balanced_labels :
    {clauses : List Clause} → (∀ clause ∈ clauses, clause.Settled config) →
      (labels clauses).count '"' % 2 = 0
  | [], _ => rfl
  | [clause], h => by
    rw [labels_singleton]
    exact balanced_label (h clause List.mem_cons_self)
  | clause :: next :: clauses, h => by
    have hclause := balanced_label (h clause List.mem_cons_self)
    have hrest := balanced_labels fun c hc => h c (List.mem_cons_of_mem clause hc)
    rw [labels_cons_cons, List.count_append, List.count_cons_of_ne (by decide)]
    omega

/-- The labels of clauses mention the clauses in order. -/
theorem Mention.ofText_labels :
    {clauses : List Clause} → (∀ clause ∈ clauses, clause.Settled config) →
      ofText config (labels clauses) = clauses.map Clause.mention
  | [], _ => ofText_nil config
  | [clause], h => by
    rw [labels_singleton, ofText_label (h clause List.mem_cons_self)]
    rfl
  | clause :: next :: clauses, h => by
    rw [labels_cons_cons, ofText_label_append (h clause List.mem_cons_self),
      ofText_labels fun c hc => h c (List.mem_cons_of_mem clause hc)]
    rfl

end Labels

/-! ### What is planned is settled -/

section Planned

variable [CharacterTable] {config : TokenizerConfig} {mention : Mention} {t : String}

namespace Mention

def terms : Mention → List String
  | .all => []
  | .free t => [t]
  | .quoted t => [t]
  | .phrase ts => ts

theorem mem_terms_of_mem_ofWord {word : List Char} (h : mention ∈ ofWord config word)
    (ht : t ∈ mention.terms) : t ∈ config.terms (String.ofList word) := by
  rw [ofWord] at h
  split at h
  · rw [List.mem_singleton.1 h] at ht
    cases ht
  · split at h
    · cases h
    · obtain ⟨s, hs, rfl⟩ := List.mem_map.1 h
      rwa [List.mem_singleton.1 ht]

theorem mem_terms_of_mem_ofQuoted {text : List Char} (h : mention ∈ ofQuoted config text)
    (ht : t ∈ mention.terms) : t ∈ config.terms (String.ofList text) := by
  rw [ofQuoted] at h
  cases hterms : config.terms (String.ofList text) with
  | nil =>
    rw [hterms] at h
    cases h
  | cons s ts =>
    rw [hterms] at h
    cases ts with
    | nil => rwa [List.mem_singleton.1 h] at ht
    | cons s' ts => rwa [List.mem_singleton.1 h] at ht

variable [LawfulCharacters]

/-- What a text mentions is made of terms of the tokenizer. -/
theorem settled_of_mem_ofPieces {inside : Bool} {pieces : List (List Char)}
    (h : mention ∈ ofPieces config inside pieces) (ht : t ∈ mention.terms) :
    Settled config t.toList := by
  induction pieces generalizing inside with
  | nil => cases h
  | cons piece pieces ih =>
    cases inside with
    | true =>
      rw [ofPieces_inside, List.mem_append] at h
      exact h.elim (fun hmem => settled_of_mem_terms (mem_terms_of_mem_ofQuoted hmem ht)) ih
    | false =>
      rw [ofPieces_outside, List.mem_append, List.mem_flatMap] at h
      exact h.elim (fun ⟨_, _, hmem⟩ => settled_of_mem_terms (mem_terms_of_mem_ofWord hmem ht)) ih

end Mention

omit [CharacterTable] in
theorem Mention.mem_terms_of_term? (h : mention.term? = some t) : t ∈ mention.terms := by
  cases mention with
  | all => cases h
  | free s => exact List.mem_singleton.2 (Option.some.inj h).symm
  | quoted s => exact List.mem_singleton.2 (Option.some.inj h).symm
  | phrase ts => cases h

omit [CharacterTable] in
theorem Mention.terms_of_phrase? {ts : List String} (h : mention.phrase? = some ts) :
    mention.terms = ts := by
  cases mention with
  | all => cases h
  | free s => cases h
  | quoted s => cases h
  | phrase us => exact Option.some.inj h

variable {text : String} {mode : MatchMode} {asPhrase : Bool} {query : Query}

/-- Every query is made up by the mentions of some text. -/
theorem Query.exists_mentions_of_parse (h : Query.parse config text mode asPhrase = .ok query) :
    ∃ cs, query = ((Mention.ofText config cs).foldl Plan.take { mode := mode }).query := by
  rw [Query.parse] at h
  split at h
  · cases h
    exact ⟨(Query.quote text).toList, by rw [Query.ofText_quote, Query.ofPhrase_eq]⟩
  · split at h
    · cases h
    · cases h
      exact ⟨text.toList, by rw [Plan.readPieces_eq]; rfl⟩

/-- A query asks for different terms first and then for different phrases. -/
theorem Query.exists_clauses_eq (h : Query.parse config text mode asPhrase = .ok query) :
    ∃ (terms : List String) (phrases : List (List String)), terms.Nodup ∧ phrases.Nodup ∧
      query.clauses = terms.map Clause.term ++ phrases.map Clause.phrase := by
  obtain ⟨cs, rfl⟩ := Query.exists_mentions_of_parse h
  rw [Plan.query_foldl_take]
  exact ⟨_, _, Mention.nodup_kept _, nodup_eraseDups _, rfl⟩

/-- The clauses of a query are settled. -/
theorem Query.settled_of_mem [LawfulCharacters] (h : Query.parse config text mode asPhrase = .ok query)
    {clause : Clause} (hmem : clause ∈ query.clauses) : clause.Settled config := by
  obtain ⟨cs, heq⟩ := Query.exists_mentions_of_parse h
  refine ⟨fun t ht => ?_, fun ts hts => Query.two_le_length_of_mem h (hts ▸ hmem)⟩
  rw [heq, Plan.query_foldl_take] at hmem
  rcases List.mem_append.1 hmem with hterm | hphrase
  · obtain ⟨s, hs, rfl⟩ := List.mem_map.1 hterm
    obtain rfl : t = s := List.mem_singleton.1 ht
    obtain ⟨mention, hmention, hsome⟩ := List.mem_filterMap.1 (Mention.mem_kept_iff.1 hs).1
    exact Mention.settled_of_mem_ofPieces hmention (Mention.mem_terms_of_term? hsome)
  · obtain ⟨ts, hts, rfl⟩ := List.mem_map.1 hphrase
    obtain ⟨mention, hmention, hsome⟩ := List.mem_filterMap.1 (List.mem_eraseDups.1 hts)
    have hterms : t ∈ mention.terms := by
      rw [Mention.terms_of_phrase? hsome]
      exact ht
    exact Mention.settled_of_mem_ofPieces hmention hterms

end Planned

/-! ### Taking up what is written -/

section Written

variable {terms : List String} {phrases : List (List String)}

/-- What labels of terms and phrases mention. -/
def Mention.written (terms : List String) (phrases : List (List String)) : List Mention :=
  terms.map .free ++ phrases.map .phrase

theorem Clause.map_mention (terms : List String) (phrases : List (List String)) :
    (terms.map Clause.term ++ phrases.map Clause.phrase).map Clause.mention =
      Mention.written terms phrases := by
  simp [Mention.written, Clause.mention, Function.comp_def]

namespace Mention

theorem filterMap_written (terms : List String) (phrases : List (List String)) :
    (written terms phrases).filterMap term? = terms ∧ (written terms phrases).filterMap free? = terms ∧
      (written terms phrases).filterMap quoted? = [] ∧
      (written terms phrases).filterMap phrase? = phrases ∧ .all ∉ written terms phrases := by
  simp [written, List.filterMap_append, List.filterMap_map, Function.comp_def, term?, free?, quoted?,
    phrase?]

/-- All terms are kept if none is a stop word or nothing else is asked for. -/
theorem kept_written (hterms : terms.Nodup)
    (hstop : (∀ t ∈ terms, isStopWord t = false) ∨ phrases = [] ∧ ∀ t ∈ terms, isStopWord t = true) :
    kept (written terms phrases) = terms := by
  obtain ⟨hterm, hfree, hquoted, hphrase, -⟩ := filterMap_written terms phrases
  rw [kept, hterm, eraseDups_of_nodup hterms]
  rcases hstop with hcontent | hstops
  · split
    · rfl
    · rw [List.filter_eq_self]
      exact fun t ht => by simp [hcontent t ht]
  · rw [if_pos]
    rw [OnlyStopWords, hphrase, hquoted, hfree]
    exact ⟨hstops.1, rfl, hstops.2⟩

end Mention

/-- Terms and phrases, each once, are planned from what their labels mention. -/
theorem Plan.query_written (hterms : terms.Nodup) (hphrases : phrases.Nodup) (mode : MatchMode)
    (hstop : (∀ t ∈ terms, isStopWord t = false) ∨ phrases = [] ∧ ∀ t ∈ terms, isStopWord t = true) :
    ((Mention.written terms phrases).foldl Plan.take { mode := mode }).query =
      ⟨terms.map .term ++ phrases.map .phrase, mode⟩ := by
  obtain ⟨-, -, -, hphrase, hall⟩ := Mention.filterMap_written terms phrases
  rw [Plan.query_foldl_take, Mention.kept_written hterms hstop, hphrase, eraseDups_of_nodup hphrases,
    if_neg hall]

end Written

/-- The labels of a query, with spaces between them, are planned to the query again, if no stop word is a
term of it or if its clauses are all of them stop words. -/
theorem parse_labels {config : TokenizerConfig} {text : String} {mode : MatchMode} {asPhrase : Bool}
    {query : Query} (h : Query.parse config text mode asPhrase = .ok query)
    (hstop : (∀ t, .term t ∈ query.clauses → isStopWord t = false) ∨
      ∀ clause ∈ query.clauses, ∃ t, clause = .term t ∧ isStopWord t = true) :
    Query.parse config (" ".intercalate (query.clauses.map Clause.label)) query.mode false = .ok query := by
  have hsettled : ∀ clause ∈ query.clauses, clause.Settled config := fun _ => Query.settled_of_mem h
  have hchars : (" ".intercalate (query.clauses.map Clause.label)).toList = labels query.clauses := by
    simp [labels, Function.comp_def]
  have hbalanced : (" ".intercalate (query.clauses.map Clause.label)).toList.count '"' % 2 = 0 := by
    rw [hchars]
    exact balanced_labels hsettled
  rw [Query.parse_of_balanced config hbalanced, hchars, Mention.ofText_labels hsettled]
  obtain ⟨terms, phrases, hterms, hphrases, hclauses⟩ := Query.exists_clauses_eq h
  -- the condition on the clauses, as the planner asks it of the terms and the phrases
  have hstop' : (∀ t ∈ terms, isStopWord t = false) ∨
      phrases = [] ∧ ∀ t ∈ terms, isStopWord t = true := by
    rw [hclauses] at hstop
    rcases hstop with hcontent | hstops
    · exact .inl fun t ht => hcontent t (List.mem_append_left _ (List.mem_map_of_mem ht))
    · refine .inr ⟨List.eq_nil_iff_forall_not_mem.2 fun ts hts => ?_, fun t ht => ?_⟩
      · obtain ⟨t, heq, -⟩ := hstops _ (List.mem_append_right _ (List.mem_map_of_mem hts))
        cases heq
      · obtain ⟨s, heq, hs⟩ := hstops _ (List.mem_append_left _ (List.mem_map_of_mem ht))
        rwa [Clause.term.inj heq]
  rw [hclauses, Clause.map_mention, Plan.query_written hterms hphrases _ hstop', ← hclauses]

/-- A phrase of stop words, asked for without quotation marks, is written with them. -/
theorem parse_labels_sample :
    Query.parse Config.standard.tokenizer "a a" .any true = .ok ⟨[.phrase ["a", "a"]], .any⟩ ∧
      Query.parse Config.standard.tokenizer "\"a a\"" .any false = .ok ⟨[.phrase ["a", "a"]], .any⟩ := by
  have hterms : Config.standard.tokenizer.terms (String.ofList (Query.spaced "a a")) = ["a", "a"] := by
    have hwords : Query.spaced "a a" = [' '].intercalate [['a'], ['a']] := by decide
    rw [hwords, TokenizerConfig.terms_eq_map_termsIn, String.toList_ofList,
      termsIn_intercalate (by simpa using Unicode.settled_a)]
    rfl
  have hparse : Query.parse Config.standard.tokenizer "a a" .any true =
      .ok ⟨[.phrase ["a", "a"]], .any⟩ := by
    rw [Query.parse, if_pos rfl, Query.ofPhrase_eq, Mention.ofQuoted, hterms]
    rfl
  have hlabels : " ".intercalate ([Clause.phrase ["a", "a"]].map Clause.label) = "\"a a\"" := by decide
  have hlabelled := parse_labels hparse (.inl (by simp))
  rw [hlabels] at hlabelled
  exact ⟨hparse, hlabelled⟩

end Concordance
