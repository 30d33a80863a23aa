import Concordance.Proofs.Mentions
import Concordance.Proofs.Scan
import Concordance.Proofs.Terms
import Concordance.Proofs.UnicodeLaws

/-!
# Every indexed term is found

A term of a document, typed as it stands or between quotation marks, is planned to the one clause that
asks for it, be it a stop word or not, and the search gives the documents that hold it.
-/

namespace Concordance

open Text

section Lawful

variable [CharacterTable] [LawfulCharacters] {config : TokenizerConfig} {word : List Char}

/-! ### Planning -/

namespace Settled

/-- There are no quotation marks to be replaced. -/
theorem map_spaced_eq (h : Settled config word) :
    word.map (fun c => if c = '"' then ' ' else c) = word := by
  conv_rhs => rw [← List.map_id word]
  refine List.map_congr_left fun c hc => if_neg ?_
  rintro rfl
  exact h.quote_not_mem hc

/-- A settled word is planned to the clause that asks for it. -/
theorem parse_eq (h : Settled config word) (mode : MatchMode) (asPhrase : Bool) :
    Query.parse config (String.ofList word) mode asPhrase =
      .ok ⟨[.term (String.ofList word)], mode⟩ := by
  cases asPhrase with
  | true =>
      rw [Query.parse, if_pos rfl, Query.ofPhrase, String.toList_ofList, h.map_spaced_eq, h.terms_word]
      rfl
  | false =>
      have hbalanced : (String.ofList word).toList.count '"' % 2 = 0 := by
        rw [String.toList_ofList, List.count_eq_zero_of_not_mem h.quote_not_mem]
      rw [Query.parse_of_balanced config hbalanced, String.toList_ofList,
        Mention.ofText_of_no_quote config h.quote_not_mem, Mention.ofWord_of_settled h]
      exact congrArg Except.ok (Plan.query_term _ mode)

/-- The same between quotation marks. -/
theorem parse_quoted_eq (h : Settled config word) (mode : MatchMode) (asPhrase : Bool) :
    Query.parse config (String.ofList ('"' :: word ++ ['"'])) mode asPhrase =
      .ok ⟨[.term (String.ofList word)], mode⟩ := by
  cases asPhrase with
  -- as a phrase the marks become spaces, which leave the one term
  | true =>
      have hspaced : ('"' :: word ++ ['"']).map (fun c => if c = '"' then ' ' else c) =
          [' '] ++ word ++ [' '] := by
        simp [h.map_spaced_eq]
      have hspace : ∀ c ∈ [' '], Text.isRunChar c = false := by simp [isRunChar_space]
      rw [Query.parse, if_pos rfl, Query.ofPhrase, String.toList_ofList, hspaced,
        h.terms_eq hspace hspace]
      rfl
  | false =>
      have hbalanced : (String.ofList ('"' :: word ++ ['"'])).toList.count '"' % 2 = 0 := by
        simp [List.count_eq_zero_of_not_mem h.quote_not_mem]
      have hmentions : Mention.ofText config ('"' :: (word ++ ['"'])) =
          [.quoted (String.ofList word)] := by
        rw [Mention.ofText_quoted config h.quote_not_mem, Mention.ofText_nil, Mention.ofQuoted, h.terms_word,
          List.append_nil]
      rw [Query.parse_of_balanced config hbalanced, String.toList_ofList, List.cons_append, hmentions]
      exact congrArg Except.ok (Plan.query_quoted_term _ mode)

/-- Both ways of asking for a term are planned to the clause that asks for it. -/
theorem parse_of_mem {t text : String} (h : Settled config t.toList)
    (htext : text ∈ [t, "\"" ++ t ++ "\""]) (mode : MatchMode) (asPhrase : Bool) :
    Query.parse config text mode asPhrase = .ok ⟨[.term t], mode⟩ := by
  rcases List.mem_cons.1 htext with rfl | htext
  · have hplain := h.parse_eq mode asPhrase
    rwa [String.ofList_toList] at hplain
  · have htoList : "\"" ++ t ++ "\"" = String.ofList ('"' :: t.toList ++ ['"']) := by
      apply String.toList_inj.1
      simp
    have hquoted := h.parse_quoted_eq mode asPhrase
    rwa [String.ofList_toList, ← htoList, ← List.mem_singleton.1 htext] at hquoted

end Settled

/-! ### Searching -/

variable {α : Type} [Scalar α] {settings : Config α} {store : Store}

omit [LawfulCharacters] in
/-- What is ranked for a term are the documents that hold it. -/
theorem map_id_ranking_perm (h : store.Fits settings.tokenizer) (t : String) (mode : MatchMode)
    (builtAt : UInt64) (fingerprint : Option UInt64) :
    (((Snapshot.build store settings builtAt fingerprint).ranking ⟨[.term t], mode⟩).map
        Ranked.id).Perm
      ((store.documents.filter fun d => Scan.holds settings.tokenizer d (.term t)).map
        Document.id) := by
  -- one clause: the two modes ask for the same documents
  have hanswers (x : DocId × Document) :
      Scan.answers settings.tokenizer ⟨[.term t], mode⟩ x.2 =
        Scan.holds settings.tokenizer x.2 (.term t) := by
    cases mode with
    | any => simp [Scan.answers]
    | all => simp [Scan.answers]
  have hids : ((store.numbered.filter fun x => Scan.holds settings.tokenizer x.2 (.term t)).map
      (Scan.ranked settings store.documents ⟨[.term t], mode⟩)).map Ranked.id =
      (store.documents.filter fun d => Scan.holds settings.tokenizer d (.term t)).map
        Document.id := by
    rw [List.map_map, ← store.map_snd_numbered, List.filter_map, List.map_map]
    rfl
  rw [Scan.ranking_build h _ (by simp [Scan.IsAsked]), Scan.ranking, ← hids]
  simp only [hanswers]
  exact (List.mergeSort_perm _ _).map _

omit [LawfulCharacters] in
/-- A search that may give all results gives the whole ranking. -/
theorem search_eq_ok {snapshot : Snapshot α} {text : String} {options : SearchOptions} {query : Query}
    (hlimit : options.limit ≠ 0)
    (hparse : Query.parse snapshot.config.tokenizer text options.mode options.asPhrase = .ok query)
    (hlength : (snapshot.ranking query).length ≤ options.limit) :
    snapshot.search text options =
      .ok ⟨snapshot.ranking query, (snapshot.ranking query).length, query,
        Ranking.overflows snapshot.index query⟩ := by
  rw [Snapshot.search, if_neg hlimit, hparse]
  simp only [Except.map, List.take_of_length_le hlength]

/-- Whatever the characters are, if they keep the laws, an indexed term is found. -/
theorem search_of_indexed (config : Config α) {documents : List Document}
    (hids : (documents.map Document.id).Nodup)
    (hcounted : Scan.Counted config.tokenizer documents) {d : Document} (hd : d ∈ documents)
    {t : String} (ht : t ∈ config.tokenizer.terms d.title ∨ t ∈ config.tokenizer.terms d.body) :
    ∃ store, Store.ofList documents = .ok store ∧
      ∀ text ∈ [t, "\"" ++ t ++ "\""], ∀ (mode : MatchMode) (asPhrase : Bool),
        Query.parse config.tokenizer text mode asPhrase = .ok ⟨[.term t], mode⟩ ∧
          ∀ (builtAt : UInt64) (fingerprint : Option UInt64) (limit : Nat),
            documents.length ≤ limit →
              ∃ outcome,
                (Snapshot.build store config builtAt fingerprint).search text
                  ⟨limit, mode, asPhrase⟩ = .ok outcome ∧
                (outcome.results.map Ranked.id).Perm
                  ((documents.filter fun d =>
                    t ∈ config.tokenizer.terms d.title ∨ t ∈ config.tokenizer.terms d.body).map
                      Document.id) := by
  have hne : documents ≠ [] := List.ne_nil_of_mem hd
  obtain ⟨store, hstore, hdocuments⟩ := Store.ofDocuments_ok "document list" hne hids
  have hperm : store.documents.Perm documents := hdocuments ▸ Store.sort_perm documents
  have hfits : store.Fits config.tokenizer := Scan.fits_of_perm hperm hcounted
  have hsettled : Settled config.tokenizer t.toList :=
    ht.elim settled_of_mem_terms settled_of_mem_terms
  refine ⟨store, hstore, fun text htext mode asPhrase => ?_⟩
  have hparse := hsettled.parse_of_mem htext mode asPhrase
  refine ⟨hparse, fun builtAt fingerprint limit hlimit => ?_⟩
  have hpos : limit ≠ 0 := by
    have := List.length_pos_of_ne_nil hne
    omega
  have hranking := map_id_ranking_perm hfits t mode builtAt fingerprint
  have hfound : ((store.documents.filter fun d => Scan.holds config.tokenizer d (.term t)).map
      Document.id).Perm ((documents.filter fun d =>
        t ∈ config.tokenizer.terms d.title ∨ t ∈ config.tokenizer.terms d.body).map
          Document.id) := by
    simp only [Scan.holds, ← Bool.decide_or]
    exact (hperm.filter _).map _
  -- no result is cut off
  have hlength : ((Snapshot.build store config builtAt fingerprint).ranking
      ⟨[.term t], mode⟩).length ≤ limit := by
    have hsame := (hranking.trans hfound).length_eq
    have hfilter := List.length_filter_le (fun d : Document =>
      decide (t ∈ config.tokenizer.terms d.title ∨ t ∈ config.tokenizer.terms d.body)) documents
    rw [List.length_map, List.length_map] at hsame
    omega
  exact ⟨_, search_eq_ok hpos hparse hlength, hranking.trans hfound⟩

end Lawful

/-- Every indexed term is found. For each term of the title or the body of some document, the term
itself and the term between quotation marks are planned to the clause that asks for it, as a phrase or
not and in either mode, and a search for it that may give as many results as there are documents gives
the documents that hold the term, each once. -/
theorem search_indexed_term {α : Type} [Scalar α] (config : Config α) {documents : List Document}
    (hids : (documents.map Document.id).Nodup)
    (hcounted : Scan.Counted config.tokenizer documents) {d : Document} (hd : d ∈ documents)
    {t : String} (ht : t ∈ config.tokenizer.terms d.title ∨ t ∈ config.tokenizer.terms d.body) :
    ∃ store, Store.ofList documents = .ok store ∧
      ∀ text ∈ [t, "\"" ++ t ++ "\""], ∀ (mode : MatchMode) (asPhrase : Bool),
        Query.parse config.tokenizer text mode asPhrase = .ok ⟨[.term t], mode⟩ ∧
          ∀ (builtAt : UInt64) (fingerprint : Option UInt64) (limit : Nat),
            documents.length ≤ limit →
              ∃ outcome,
                (Snapshot.build store config builtAt fingerprint).search text
                  ⟨limit, mode, asPhrase⟩ = .ok outcome ∧
                (outcome.results.map Ranked.id).Perm
                  ((documents.filter fun d =>
                    t ∈ config.tokenizer.terms d.title ∨ t ∈ config.tokenizer.terms d.body).map
                      Document.id) :=
  search_of_indexed config hids hcounted hd ht

/-- The stop word `a` is found in both documents that hold it. -/
theorem search_indexed_term_sample :
    (Scan.sample.map Document.id).Nodup ∧ Scan.Counted Config.standard.tokenizer Scan.sample ∧
      ∃ store, Store.ofList Scan.sample = .ok store ∧
        ∀ text ∈ ["a", "\"" ++ "a" ++ "\""], ∀ (mode : MatchMode) (asPhrase : Bool),
          Query.parse Config.standard.tokenizer text mode asPhrase = .ok ⟨[.term "a"], mode⟩ ∧
            ∀ (builtAt : UInt64) (fingerprint : Option UInt64) (limit : Nat),
              Scan.sample.length ≤ limit →
                ∃ outcome,
                  (Snapshot.build store Config.standard builtAt fingerprint).search text
                    ⟨limit, mode, asPhrase⟩ = .ok outcome ∧
                  (outcome.results.map Ranked.id).Perm
                    ((Scan.sample.filter fun d =>
                      "a" ∈ Config.standard.tokenizer.terms d.title ∨
                        "a" ∈ Config.standard.tokenizer.terms d.body).map Document.id) :=
  ⟨by decide, Scan.counted_sample,
    search_indexed_term Config.standard (d := ⟨"second", "a", "", "second.md"⟩) (by decide)
      Scan.counted_sample List.mem_cons_self (.inl (by rw [Unicode.terms_a]; simp))⟩

end Concordance
