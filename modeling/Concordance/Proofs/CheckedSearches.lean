import Concordance.Proofs.AcceptedIndexes
import Concordance.Proofs.Snippets
import Concordance.Proofs.Tiling
import Concordance.Proofs.WrittenQueries
import Concordance.Snapshot.Checked

/-!
# Which steps of a search can fail

Of the steps that a search looks at before it takes them, all but one kind can always be taken: a text is cut
where its runs and spans begin and end, a phrase of a query has a first list of postings, and the windows of
a snippet can be measured. What can go wrong is counting on from the last position of 32 bits, since an index
is accepted whatever its positions are; it happens exactly if a document has the first terms of a phrase, but
not all of them, up to that position.
-/

namespace Concordance

open Text

instance : Inhabited Misstep :=
  ⟨.first⟩

/-! ### Cutting texts -/

/-- Where a text is cut behind some characters, the cut goes through none. -/
theorem charsWithin?_append (before after : List Char) :
    charsWithin? (before ++ after) (encodeChars before).length = some before.length := by
  induction before with
  | nil => rw [encodeChars, List.flatMap_nil, List.length_nil, charsWithin?]; rfl
  | cons c rest ih =>
      have hbytes : (encodeChars (c :: rest)).length = c.utf8Size + (encodeChars rest).length := by
        rw [encodeChars, List.flatMap_cons, List.length_append, String.length_utf8EncodeChar, encodeChars]
      -- the search goes on byte by byte, and the first character takes at least one
      obtain ⟨size, hsize⟩ := Nat.exists_eq_succ_of_ne_zero (Nat.ne_of_gt c.utf8Size_pos)
      have hsucc : c.utf8Size + (encodeChars rest).length = size + (encodeChars rest).length + 1 := by omega
      rw [hbytes, hsucc, List.cons_append, charsWithin?, if_pos (by omega), ← hsucc,
        Nat.add_sub_cancel_left, ih]
      rfl

/-- Between two places of a text, the text can be cut at their bytes. -/
theorem cutBytes_eq {text before word after : List Char} {start stop : Place}
    (htext : text = before ++ word ++ after) (hstart : start = Place.start.after before)
    (hstop : stop = Place.start.after (before ++ word)) :
    cutBytes text start.byte stop.byte = .ok word := by
  have hbefore : charsWithin? text start.byte = some before.length := by
    rw [htext, hstart, Place.start_after, List.append_assoc, charsWithin?_append]
  have hbehind : charsWithin? text stop.byte = some (before ++ word).length := by
    rw [htext, hstop, Place.start_after, charsWithin?_append]
  have hle : start.byte ≤ stop.byte := by
    rw [hstart, hstop, Place.start_after, Place.start_after, encodeChars, encodeChars, List.flatMap_append,
      List.length_append]
    exact Nat.le_add_right _ _
  rw [cutBytes, hbefore, hbehind]
  simp only [if_pos hle, slice, htext]
  rw [List.take_left, List.drop_left]

variable [CharacterTable] {config : TokenizerConfig}

namespace TokenizerConfig

/-- The word of a run can be cut out of the text. -/
theorem checkedTermsOfRun_eq {text : List Char} {run : Run} (h : run ∈ runsFrom .start text) :
    config.checkedTermsOfRun text run = .ok (config.termsOfRun run) := by
  rw [checkedTermsOfRun, termsOfRun]
  split
  · rfl
  · next hne =>
      obtain ⟨before, after, htext, hstart, -⟩ := run.isTrimmedRun h (by simpa using hne)
      have hstop : run.trimmed.stop = Place.start.after (before ++ run.trimmed.chars) := by
        rw [Run.stop, hstart, Place.after_after]
      rw [cutBytes_eq htext hstart hstop]
      rfl

/-- Tokenizing takes no step that cannot be taken. -/
theorem checkedSpans_eq (config : TokenizerConfig) (text : String) :
    config.checkedSpans text = .ok (config.spans text) := by
  have hplaced : (runsFrom .start text.toList).mapM (config.checkedTermsOfRun text.toList) =
      .ok ((runsFrom .start text.toList).map config.termsOfRun) :=
    mapM_eq_ok fun run hrun => checkedTermsOfRun_eq hrun
  rw [checkedSpans, hplaced, ok_bind, ← List.flatMap_def]
  rfl

theorem checkedTerms_eq (config : TokenizerConfig) (text : String) :
    config.checkedTerms text = .ok (config.terms text) := by
  rw [checkedTerms, checkedSpans_eq]
  rfl

end TokenizerConfig

/-! ### Planning queries -/

namespace Plan

theorem checkedWord_eq (plan : Plan) (word : List Char) :
    plan.checkedWord config word = .ok (plan.readWord config word) := by
  rw [checkedWord, readWord, TokenizerConfig.checkedTerms_eq]
  split
  · rfl
  · split
    · rfl
    · rfl

/-- A quotation is cut where its terms are. -/
theorem checkedQuoted_eq (plan : Plan) (text : List Char) :
    plan.checkedQuoted config text = .ok (plan.readQuoted config text) := by
  rw [checkedQuoted, readQuoted, TokenizerConfig.checkedTerms_eq, ok_bind]
  cases Clause.ofTerms? (config.terms (String.ofList text)) with
  | none => rfl
  | some clause =>
      cases clause with
      | term t => rfl
      | phrase ts => rfl

/-- No word and no quotation makes the planner cut a text where it cannot be cut. -/
theorem checkedPieces_eq (plan : Plan) (quoted : Bool) (pieces : List (List Char)) :
    plan.checkedPieces config quoted pieces = .ok (plan.readPieces config quoted pieces) := by
  induction pieces generalizing plan quoted with
  | nil => rfl
  | cons piece pieces ih =>
      have hwords : (words piece).foldlM (checkedWord config) plan =
          .ok ((words piece).foldl (readWord config) plan) :=
        foldlM_eq_ok (fun plan word _ => checkedWord_eq plan word) plan
      rw [checkedPieces, readPieces, hwords, checkedQuoted_eq]
      cases quoted with
      | true => exact ih _ _
      | false => exact ih _ _

end Plan

/-- Planning takes no step that cannot be taken. -/
theorem Query.checkedParse_eq (config : TokenizerConfig) (text : String) (mode : MatchMode)
    (asPhrase : Bool) :
    checkedParse config text mode asPhrase = .ok (parse config text mode asPhrase) := by
  rw [checkedParse, parse]
  simp only [TokenizerConfig.checkedTerms_eq, Plan.checkedPieces_eq]
  split
  · rfl
  · split
    · rfl
    · rfl

/-! ### Snippets -/

open Snippet in
/-- What a window covers can be cut out of the text. -/
theorem checkedSnippet_eq (config : TokenizerConfig) (text : String) (terms : List String) (width : Nat) :
    checkedSnippet config text terms width = .ok (snippet config text terms width) := by
  rw [checkedSnippet]
  split
  · next hzero =>
      rw [snippet_of_no_spans (.inl hzero)]
      rfl
  · next hwidth =>
      rw [TokenizerConfig.checkedSpans_eq, ok_bind]
      by_cases hne : config.spans text = []
      · rw [snippet_of_no_spans (.inr hne), hne]
        rfl
      · have hsome : ¬(config.spans text).toArray.isEmpty = true := by simpa using hne
        have hwindow : measuredWindow? (config.spans text).toArray width terms = .ok _ :=
          (TokenizerConfig.ordered_spans config text).measuredWindow?_eq (start_within hne terms)
        simp only [if_neg hsome, hwindow]
        cases hw : window? (config.spans text).toArray width terms with
        | none =>
            rw [snippet_of_window?_eq_none hw]
            rfl
        | some w =>
            -- the window covers whole spans of the text, which is what makes both cuts fall between
            -- characters
            obtain ⟨part, hcovers, -⟩ := (full_of_window? hne hw).exists_part
            rw [snippet_of_covers hwidth hne hw hcovers]
            obtain ⟨before, after, first, last, htext, hfirst, hstart, hlast, hstop⟩ := hcovers
            rw [← List.getElem?_toArray] at hfirst hlast
            simp only [Except.mapError, ok_bind, hfirst, hlast, cutBytes_eq htext hstart hstop]
            rfl

/-! ### Clauses -/

namespace Index

variable {α : Type} {index : Index α}

omit [CharacterTable]

/-- The steps of a clause can all be taken, unless it is a phrase that overruns. -/
theorem WellFormed.checkClause_failsIff (h : index.WellFormed) {clause : Clause}
    (hne : ∀ ts, clause = .phrase ts → ts ≠ []) :
    FailsIff (.next lastPosition) (∃ ts, clause = .phrase ts ∧ index.Overruns ts) (index.checkClause clause)
      () := by
  cases clause with
  | term t => exact (FailsIff.of_eq_ok rfl).congr (by simp)
  | phrase ts =>
      -- the planner makes no phrase without terms, so the first access is within bounds
      have hsome : ts.isEmpty = false := by simpa using hne ts rfl
      have hoverflow := h.overflowed_phraseHits_iff ts
      rw [checkClause, hsome]
      constructor
      · rintro ⟨_, heq, hoverruns⟩
        cases heq
        rw [hoverflow.2 hoverruns]
        rfl
      · intro hnone
        have hin : (index.phraseHits ts).overflowed = false :=
          Bool.not_eq_true _ ▸ fun hover => hnone ⟨ts, rfl, hoverflow.1 hover⟩
        rw [hin]
        rfl

/-- The steps of several clauses can all be taken, unless some phrase overruns. -/
theorem WellFormed.forM_checkClause_failsIff (h : index.WellFormed) {clauses : List Clause}
    (hne : ∀ ts, .phrase ts ∈ clauses → ts ≠ []) :
    FailsIff (.next lastPosition) (∃ ts, .phrase ts ∈ clauses ∧ index.Overruns ts)
      (clauses.forM index.checkClause) () := by
  have hrun : FailsIff (.next lastPosition)
      (∃ clause ∈ clauses, ∃ ts, clause = .phrase ts ∧ index.Overruns ts) (clauses.forM index.checkClause) () :=
    FailsIff.forM fun clause hclause => h.checkClause_failsIff fun ts heq => hne ts (heq ▸ hclause)
  refine hrun.congr ⟨?_, ?_⟩
  · rintro ⟨_, hclause, ts, rfl, hoverruns⟩
    exact ⟨ts, hclause, hoverruns⟩
  · rintro ⟨ts, hclause, hoverruns⟩
    exact ⟨_, hclause, ts, rfl, hoverruns⟩

/-- A search tells that it went beyond the last position exactly if some phrase overruns. -/
theorem WellFormed.overflows_iff (h : index.WellFormed) (query : Query) :
    Ranking.overflows index query = true ↔ ∃ ts, .phrase ts ∈ query.clauses ∧ index.Overruns ts := by
  rw [Ranking.overflows, List.any_eq_true]
  constructor
  · rintro ⟨clause, hclause, hover⟩
    cases clause with
    | term t => cases hover
    | phrase ts => exact ⟨ts, hclause, (h.overflowed_phraseHits_iff ts).1 hover⟩
  · rintro ⟨ts, hclause, hoverruns⟩
    exact ⟨_, hclause, (h.overflowed_phraseHits_iff ts).2 hoverruns⟩

end Index

/-! ### Searches -/

namespace Snapshot

variable {α : Type} {snapshot : Snapshot α}

/-- The query that a text is planned to has a phrase that overruns. -/
def Overruns (snapshot : Snapshot α) (text : String) (options : SearchOptions) : Prop :=
  options.limit ≠ 0 ∧ ∃ query ts,
    Query.parse snapshot.config.tokenizer text options.mode options.asPhrase = .ok query ∧
      .phrase ts ∈ query.clauses ∧ snapshot.index.Overruns ts

/-- Whatever is shown can be shown. -/
theorem checkedPresent_eq (snapshot : Snapshot α) (outcome : SearchOutcome α) :
    snapshot.checkedPresent outcome = .ok (snapshot.present outcome) := by
  have hshow (width : Nat) (result : Ranked α) :
      snapshot.checkedShow? width result = .ok (snapshot.show? width result) := by
    rw [checkedShow?, show?]
    cases snapshot.store.document? result.document with
    | none => rfl
    | some d =>
        simp only [checkedSnippet_eq]
        rfl
  have hshown := mapM_eq_ok fun result (_ : result ∈ outcome.results) =>
    hshow snapshot.config.snippetLength.toNat result
  rw [checkedPresent, hshown, present]
  show Except.ok (List.filterMap id _) = _
  rw [List.filterMap_map]
  rfl

variable [Scalar α]

/-- A search fails if the query has a phrase that overruns. -/
theorem checkedSearch_failsIff (h : snapshot.index.WellFormed) (text : String) (options : SearchOptions) :
    FailsIff (.next Index.lastPosition) (snapshot.Overruns text options)
      (snapshot.checkedSearch text options) (snapshot.search text options) := by
  rw [checkedSearch, search]
  split
  · next hzero => exact (FailsIff.of_eq_ok rfl).congr (by simp [Overruns, hzero])
  · next hlimit =>
      rw [Query.checkedParse_eq, ok_bind]
      cases hparse : Query.parse snapshot.config.tokenizer text options.mode options.asPhrase with
      | error e => exact (FailsIff.of_eq_ok rfl).congr (by simp [Overruns, hparse])
      | ok query =>
          have hne (ts : List String) (hmem : .phrase ts ∈ query.clauses) : ts ≠ [] := by
            have hlength := Query.two_le_length_of_mem hparse hmem
            rintro rfl
            exact absurd hlength (by decide)
          -- the flag of the ranking says that some phrase runs past the last position
          have hover : snapshot.Overruns text options ↔ Ranking.overflows snapshot.index query = true := by
            rw [h.overflows_iff]
            simp [Overruns, hlimit, hparse]
          have hclauses := (h.forM_checkClause_failsIff hne).congr
            ((h.overflows_iff query).symm.trans hover.symm)
          refine ⟨fun hoverruns => ?_, fun hnone => ?_⟩
          · exact bind_eq_error.2 (.inl (hclauses.failed hoverruns))
          · refine bind_eq_ok.2 ⟨_, hclauses.done hnone, ?_⟩
            rw [Except.map, Bool.eq_false_iff.2 fun hflag => hnone (hover.2 hflag)]
            rfl

/-- What a search in a snapshot that was put together can be stopped by. Every text can be cut where that
is asked for, no phrase is without a first list of postings, and every window can be measured and shown. The
one step that can fail is to count on from the last position of 32 bits; it does exactly if a document with
all terms of a phrase of the query has some of them, not all, in a row up to that position. This needs a
document with that position, which no check rules out. -/
theorem checkedSearch_eq_ok_iff {store : Store} {index : Index α} {config : Config α} {builtAt : UInt64}
    {fingerprint : Option UInt64} (h : ofParts store index config builtAt fingerprint = .ok snapshot)
    (text : String) (options : SearchOptions) :
    (snapshot.checkedSearch text options = .ok (snapshot.search text options) ↔
      ¬snapshot.Overruns text options) ∧
    (snapshot.Overruns text options →
      snapshot.checkedSearch text options = .error (.next Index.lastPosition)) ∧
    (∀ outcome, snapshot.checkedPresent outcome = .ok (snapshot.present outcome)) ∧
    (snapshot.index.HasRoom 2 → ¬snapshot.Overruns text options) := by
  have hwell := Index.fault?_eq_none_iff.1 (sound_of_ofParts h).verified
  have hsearch := checkedSearch_failsIff hwell text options
  refine ⟨hsearch.eq_ok_iff, hsearch.failed, snapshot.checkedPresent_eq, ?_⟩
  rintro hroom ⟨-, query, ts, -, -, hoverruns⟩
  exact Index.not_overruns_of_hasRoom hroom ts hoverruns

end Snapshot

end Concordance

namespace Concordance.Unicode

open Text

theorem checkedSearch_eq_ok_iff_duet :
    Snapshot.ofParts duet.store duet.index duet.config 0 none = .ok duet ∧ duet.index.HasRoom 2 ∧
      duet.checkedSearch "la re" ⟨10, .all, true⟩ = .ok (duet.search "la re" ⟨10, .all, true⟩) := by
  have hparts : Snapshot.ofParts duet.store duet.index duet.config 0 none = .ok duet := by rfl
  have hroom : duet.index.HasRoom 2 := by decide
  obtain ⟨hok, -, -, hnone⟩ := Snapshot.checkedSearch_eq_ok_iff hparts "la re" ⟨10, .all, true⟩
  exact ⟨hparts, hroom, hok.2 (hnone hroom)⟩

/-- A snapshot of a document with one term at the first and at the last position. -/
def brink : Snapshot Float where
  store := ⟨[⟨"a", "", "a a", "a.md"⟩], by decide, by decide⟩
  index :=
    { terms := SortedMap.ofList [("a", [⟨0, 2, 0, [0, 4294967295]⟩])]
      lengths := [2]
      documentCount := 1
      meanLength := 2
      totalLength := 2 }
  config := .standard
  builtAt := 0
  fingerprint := none
  generation := 0

theorem parse_brink : Query.parse brink.config.tokenizer "a a" .any true =
    .ok ⟨[.phrase ["a", "a"]], .any⟩ := by
  have hterms : Config.standard.tokenizer.terms "a a" = ["a", "a"] := by
    have hwords : "a a".toList = [' '].intercalate [['a'], ['a']] := by decide
    rw [TokenizerConfig.terms_eq_map_termsIn, hwords, termsIn_intercalate (by simpa using settled_a)]
    rfl
  have hspaced : String.ofList ("a a".toList.map fun c => if c = '"' then ' ' else c) = "a a" := by decide
  have hconfig : brink.config.tokenizer = Config.standard.tokenizer := rfl
  rw [Query.parse, if_pos rfl, Query.ofPhrase, hspaced, hconfig, hterms]
  rfl

/-- The one term stands at the first and at the last position, and nothing else is recorded. -/
theorem mem_recorded_brink {n : DocId} {place : Nat} {t : String} :
    (place, t) ∈ brink.index.recorded n ↔ n = 0 ∧ t = "a" ∧ (place = 0 ∨ place = 4294967295) := by
  have hentries : brink.index.terms.entries = [("a", [⟨0, 2, 0, [0, 4294967295]⟩])] := by decide
  rw [Index.mem_recorded_iff, Index.postings, SortedMap.find?, hentries]
  by_cases ht : t = "a"
  · subst ht
    simp [eq_comm]
  · have hne : (t == "a") = false := by simpa using ht
    simp [List.lookup, hne, ht]

/-- The document is accepted, and a search for its term twice in a row counts on from the last position. A
program that checks its sums stops there. One that does not comes to the first position, and so it finds the
document, though that does not have the term twice in a row. -/
theorem checkedSearch_brink :
    Snapshot.ofParts brink.store brink.index brink.config 0 none = .ok brink ∧
      brink.checkedSearch "a a" ⟨10, .any, true⟩ = .error (.next 4294967295) ∧
      brink.index.phraseHits ["a", "a"] = ⟨[(0, 1)], true⟩ ∧
      ¬∃ n place, brink.index.StartsAt n ["a", "a"] place := by
  have hwell := Index.fault?_eq_none_iff.1 (show brink.index.fault? = none by decide)
  have hrunsOut : brink.index.RunsOut 0 ["a", "a"] 4294967295 :=
    ⟨1, by decide, by decide, rfl,
      Index.startsAt_cons.2 ⟨mem_recorded_brink.2 (by simp), by simp [Index.StartsAt]⟩⟩
  have hoverruns : brink.Overruns "a a" ⟨10, .any, true⟩ :=
    ⟨by decide, _, ["a", "a"], parse_brink, List.mem_singleton_self _, 0, by decide, _, hrunsOut⟩
  refine ⟨by rfl, (Snapshot.checkedSearch_failsIff hwell _ _).failed hoverruns, by decide +kernel, ?_⟩
  rintro ⟨n, place, hstarts⟩
  obtain ⟨hfirst, hrest⟩ := Index.startsAt_cons.1 hstarts
  have hfirst := mem_recorded_brink.1 hfirst
  have hsecond := mem_recorded_brink.1 (Index.startsAt_cons.1 hrest).1
  omega

end Concordance.Unicode
