import Concordance.CommandLine.Command
import Concordance.Proofs.LosslessIndexes
import Concordance.Proofs.NumberValues
import Concordance.Proofs.Outcomes
import Concordance.Proofs.RankingOrder
import Concordance.Server.Session

/-!
# Requests for a search

What a search is asked for is told by relations between the arguments and a limit, a mode and whether the
text is one phrase. A request is refused if one of them is not told or a quotation mark is left open, and
else the answer is the beginning of the whole ranking (`search_validated`).
-/

namespace Concordance

open Text

/-! ### What is asked for -/

/-- The argument is left out or null. -/
def Json.Lacks (arguments : Json) (key : String) : Prop :=
  arguments.get? key = none ∨ arguments.get? key = some .null

/-- The number of results that is asked for: the usual one, or a number that is worth an integer of at
least one and less than 2⁶³, but not more than is allowed. -/
inductive AsksLimit (config : Config Float) (arguments : Json) : Nat → Prop where
  | usual (h : arguments.Lacks "limit") : AsksLimit config arguments config.defaultLimit.toNat
  | given {n : Json.Number} {v : Nat} (h : arguments.get? "limit" = some (.number n))
      (hvalue : n.value? = some (v : ℚ)) (hpos : 1 ≤ v) (hlt : v < 2 ^ 63) :
      AsksLimit config arguments (min v config.maxLimit.toNat)

def MatchMode.words : MatchMode → List String
  | .any => ["any", "or"]
  | .all => ["all", "and"]

/-- The mode that is asked for: any clause is enough, or what a word says, in small or capital letters. -/
inductive AsksMode (arguments : Json) : MatchMode → Prop where
  | usual (h : arguments.Lacks "mode") : AsksMode arguments .any
  | given {s word : String} {mode : MatchMode} (h : arguments.get? "mode" = some (.string s))
      (hword : word ∈ mode.words) (hsame : asciiLower s.toList = word.toList) :
      AsksMode arguments mode

/-- Whether the whole text is asked for as one phrase. -/
inductive AsksPhrase (arguments : Json) : Bool → Prop where
  | usual (h : arguments.Lacks "phrase") : AsksPhrase arguments false
  | given {b : Bool} (h : arguments.get? "phrase" = some (.bool b)) : AsksPhrase arguments b

/-- Something is asked for that cannot be: a limit, a mode or a phrase that is none, or a quotation mark is
left open where they count. -/
def Invalid (config : Config Float) (arguments : Json) (query : String) : Prop :=
  (¬∃ limit, AsksLimit config arguments limit) ∨ (¬∃ mode, AsksMode arguments mode) ∨
    (¬∃ asPhrase, AsksPhrase arguments asPhrase) ∨
      arguments.get? "phrase" ≠ some (.bool true) ∧ query.toList.count '"' % 2 = 1

/-! ### Arguments -/

variable {arguments : Json}

namespace Argument

variable {key : String} {value : Json}

theorem given?_eq_none_iff : given? arguments key = none ↔ arguments.Lacks key := by
  rw [given?, Json.Lacks]
  cases arguments.get? key with
  | none => simp
  | some value => cases value <;> simp

/-- An argument that is null counts as one that is missing. -/
theorem given?_eq_some_iff :
    given? arguments key = some value ↔ arguments.get? key = some value ∧ value ≠ .null := by
  rw [given?]
  cases arguments.get? key with
  | none => simp
  | some found =>
      cases found <;> simp +contextual [eq_comm]

theorem not_lacks (h : arguments.get? key = some value) (hvalue : value ≠ .null) :
    ¬arguments.Lacks key := by
  rw [← given?_eq_none_iff, given?_eq_some_iff.2 ⟨h, hvalue⟩]
  simp

/-- What is asked for as a text is given as one or left out. -/
theorem text_eq_ok_iff {text? : Option String} :
    text arguments key = .ok text? ↔
      arguments.Lacks key ∧ text? = none ∨
        ∃ s, arguments.get? key = some (.string s) ∧ text? = some s := by
  rw [text]
  constructor
  · intro h
    split at h
    · next hnone =>
        cases h
        exact .inl ⟨given?_eq_none_iff.1 hnone, rfl⟩
    · next s hs =>
        cases h
        exact .inr ⟨s, (given?_eq_some_iff.1 hs).1, rfl⟩
    · cases h
  · rintro (⟨hlacks, rfl⟩ | ⟨s, hs, rfl⟩)
    · rw [given?_eq_none_iff.2 hlacks]
    · rw [given?_eq_some_iff.2 ⟨hs, by simp⟩]

end Argument

namespace Server

open Argument

variable {config : Config Float}

/-- A limit is understood exactly if it is left out or worth an integer of at least one and less than 2⁶³. -/
theorem limitOf_eq_ok_iff (h : arguments.HasProperFields) {limit : Nat} :
    limitOf config arguments = .ok limit ↔ AsksLimit config arguments limit := by
  rw [limitOf, integer]
  constructor
  · intro hlimit
    obtain ⟨given, hgiven, hlimit⟩ := bind_eq_ok.1 hlimit
    split at hgiven
    · next hnone =>
        cases hgiven
        cases hlimit
        exact .usual (given?_eq_none_iff.1 hnone)
    · next n hn =>
        split at hgiven
        · next i hi =>
            cases hgiven
            dsimp only at hlimit
            split at hlimit
            · cases hlimit
            · next hpos =>
                cases hlimit
                -- the integer is at least one, so it is a natural number
                obtain ⟨v, rfl⟩ := Int.eq_ofNat_of_zero_le (show 0 ≤ i by omega)
                have hget := (given?_eq_some_iff.1 hn).1
                have hv : 1 ≤ v := by omega
                obtain ⟨hvalue, hlt⟩ := (integerOf?_eq_some_iff (h _ _ hget) hv).1 hi
                exact .given hget hvalue hv hlt
        · cases hgiven
    · cases hgiven
  · rintro (hlacks | ⟨hget, hvalue, hpos, hlt⟩)
    · rw [given?_eq_none_iff.2 hlacks]
      rfl
    · have hinteger := (integerOf?_eq_some_iff (h _ _ hget) hpos).2 ⟨hvalue, hlt⟩
      rw [given?_eq_some_iff.2 ⟨hget, by simp⟩]
      dsimp only
      rw [hinteger, ok_bind]
      dsimp only
      rw [if_neg (by omega)]
      rfl

/-- The names of a mode are its words in any case. -/
theorem ofName?_eq_some_iff {s : String} {mode : MatchMode} :
    MatchMode.ofName? s = some mode ↔ ∃ word ∈ mode.words, asciiLower s.toList = word.toList := by
  have hword (word : String) :
      asciiLower s.toList = word.toList ↔ String.ofList (asciiLower s.toList) = word := by
    rw [← String.toList_inj, String.toList_ofList]
  simp only [hword]
  rw [MatchMode.ofName?]
  generalize String.ofList (asciiLower s.toList) = name
  split
  · cases mode <;> simp [MatchMode.words]
  · cases mode <;> simp [MatchMode.words]
  · cases mode <;> simp [MatchMode.words]
  · cases mode <;> simp [MatchMode.words]
  · cases mode <;> simp_all [MatchMode.words]

/-- A mode is understood exactly if it is left out or one of the words for it. -/
theorem modeOf_eq_ok_iff {mode : MatchMode} :
    modeOf arguments = .ok mode ↔ AsksMode arguments mode := by
  rw [modeOf, bind_eq_ok]
  constructor
  · rintro ⟨name?, hname, hmode⟩
    rcases text_eq_ok_iff.1 hname with ⟨hlacks, rfl⟩ | ⟨s, hs, rfl⟩
    · cases hmode
      exact .usual hlacks
    · dsimp only at hmode
      split at hmode
      · next found hfound =>
          cases hmode
          obtain ⟨word, hword, hsame⟩ := ofName?_eq_some_iff.1 hfound
          exact .given hs hword hsame
      · cases hmode
  · rintro (hlacks | ⟨hs, hword, hsame⟩)
    · exact ⟨none, text_eq_ok_iff.2 (.inl ⟨hlacks, rfl⟩), rfl⟩
    · refine ⟨some _, text_eq_ok_iff.2 (.inr ⟨_, hs, rfl⟩), ?_⟩
      dsimp only
      rw [ofName?_eq_some_iff.2 ⟨_, hword, hsame⟩]
      rfl

/-- The wish for a phrase is understood exactly if it is left out or a truth value. -/
theorem flag_eq_ok_iff {asPhrase : Bool} :
    (∃ flag?, flag arguments "phrase" = .ok flag? ∧ flag?.getD false = asPhrase) ↔
      AsksPhrase arguments asPhrase := by
  rw [flag]
  constructor
  · rintro ⟨flag?, hflag, rfl⟩
    split at hflag
    · next hnone =>
        cases hflag
        exact .usual (given?_eq_none_iff.1 hnone)
    · next b hb =>
        cases hflag
        exact .given (given?_eq_some_iff.1 hb).1
    · cases hflag
  · rintro (hlacks | hb)
    · rw [given?_eq_none_iff.2 hlacks]
      exact ⟨none, rfl, rfl⟩
    · rw [given?_eq_some_iff.2 ⟨hb, by simp⟩]
      exact ⟨some _, rfl, rfl⟩

/-- The options are what the arguments ask for. -/
theorem optionsOf_eq_ok_iff (h : arguments.HasProperFields) {options : SearchOptions} :
    optionsOf config arguments = .ok options ↔
      AsksLimit config arguments options.limit ∧ AsksMode arguments options.mode ∧
        AsksPhrase arguments options.asPhrase := by
  rw [optionsOf, ← limitOf_eq_ok_iff h, ← modeOf_eq_ok_iff, ← flag_eq_ok_iff]
  constructor
  · intro hoptions
    obtain ⟨limit, hlimit, hoptions⟩ := bind_eq_ok.1 hoptions
    obtain ⟨mode, hmode, hoptions⟩ := bind_eq_ok.1 hoptions
    obtain ⟨asPhrase, hphrase, hoptions⟩ := bind_eq_ok.1 hoptions
    cases hoptions
    exact ⟨hlimit, hmode, asPhrase, hphrase, rfl⟩
  · rintro ⟨hlimit, hmode, flag?, hphrase, hflag⟩
    rw [hlimit, ok_bind, hmode, ok_bind, hphrase, ok_bind, hflag]
    rfl

end Server

/-! ### Limits and plans -/

/-- The command line allows at least one result, and the usual number is allowed. -/
theorem CommandLine.Reading.limits (reading : CommandLine.Reading) :
    1 ≤ reading.config.defaultLimit ∧ reading.config.defaultLimit ≤ reading.config.maxLimit ∧
      1 ≤ reading.config.maxLimit := by
  have hmax : 1 ≤ reading.config.maxLimit := by
    show (1 : UInt64) ≤ if 1 ≤ reading.wordOr "max-limit" 100 then reading.wordOr "max-limit" 100 else 1
    split
    · assumption
    · exact UInt64.le_refl 1
  exact ⟨Std.le_min_iff.2 ⟨by decide, hmax⟩, Std.min_le_right, hmax⟩

theorem AsksLimit.pos {config : Config Float} {limit : Nat} (h : AsksLimit config arguments limit)
    (hdefault : 1 ≤ config.defaultLimit) (hmax : 1 ≤ config.maxLimit) : 1 ≤ limit := by
  rw [UInt64.le_iff_toNat_le] at hdefault hmax
  cases h with
  | usual => exact hdefault
  | given _ _ hpos _ => exact Nat.le_min.2 ⟨hpos, hmax⟩

/-- A phrase is asked for by a true value and by nothing else. -/
theorem AsksPhrase.eq_true_iff {asPhrase : Bool} (h : AsksPhrase arguments asPhrase) :
    asPhrase = true ↔ arguments.get? "phrase" = some (.bool true) := by
  cases h with
  | usual hlacks =>
      refine iff_of_false (by decide) fun hget => ?_
      exact Argument.not_lacks hget (by simp) hlacks
  | given hget => simp [hget]

/-- A plan is made unless a quotation mark is left open where they count. -/
theorem Query.exists_parse_iff [CharacterTable] (tokenizer : TokenizerConfig) (text : String)
    (mode : MatchMode) (asPhrase : Bool) :
    (∃ parsed, Query.parse tokenizer text mode asPhrase = .ok parsed) ↔
      ¬(asPhrase ≠ true ∧ text.toList.count '"' % 2 = 1) := by
  rw [parse]
  cases asPhrase with
  | true => simp
  | false =>
      rw [if_neg (by decide)]
      split
      · next hodd => simp [hodd]
      · next heven => simp [heven]

/-! ### Results -/

/-- If nothing is dropped, the first items give the first values. -/
theorem filterMap_take {α β : Type} {f : α → Option β} {items : List α}
    (h : ∀ item ∈ items, (f item).isSome = true) (n : Nat) :
    (items.take n).filterMap f = (items.filterMap f).take n := by
  induction items generalizing n with
  | nil => simp
  | cons item rest ih =>
      obtain ⟨value, hvalue⟩ := Option.isSome_iff_exists.1 (h item List.mem_cons_self)
      cases n with
      | zero => rfl
      | succ n =>
          rw [List.take_succ_cons, List.filterMap_cons_some hvalue, List.filterMap_cons_some hvalue,
            List.take_succ_cons]
          rw [ih (fun other hother => h other (List.mem_cons_of_mem _ hother)) n]

namespace Snapshot

section Numbers

variable (snapshot : Snapshot Float) (query : Query)

/-- There are no more results than numbers of documents. -/
theorem length_ranking_le : (snapshot.ranking query).length ≤ 2 ^ 32 := by
  have hnodup : ((snapshot.ranking query).map fun r => r.document.toNat).Nodup := by
    have hdocuments : ((snapshot.ranking query).map Ranked.document).Nodup := nodup_document_ranking
    have hmap := hdocuments.map (f := UInt32.toNat) fun _ _ => UInt32.toNat_inj.1
    rwa [List.map_map] at hmap
  have hsubset : ((snapshot.ranking query).map fun r => r.document.toNat) ⊆ List.range (2 ^ 32) := by
    intro n hn
    obtain ⟨r, -, rfl⟩ := List.mem_map.1 hn
    exact List.mem_range.2 r.document.toNat_lt
  have hle := (List.subperm_of_subset hnodup hsubset).length_le
  rwa [List.length_map, List.length_range] at hle

end Numbers

variable [CharacterTable]

def shownRanking (snapshot : Snapshot Float) (query : Query) : List Json :=
  (snapshot.present ⟨snapshot.ranking query, (snapshot.ranking query).length, query,
    Ranking.overflows snapshot.index query⟩).map Server.shownJson

variable {snapshot : Snapshot Float} {query : Query}

/-- Every result is shown. -/
theorem isSome_show?_of_mem (width : Nat) {r : Ranked Float} (h : r ∈ snapshot.ranking query) :
    (snapshot.show? width r).isSome = true := by
  rcases snapshot.ranking_cases query with hnil | hrank
  · rw [hnil] at h
    cases h
  · rw [hrank] at h
    obtain ⟨d, hd, -⟩ := Ranking.document?_of_mem_rank h
    rw [show?, hd]
    rfl

theorem length_shownRanking : (snapshot.shownRanking query).length = (snapshot.ranking query).length := by
  rw [shownRanking, List.length_map, present, List.length_filterMap_eq_countP, List.countP_eq_length]
  intro r hr
  exact isSome_show?_of_mem _ hr

/-- The first results are shown as in the whole ranking. -/
theorem map_shownJson_present_take (snapshot : Snapshot Float) (query : Query) (limit total : Nat)
    (overflowed : Bool) :
    (snapshot.present ⟨(snapshot.ranking query).take limit, total, query, overflowed⟩).map
        Server.shownJson =
      (snapshot.shownRanking query).take limit := by
  rw [shownRanking, present, present, ← List.map_take]
  rw [filterMap_take fun r hr => isSome_show?_of_mem _ hr]

end Snapshot

/-! ### Answers -/

/-- A result is the JSON of the first `limit` results of a query, with how many results the query has and
how many there are here. -/
def Answers [CharacterTable] (snapshot : Snapshot Float) (query : Query) (limit : Nat)
    (result : ToolResult) : Prop :=
  ∃ value summary total returned, result = .ofJson value ∧
    value.get? "results" = some (.array ((snapshot.shownRanking query).take limit)) ∧
    value.get? "summary" = some summary ∧
    summary.get? "totalMatches" = some (.number (.natural total)) ∧
    total.toNat = (snapshot.shownRanking query).length ∧
    summary.get? "returned" = some (.number (.natural returned)) ∧
    returned.toNat = ((snapshot.shownRanking query).take limit).length

/-- No answer is a refusal: it has a summary, and a refusal has none. -/
theorem Answers.ne_refuse [CharacterTable] {snapshot : Snapshot Float} {query : Query} {limit : Nat}
    {result : ToolResult} (h : Answers snapshot query limit result) (message : String) :
    result ≠ Server.refuse message := by
  obtain ⟨value, summary, total, returned, rfl, -, hsummary, -⟩ := h
  intro hrefuse
  cases value with
  | fields pairs =>
      have hkeys := Json.keys_eq_of_render_eq (List.head_eq_of_cons_eq (congrArg ToolResult.content hrefuse))
      have hmem : "summary" ∈ pairs.map Prod.fst :=
        List.mem_map_of_mem (f := Prod.fst) (SortedMap.mem_of_lookup_eq_some hsummary)
      rw [hkeys] at hmem
      obtain ⟨⟨key, other⟩, hother, rfl⟩ := List.mem_map.1 hmem
      have hnone : (Json.object [("results", .array []), ("status", .string "invalid_query"),
          ("message", .string message)]).get? "summary" = none := Json.get?_object _ _
      simpa using List.lookup_eq_none_iff.1 hnone _ hother
  | _ => cases hsummary

namespace Server

section Requests

variable [CharacterTable] {server : Server} {query : String}

/-- What is searched for a query with options. -/
theorem search_of_query (hquery : arguments.get? "query" = some (.string query)) (moment : Moment) :
    server.search moment arguments =
      match optionsOf server.live.current.config arguments with
      | .error message => refuse message
      | .ok options =>
        match server.live.current.search query options with
        | .error e => refuse e.message
        | .ok outcome => .ofJson (searchJson server.live.current query outcome moment.elapsed) := by
  have htext := Argument.text_eq_ok_iff.2 (.inr ⟨query, hquery, rfl⟩)
  rw [search]
  split
  · next herror =>
      rw [htext] at herror
      cases herror
  · next hnone =>
      rw [htext] at hnone
      cases hnone
  · next hsome =>
      rw [htext] at hsome
      cases hsome
      rfl

/-- Only a query that is no text is an error. -/
theorem isError_search_iff (moment : Moment) :
    (server.search moment arguments).isError = true ↔
      ¬∃ query, arguments.get? "query" = some (.string query) := by
  constructor
  · rintro herror ⟨query, hquery⟩
    rw [search_of_query hquery] at herror
    split at herror
    · cases herror
    · split at herror
      · cases herror
      · cases herror
  · intro hnone
    rw [search]
    split
    · rfl
    · rfl
    · next query htext =>
        rcases Argument.text_eq_ok_iff.1 htext with ⟨-, hlacks⟩ | ⟨s, hs, heq⟩
        · cases hlacks
        · exact absurd ⟨s, hs⟩ hnone

/-- An answer to a search gives the first results and tells the numbers. -/
theorem answers_searchJson (snapshot : Snapshot Float) (text : String) (query : Query) (limit : Nat)
    (elapsed : Float) :
    Answers snapshot query limit (.ofJson (searchJson snapshot text
      ⟨(snapshot.ranking query).take limit, (snapshot.ranking query).length, query,
        Ranking.overflows snapshot.index query⟩ elapsed)) := by
  have htotal := snapshot.length_ranking_le query
  have hshown : (snapshot.present ⟨(snapshot.ranking query).take limit,
      (snapshot.ranking query).length, query, Ranking.overflows snapshot.index query⟩).length =
        ((snapshot.shownRanking query).take limit).length := by
    rw [← snapshot.map_shownJson_present_take query limit (snapshot.ranking query).length
      (Ranking.overflows snapshot.index query), List.length_map]
  -- the counts of the answer fit a word of 64 bits
  have hreturned : ((snapshot.shownRanking query).take limit).length ≤ 2 ^ 32 := by
    rw [List.length_take, Snapshot.length_shownRanking]
    exact Nat.le_trans (Nat.min_le_right _ _) htotal
  refine ⟨_, _, _, _, rfl, ?_, Json.get?_object _ _, Json.get?_object _ _, ?_, Json.get?_object _ _, ?_⟩
  · refine (Json.get?_object _ _).trans ?_
    rw [← snapshot.map_shownJson_present_take query limit (snapshot.ranking query).length
      (Ranking.overflows snapshot.index query)]
    rfl
  · rw [Snapshot.length_shownRanking]
    exact UInt64.toNat_ofNat_of_lt' (show (snapshot.ranking query).length < 2 ^ 64 by omega)
  · rw [← hshown] at hreturned ⊢
    exact UInt64.toNat_ofNat_of_lt' (show _ < 2 ^ 64 by omega)

/-- An invalid request is refused. -/
theorem exists_refuse_of_invalid (harguments : arguments.HasProperFields)
    (hquery : arguments.get? "query" = some (.string query)) (moment : Moment)
    (h : Invalid server.live.current.config arguments query) :
    ∃ message, server.search moment arguments = refuse message := by
  rw [search_of_query hquery]
  split
  · exact ⟨_, rfl⟩
  · next options hoptions =>
      obtain ⟨hlimit, hmode, hphrase⟩ := (optionsOf_eq_ok_iff harguments).1 hoptions
      split
      · exact ⟨_, rfl⟩
      · next outcome houtcome =>
          -- all that is left is a quotation mark, and that is not planned
          rcases h with hnone | hnone | hnone | ⟨hwhole, hodd⟩
          · exact absurd ⟨_, hlimit⟩ hnone
          · exact absurd ⟨_, hmode⟩ hnone
          · exact absurd ⟨_, hphrase⟩ hnone
          · rw [Snapshot.search] at houtcome
            split at houtcome
            · cases houtcome
            · obtain ⟨parsed, hparsed, -⟩ := map_eq_ok.1 houtcome
              have hclosed := (Query.exists_parse_iff _ query _ _).1 ⟨parsed, hparsed⟩
              exact absurd ⟨fun h => hwhole (hphrase.eq_true_iff.1 h), hodd⟩ hclosed

/-- A valid request is answered. -/
theorem exists_answer_of_valid (harguments : arguments.HasProperFields)
    (hdefault : 1 ≤ server.live.current.config.defaultLimit)
    (hmax : 1 ≤ server.live.current.config.maxLimit)
    (hquery : arguments.get? "query" = some (.string query)) (moment : Moment)
    (h : ¬Invalid server.live.current.config arguments query) :
    ∃ limit mode asPhrase parsed, AsksLimit server.live.current.config arguments limit ∧
      AsksMode arguments mode ∧ AsksPhrase arguments asPhrase ∧
      Query.parse server.live.current.config.tokenizer query mode asPhrase = .ok parsed ∧
      Answers server.live.current parsed limit (server.search moment arguments) := by
  rw [Invalid, not_or, not_or, not_or, not_not, not_not, not_not] at h
  obtain ⟨⟨limit, hlimit⟩, ⟨mode, hmode⟩, ⟨asPhrase, hphrase⟩, hclosed⟩ := h
  have hoptions : optionsOf server.live.current.config arguments = .ok ⟨limit, mode, asPhrase⟩ :=
    (optionsOf_eq_ok_iff harguments).2 ⟨hlimit, hmode, hphrase⟩
  rw [ne_eq, ← hphrase.eq_true_iff] at hclosed
  obtain ⟨parsed, hparsed⟩ :=
    (Query.exists_parse_iff server.live.current.config.tokenizer query mode asPhrase).2 hclosed
  refine ⟨limit, mode, asPhrase, parsed, hlimit, hmode, hphrase, hparsed, ?_⟩
  have hne : limit ≠ 0 := Nat.ne_of_gt (hlimit.pos hdefault hmax)
  rw [search_of_query hquery, hoptions]
  dsimp only
  rw [Snapshot.search_eq _ query ⟨limit, mode, asPhrase⟩ hne, hparsed]
  exact answers_searchJson server.live.current query parsed limit moment.elapsed

/-- Every request is validated and capped. With settings from the command line and any arguments: a search
fails exactly if the query is no text; else it is refused exactly if the request is invalid; and else it
answers with the first results of the whole ranking of the query that is asked for, as many as are asked
for or usual but no more than are allowed, and tells how many there are. -/
theorem search_validated {reading : CommandLine.Reading}
    (hconfig : server.live.current.config = reading.config) (moment : Moment)
    (harguments : arguments.HasProperFields) :
    server.live.current.config.defaultLimit ≤ server.live.current.config.maxLimit ∧
    ((server.search moment arguments).isError = true ↔
      ¬∃ query, arguments.get? "query" = some (.string query)) ∧
    ∀ query, arguments.get? "query" = some (.string query) →
      ((∃ message, server.search moment arguments = refuse message) ↔
        Invalid server.live.current.config arguments query) ∧
      (¬Invalid server.live.current.config arguments query →
        ∃ limit mode asPhrase parsed, AsksLimit server.live.current.config arguments limit ∧
          AsksMode arguments mode ∧ AsksPhrase arguments asPhrase ∧
          Query.parse server.live.current.config.tokenizer query mode asPhrase = .ok parsed ∧
          Answers server.live.current parsed limit (server.search moment arguments)) := by
  -- a configuration that was read has limits that are positive and in order
  obtain ⟨hdefault, hle, hmax⟩ := reading.limits
  rw [← hconfig] at hdefault hle hmax
  refine ⟨hle, isError_search_iff moment, ?_⟩
  intro query hquery
  have hvalid := exists_answer_of_valid harguments hdefault hmax hquery moment
  refine ⟨⟨?_, exists_refuse_of_invalid harguments hquery moment⟩, hvalid⟩
  rintro ⟨message, hrefuse⟩
  by_contra hnot
  obtain ⟨limit, mode, asPhrase, parsed, -, -, -, -, hanswers⟩ := hvalid hnot
  exact hanswers.ne_refuse message hrefuse

end Requests

def sample : Server :=
  start (Snapshot.build Index.sampleStore (CommandLine.Reading.config {}) 0 none) "" "" .standard false 0

def sampleRequest : Json :=
  .object [("query", .string "a"), ("limit", .number (.natural 5)), ("mode", .string "OR")]

theorem hasProperFields_sample : sampleRequest.HasProperFields := by
  intro key n h
  have hmem := Json.mem_of_get?_object h
  simp only [List.mem_cons, Prod.mk.injEq, List.not_mem_nil, reduceCtorEq, and_false, or_false,
    false_or, Json.number.injEq] at hmem
  rw [hmem.2]
  trivial

theorem not_invalid_sample : ¬Invalid sample.live.current.config sampleRequest "a" := by
  have hlimit : sampleRequest.get? "limit" = some (.number (.natural 5)) := Json.get?_object _ _
  have hmode : sampleRequest.get? "mode" = some (.string "OR") := Json.get?_object _ _
  have hphrase : sampleRequest.get? "phrase" = none := Json.get?_object _ _
  rw [Invalid, not_or, not_or, not_or, not_not, not_not, not_not]
  have hword : "or" ∈ MatchMode.any.words := by simp [MatchMode.words]
  refine ⟨⟨_, .given hlimit (v := 5) rfl (by decide) (by decide)⟩, ⟨.any, .given hmode hword (by decide)⟩,
    ⟨false, .usual (.inl hphrase)⟩, ?_⟩
  rintro ⟨-, hodd⟩
  exact absurd hodd (by decide)

theorem search_validated_sample :
    sample.live.current.config = CommandLine.Reading.config {} ∧ sampleRequest.HasProperFields ∧
      sampleRequest.get? "query" = some (.string "a") ∧
      ¬Invalid sample.live.current.config sampleRequest "a" ∧
      ∀ moment, ∃ limit mode asPhrase parsed, AsksLimit sample.live.current.config sampleRequest limit ∧
        AsksMode sampleRequest mode ∧ AsksPhrase sampleRequest asPhrase ∧
        Query.parse sample.live.current.config.tokenizer "a" mode asPhrase = .ok parsed ∧
        Answers sample.live.current parsed limit (sample.search moment sampleRequest) := by
  have hquery : sampleRequest.get? "query" = some (.string "a") := Json.get?_object _ _
  refine ⟨rfl, hasProperFields_sample, hquery, not_invalid_sample, ?_⟩
  intro moment
  have hvalidated := search_validated (show sample.live.current.config = CommandLine.Reading.config {} from rfl)
    moment hasProperFields_sample
  exact (hvalidated.2.2 "a" hquery).2 not_invalid_sample

end Server

end Concordance
