import Concordance.Proofs.RankingOrder
import Concordance.Proofs.TextRuns
import Concordance.Proofs.Trimming

/-!
# All clauses or any of them

A query text is planned into the same clauses whether all of them are asked for or any, and a bare `AND`
in it asks for all of them (`exists_parse_eq`). What answers all clauses is what answers any and lacks
none, in the same order and with the same scores (`ranking_all_eq_filter`).
-/

namespace Concordance

open Text

/-! ### The mode of a planned query -/

namespace Plan

/-- A bare `AND` is among the words outside quotation marks; `quoted` says that the first piece lies
inside. -/
def asksForAll (quoted : Bool) : List (List Char) → Bool
  | [] => false
  | piece :: pieces =>
    (!quoted && (words piece).contains "AND".toList) || asksForAll (!quoted) pieces

/-- The mode after a piece of text in which all clauses may be asked for. -/
def modeAfter (asked : Bool) (mode : MatchMode) : MatchMode :=
  if asked then .all else mode

theorem modeAfter_modeAfter (asked asked' : Bool) (mode : MatchMode) :
    modeAfter asked' (modeAfter asked mode) = modeAfter (asked || asked') mode := by
  cases asked <;> cases asked' <;> rfl

/-- A plan in another mode. -/
def withMode (plan : Plan) (mode : MatchMode) : Plan :=
  { plan with mode := mode }

variable [CharacterTable] (config : TokenizerConfig)

/-- Nothing that is read looks at the mode, and only `AND` sets it. -/
theorem readWord_withMode (plan : Plan) (mode : MatchMode) (word : List Char) :
    (plan.withMode mode).readWord config word =
      (plan.readWord config word).withMode (modeAfter (word == "AND".toList) mode) := by
  rw [readWord, readWord]
  split
  · next hword =>
    rw [beq_iff_eq.2 hword]
    rfl
  · next hword =>
    rw [beq_eq_false_iff_ne.2 hword]
    split
    · rfl
    · rfl

/-- The mode is set by the words alone, and nothing else in the plan depends on it. -/
theorem foldl_readWord_withMode (words : List (List Char)) (plan : Plan) (mode : MatchMode) :
    words.foldl (readWord config) (plan.withMode mode) =
      (words.foldl (readWord config) plan).withMode (modeAfter (words.contains "AND".toList) mode) := by
  induction words generalizing plan mode with
  | nil => rfl
  | cons word words ih =>
    rw [List.foldl_cons, List.foldl_cons, readWord_withMode, ih, modeAfter_modeAfter, List.contains_cons,
      BEq.comm]

theorem readQuoted_withMode (plan : Plan) (mode : MatchMode) (text : List Char) :
    (plan.withMode mode).readQuoted config text = (plan.readQuoted config text).withMode mode := by
  rw [readQuoted, readQuoted]
  split
  · rfl
  · rfl
  · rfl

/-- The mode that a plan begins with makes no difference to what is read, and an operator overrides it. -/
theorem readPieces_withMode (quoted : Bool) (pieces : List (List Char)) (plan : Plan) (mode : MatchMode) :
    (plan.withMode mode).readPieces config quoted pieces =
      (plan.readPieces config quoted pieces).withMode (modeAfter (asksForAll quoted pieces) mode) := by
  induction pieces generalizing plan quoted mode with
  | nil => rfl
  | cons piece pieces ih =>
    simp only [readPieces, asksForAll]
    cases quoted with
    | true =>
      rw [if_pos rfl, if_pos rfl, readQuoted_withMode, ih]
      rfl
    | false =>
      rw [if_neg Bool.false_ne_true, if_neg Bool.false_ne_true, foldl_readWord_withMode, ih,
        modeAfter_modeAfter]
      rfl

end Plan

/-- A text without an unbalanced quotation mark is planned into clauses that do not depend on the mode.
-/
theorem Query.exists_parse_eq [CharacterTable] (config : TokenizerConfig) {text : String} {asPhrase : Bool}
    (h : asPhrase = false → text.toList.count '"' % 2 = 0) :
    ∃ clauses, ∀ mode, Query.parse config text mode asPhrase = .ok ⟨clauses,
      Plan.modeAfter (!asPhrase && Plan.asksForAll false (Text.splitAt '"' text.toList)) mode⟩ := by
  cases asPhrase with
  | true => exact ⟨_, fun mode => rfl⟩
  | false =>
    have hbalanced : ¬text.toList.count '"' % 2 = 1 := by
      rw [h rfl]
      decide
    refine ⟨(Plan.readPieces config { mode := .any } false (Text.splitAt '"' text.toList)).query.clauses,
      fun mode => ?_⟩
    have hread := Plan.readPieces_withMode config false (Text.splitAt '"' text.toList) { mode := .any } mode
    rw [Plan.withMode] at hread
    rw [Query.parse, if_neg Bool.false_ne_true, if_neg hbalanced, hread]
    rfl

/-! ### A bare `AND` -/

/-- The word `AND` stands in a text, outside quotation marks, with white space, a quotation mark or an
end of the text on either side. -/
def HasBareAnd (text : List Char) : Prop :=
  ∃ before behind, text = before ++ "AND".toList ++ behind ∧ before.count '"' % 2 = 0 ∧
    (∀ c ∈ before.getLast?, isBlank c = true ∨ c = '"') ∧
    ∀ c ∈ behind.head?, isBlank c = true ∨ c = '"'

/-- Between white space or the ends of a text stands a word. -/
theorem mem_words {before word behind : List Char} (hne : word ≠ [])
    (hword : ∀ c ∈ word, isBlank c = false) (hbefore : ∀ c ∈ before.getLast?, isBlank c = true)
    (hbehind : ∀ c ∈ behind.head?, isBlank c = true) : word ∈ words (before ++ word ++ behind) := by
  have hcuts {s : Char} (hs : isBlank s = true) (front rest : List Char) :
      words (front ++ s :: rest) = words front ++ words rest :=
    runsOf_append_separator (by simp [hs]) front rest
  have hself : words word = [word] := runsOf_of_all hne fun c hc => by simp [hword c hc]
  have hend : word ∈ words (word ++ behind) := by
    cases behind with
    | nil => simp [hself]
    | cons s rest => simp [hcuts (hbehind s rfl), hself]
  rcases List.eq_nil_or_concat before with rfl | ⟨front, s, rfl⟩
  · exact hend
  · have hs : isBlank s = true := hbefore s (by simp)
    rw [List.concat_eq_append, List.append_assoc, List.append_assoc, List.singleton_append, hcuts hs]
    exact List.mem_append_right _ hend

/-- The first piece of a split ends before the first separator. -/
theorem exists_splitBy_eq (q : Char → Bool) (cs : List Char) :
    ∃ pieces, splitBy q cs = cs.takeWhile (fun c => !q c) :: pieces := by
  induction cs with
  | nil => exact ⟨[], rfl⟩
  | cons c cs ih =>
    obtain ⟨pieces, hpieces⟩ := ih
    rw [splitBy, hpieces]
    cases hc : q c with
    | true => exact ⟨_, by simp [hc]; rfl⟩
    | false => exact ⟨pieces, by simp [hc]⟩

theorem and_plain : ∀ c ∈ "AND".toList, isBlank c = false ∧ (!(c == '"')) = true := by
  simp [isBlank]

/-- A bare `AND` is a word of the text up to the next quotation mark, if none stands before it. -/
theorem and_mem_words {before behind : List Char} (hplain : ∀ c ∈ before, (!(c == '"')) = true)
    (hbefore : ∀ c ∈ before.getLast?, isBlank c = true ∨ c = '"')
    (hbehind : ∀ c ∈ behind.head?, isBlank c = true ∨ c = '"') :
    "AND".toList ∈ words (before ++ "AND".toList ++ behind.takeWhile fun c => !(c == '"')) := by
  refine mem_words (List.cons_ne_nil _ _) (fun c hc => (and_plain c hc).1) (fun c hc => ?_)
    fun c hc => ?_
  · refine (hbefore c hc).resolve_right fun hquote => ?_
    exact absurd (hplain c (List.mem_of_getLast? hc)) (by simp [hquote])
  · cases behind with
    | nil => cases hc
    | cons d rest =>
      rw [List.takeWhile_cons] at hc
      split at hc
      · next hd =>
        cases hc
        exact (hbehind c rfl).resolve_right fun hquote => absurd hd (by simp [hquote])
      · cases hc

/-- Where the characters before it that are quotation marks are paired, a bare `AND` asks for all
clauses. -/
theorem asksForAll_splitAt {before behind : List Char} {quoted : Bool}
    (hparity : (before.count '"' + quoted.toNat) % 2 = 0)
    (hbefore : ∀ c ∈ before.getLast?, isBlank c = true ∨ c = '"')
    (hbehind : ∀ c ∈ behind.head?, isBlank c = true ∨ c = '"') :
    Plan.asksForAll quoted (Text.splitAt '"' (before ++ "AND".toList ++ behind)) = true := by
  -- along the quotation marks that come before the word
  induction before using separator_induction (p := fun c => !(c == '"')) generalizing quoted with
  | run cs h =>
    have hnone : cs.count '"' = 0 := List.count_eq_zero.2 fun hmem => absurd (h _ hmem) (by decide)
    obtain rfl : quoted = false := by
      cases quoted with
      | false => rfl
      | true =>
        rw [hnone] at hparity
        cases hparity
    obtain ⟨pieces, hpieces⟩ := exists_splitBy_eq (· == '"') (cs ++ "AND".toList ++ behind)
    rw [List.append_assoc, List.takeWhile_append_of_pos h,
      List.takeWhile_append_of_pos fun c hc => (and_plain c hc).2,
      ← List.append_assoc, ← List.append_assoc] at hpieces
    rw [Text.splitAt, hpieces, Plan.asksForAll, List.contains_iff_mem.2 (and_mem_words h hbefore hbehind)]
    rfl
  | separator cs s rest h hs ih =>
    obtain rfl : s = '"' := by simpa using hs
    have hnone : cs.count '"' = 0 := List.count_eq_zero.2 fun hmem => absurd (h _ hmem) (by decide)
    have hfirst : splitBy (· == '"') cs = [cs] := splitBy_of_none fun c hc => by simpa using h c hc
    rw [Text.splitAt, List.append_assoc, List.append_assoc, List.cons_append,
      splitBy_append_cons (q := fun c => c == '"') rfl, hfirst, List.singleton_append, Plan.asksForAll,
      ← List.append_assoc, Bool.or_eq_true]
    refine .inr (ih ?_ fun c hc => ?_)
    · -- one quotation mark less, and on its other side
      rw [List.count_append, hnone, List.count_cons_self] at hparity
      cases quoted with
      | true =>
        simp only [Bool.not_true, Bool.toNat_true, Bool.toNat_false] at hparity ⊢
        omega
      | false =>
        simp only [Bool.not_false, Bool.toNat_true, Bool.toNat_false] at hparity ⊢
        omega
    · refine hbefore c ?_
      rw [List.getLast?_append, List.getLast?_cons, Option.mem_def.1 hc]
      rfl

/-- A bare `AND` asks for all clauses. -/
theorem HasBareAnd.asksForAll {text : List Char} (h : HasBareAnd text) :
    Plan.asksForAll false (Text.splitAt '"' text) = true := by
  obtain ⟨before, behind, rfl, hparity, hbefore, hbehind⟩ := h
  exact asksForAll_splitAt hparity hbefore hbehind

/-! ### What answers all clauses -/

namespace Ranking

variable {α : Type} [Scalar α]

/-- The clauses of a query are tallied before its mode is looked at. -/
theorem found_all_eq_filter (index : Index α) (weights : Weights α) (store : Store)
    (clauses : List Clause) :
    found index weights store ⟨clauses, .all⟩ =
      (found index weights store ⟨clauses, .any⟩).filter fun r => r.matched = r.total := by
  have htally : tally index weights ⟨clauses, .all⟩ = tally index weights ⟨clauses, .any⟩ := rfl
  rw [found, found, htally, List.filterMap_filter, List.filterMap_filter, List.filter_filterMap]
  refine List.filterMap_congr fun entry _ => ?_
  obtain ⟨n, t⟩ := entry
  have hany : answers ⟨clauses, .any⟩ t = true := Bool.true_or _
  have hall : answers ⟨clauses, .all⟩ t = decide (t.matched = clauses.length) := Bool.false_or _
  simp only [hany, hall, if_true, ranked?]
  cases store.document? n with
  | none => simp
  | some d => rw [Option.map_some, Option.filter_some]

variable [Std.TransCmp (Scalar.order : α → α → Ordering)]

/-- Of two results only one stands before the other. -/
theorem Outranks.asymm {a b : Ranked α} (h : Outranks a b) : ¬Outranks b a := by
  have hswap : Scalar.order b.score a.score = (Scalar.order a.score b.score).swap :=
    Std.OrientedCmp.eq_swap
  rintro (h' | ⟨h', hid'⟩)
  · rw [hswap] at h'
    rcases h with h | ⟨h, -⟩
    · rw [h] at h'
      cases h'
    · rw [h] at h'
      cases h'
  · rw [hswap] at h'
    rcases h with h | ⟨-, hid⟩
    · rw [h] at h'
      cases h'
    · exact String.lt_asymm hid hid'

/-- What answers all clauses is what answers any and matches as many as there are, in the same order. -/
theorem rank_all_eq_filter (index : Index α) (weights : Weights α) (store : Store)
    (clauses : List Clause) :
    rank index weights store ⟨clauses, .all⟩ =
      (rank index weights store ⟨clauses, .any⟩).filter fun r => r.matched = r.total := by
  have hperm : (rank index weights store ⟨clauses, .all⟩).Perm
      ((rank index weights store ⟨clauses, .any⟩).filter fun r => r.matched = r.total) := by
    rw [rank_eq, rank_eq, found_all_eq_filter]
    exact (List.mergeSort_perm _ _).trans ((List.mergeSort_perm _ _).filter _).symm
  -- a strict order puts the same results in one way only
  refine hperm.eq_of_pairwise ?_ pairwise_outranks_rank (pairwise_outranks_rank.filter _)
  exact fun a b _ _ hab hba => absurd hba hab.asymm

end Ranking

/-- The same for the ranking of a snapshot. -/
theorem Snapshot.ranking_all_eq_filter (snapshot : Snapshot Float) (clauses : List Clause) :
    snapshot.ranking ⟨clauses, .all⟩ =
      (snapshot.ranking ⟨clauses, .any⟩).filter fun r => r.matched = r.total := by
  have hempty : (⟨clauses, .all⟩ : Query).isEmpty = (⟨clauses, .any⟩ : Query).isEmpty := rfl
  rw [Snapshot.ranking, Snapshot.ranking, hempty]
  split
  · rfl
  · exact Ranking.rank_all_eq_filter _ _ _ _

/-- Asking for all clauses is asking for any and keeping what matches as many clauses as there are.
Whatever index, store and weights a snapshot has: a text without an unbalanced quotation mark is planned
in either mode, and the ranking of the query for all clauses is that of the other query, put into the
mode of any clause, without the results that lack a clause; the others keep their order, scores and
terms. If the text is not taken as one phrase and holds a bare `AND`, both queries are the same. -/
theorem ranking_all_filters_any [CharacterTable] (snapshot : Snapshot Float) (text : String) (asPhrase : Bool)
    (h : asPhrase = false → text.toList.count '"' % 2 = 0) :
    ∃ all any, Query.parse snapshot.config.tokenizer text .all asPhrase = .ok all ∧
      Query.parse snapshot.config.tokenizer text .any asPhrase = .ok any ∧
      snapshot.ranking all =
        (snapshot.ranking { any with mode := .any }).filter (fun r => r.matched = r.total) ∧
      (asPhrase = false → HasBareAnd text.toList → any = all) := by
  obtain ⟨clauses, hparse⟩ := Query.exists_parse_eq snapshot.config.tokenizer h
  refine ⟨_, _, hparse .all, hparse .any, ?_, ?_⟩
  · have hall (asked : Bool) : Plan.modeAfter asked .all = .all := ite_self _
    rw [hall]
    exact snapshot.ranking_all_eq_filter clauses
  · intro hphrase hand
    rw [hphrase, hand.asksForAll]
    rfl

theorem hasBareAnd_sample : HasBareAnd "x AND \"y z\"".toList := by
  refine ⟨['x', ' '], [' ', '"', 'y', ' ', 'z', '"'], by decide, by decide, ?_, ?_⟩
  · rintro c ⟨⟩
    exact .inl (by decide)
  · rintro c ⟨⟩
    exact .inl (by decide)

/-- With `AND` in the text, only what matches both clauses is left. -/
theorem ranking_all_filters_any_sample :
    "x AND \"y z\"".toList.count '"' % 2 = 0 ∧ HasBareAnd "x AND \"y z\"".toList ∧
      ∃ all any, Query.parse disorderlySnapshot.config.tokenizer "x AND \"y z\"" .all false = .ok all ∧
        Query.parse disorderlySnapshot.config.tokenizer "x AND \"y z\"" .any false = .ok any ∧
        disorderlySnapshot.ranking all =
          (disorderlySnapshot.ranking { any with mode := .any }).filter (fun r => r.matched = r.total) ∧
        any = all :=
  have hbalanced : "x AND \"y z\"".toList.count '"' % 2 = 0 := by decide
  have ⟨all, any, hall, hany, hranking, hsame⟩ :=
    ranking_all_filters_any disorderlySnapshot "x AND \"y z\"" false fun _ => hbalanced
  ⟨hbalanced, hasBareAnd_sample, all, any, hall, hany, hranking, hsame rfl hasBareAnd_sample⟩

end Concordance
