import Concordance.Proofs.ByteOrder
import Concordance.Proofs.LosslessSnapshots
import Concordance.Proofs.PhraseHits
import Concordance.Proofs.RankingOrder

/-!
# What the check of an index is good for

The check accepts the well-formed indexes and no others, and of an index that it refuses it names the first
thing that is wrong: the terms are gone through in the order of their bytes, and the postings of a term from
the start. In a snapshot that was put together every posting is of a document of the store, so each document
that some clause hits is found when any clause will do.
-/

namespace Concordance

open Text

/-- The entries before an entry are those with smaller keys. -/
theorem SortedMap.mem_before_iff {α : Type} {map : SortedMap α} {before behind : List (String × α)}
    {entry other : String × α} (h : map.entries = before ++ entry :: behind) :
    other ∈ before ↔ other ∈ map.entries ∧ other.1 < entry.1 := by
  obtain ⟨-, hbehind, hbefore⟩ := List.pairwise_append.1 (h ▸ map.ascending)
  rw [h]
  constructor
  · intro hother
    exact ⟨List.mem_append_left _ hother, hbefore other hother entry List.mem_cons_self⟩
  · rintro ⟨hother, hlt⟩
    rcases List.mem_append.1 hother with hother | hother
    · exact hother
    · rcases List.mem_cons.1 hother with rfl | hother
      · exact absurd hlt (String.lt_irrefl _)
      · exact absurd hlt (String.lt_asymm ((List.pairwise_cons.1 hbehind).1 other hother))

namespace Index

/-! ### The first fault -/

/-- A posting that may stand behind those of the documents `seen`. -/
structure Follows (count : UInt32) (seen : List DocId) (p : Posting) : Prop where
  known : p.document < count
  ascending : ∀ d ∈ seen, d < p.document
  consistent : Consistent p

/-- A posting that may not stand behind those of the documents `seen`, and what is said of it. -/
inductive Offends (count : UInt32) (term : String) (seen : List DocId) (p : Posting) :
    IndexFault → Prop where
  | unknown : count ≤ p.document → Offends count term seen p (.unknownDocument term p.document count)
  | unordered : p.document < count → (∃ d ∈ seen, p.document ≤ d) →
      Offends count term seen p (.unorderedPostings term p.document)
  | inconsistent : p.document < count → (∀ d ∈ seen, d < p.document) → ¬Consistent p →
      Offends count term seen p (.badPositions term p.document)

/-- The first posting that offends, behind those of the documents `seen`. -/
def FirstOffence (count : UInt32) (term : String) (seen : List DocId) (postings : List Posting)
    (fault : IndexFault) : Prop :=
  ∃ before p behind, postings = before ++ p :: behind ∧
    (seen ++ before.map Posting.document).Pairwise (· < ·) ∧
    (∀ q ∈ before, q.document < count ∧ Consistent q) ∧
    Offends count term (seen ++ before.map Posting.document) p fault

/-- What is wrong with the postings of a term. -/
inductive TermFault (count : UInt32) (term : String) : List Posting → IndexFault → Prop where
  | empty : TermFault count term [] (.noPostings term)
  | posting {postings : List Posting} {fault : IndexFault} :
      FirstOffence count term [] postings fault → TermFault count term postings fault

/-- The first thing that is wrong with an index: the table of lengths, or else something in the postings of
the first term, by the order of bytes, whose postings are not orderly. -/
inductive FirstFault {α : Type} (index : Index α) : IndexFault → Prop where
  | lengths : index.lengths.length ≠ index.documentCount.toNat →
      FirstFault index (.lengthMismatch index.documentCount.toNat index.lengths.length)
  | term {t : String} {postings : List Posting} {fault : IndexFault} :
      index.lengths.length = index.documentCount.toNat → (t, postings) ∈ index.terms.entries →
      (∀ entry ∈ index.terms.entries, encode entry.1 < encode t →
        Orderly index.documentCount entry.2) →
      TermFault index.documentCount t postings fault → FirstFault index fault

section Fault

variable {count : UInt32} {term : String} {seen : List DocId} {p : Posting} {postings : List Posting}
  {fault : IndexFault}

/-- In ascending order the last document decides about all of them. -/
theorem any_getLast?_iff (h : seen.Pairwise (· < ·)) (n : DocId) :
    seen.getLast?.any (fun d => n ≤ d) = true ↔ ∃ d ∈ seen, n ≤ d := by
  rcases List.eq_nil_or_concat' seen with rfl | ⟨front, last, rfl⟩
  · simp
  · rw [List.getLast?_concat, Option.any_some, decide_eq_true_eq]
    constructor
    · exact fun hle => ⟨last, by simp, hle⟩
    · rintro ⟨d, hd, hle⟩
      rcases List.mem_append.1 hd with hd | hd
      · have hlt := (List.pairwise_append.1 h).2.2 d hd last List.mem_cons_self
        exact UInt32.le_trans hle (UInt32.le_of_lt hlt)
      · rwa [List.mem_singleton.1 hd] at hle

/-- The first posting offends, or another one does behind it. -/
theorem firstOffence_cons (hseen : seen.Pairwise (· < ·)) :
    FirstOffence count term seen (p :: postings) fault ↔
      Offends count term seen p fault ∨
        Follows count seen p ∧ FirstOffence count term (seen ++ [p.document]) postings fault := by
  constructor
  · rintro ⟨before, q, behind, hpostings, hascending, hgood, hoffends⟩
    cases before with
    -- the offence is the first posting itself, or comes behind it and the first posting follows what was
    -- seen
    | nil =>
        obtain ⟨rfl, rfl⟩ := List.cons.inj hpostings
        rw [List.map_nil, List.append_nil] at hoffends
        exact .inl hoffends
    | cons first before =>
        obtain ⟨rfl, rfl⟩ := List.cons.inj hpostings
        rw [List.map_cons] at hascending hoffends
        have hp := hgood p List.mem_cons_self
        refine .inr ⟨⟨hp.1, fun d hd => ?_, hp.2⟩, before, q, behind, rfl, ?_, ?_, ?_⟩
        · exact (List.pairwise_append.1 hascending).2.2 d hd _ List.mem_cons_self
        · rwa [List.append_assoc, List.singleton_append]
        · exact fun q hq => hgood q (List.mem_cons_of_mem _ hq)
        · rwa [List.append_assoc, List.singleton_append]
  · rintro (hoffends | ⟨hfollows, before, q, behind, rfl, hascending, hgood, hoffends⟩)
    · exact ⟨[], p, postings, rfl, by simpa using hseen, by simp, by simpa using hoffends⟩
    · rw [List.append_assoc, List.singleton_append] at hascending hoffends
      refine ⟨p :: before, q, behind, rfl, hascending, fun r hr => ?_, hoffends⟩
      rcases List.mem_cons.1 hr with rfl | hr
      · exact ⟨hfollows.known, hfollows.consistent⟩
      · exact hgood r hr

/-- Only one thing is said of a posting. -/
theorem Offends.unique {fault' : IndexFault} (h : Offends count term seen p fault)
    (h' : Offends count term seen p fault') : fault = fault' := by
  have hnot {d : DocId} (hall : ∀ d ∈ seen, d < p.document) (hd : d ∈ seen) (hle : p.document ≤ d) :
      False :=
    UInt32.not_le.2 (hall d hd) hle
  cases h with
  | unknown hunknown =>
      cases h' with
      | unknown => rfl
      | unordered hknown => exact absurd hknown (UInt32.not_lt.2 hunknown)
      | inconsistent hknown => exact absurd hknown (UInt32.not_lt.2 hunknown)
  | unordered hknown hunordered =>
      obtain ⟨d, hd, hle⟩ := hunordered
      cases h' with
      | unknown hunknown => exact absurd hknown (UInt32.not_lt.2 hunknown)
      | unordered => rfl
      | inconsistent _ hascending => exact (hnot hascending hd hle).elim
  | inconsistent hknown hascending =>
      cases h' with
      | unknown hunknown => exact absurd hknown (UInt32.not_lt.2 hunknown)
      | unordered _ hunordered =>
          obtain ⟨d, hd, hle⟩ := hunordered
          exact (hnot hascending hd hle).elim
      | inconsistent => rfl

/-- What offends does not follow what was seen, so no posting is passed over. -/
theorem Offends.not_follows (h : Offends count term seen p fault) : ¬Follows count seen p := by
  intro hfollows
  cases h with
  | unknown hunknown => exact UInt32.not_lt.2 hunknown hfollows.known
  | unordered _ hunordered =>
      obtain ⟨d, hd, hle⟩ := hunordered
      exact UInt32.not_le.2 (hfollows.ascending d hd) hle
  | inconsistent _ _ hinconsistent => exact hinconsistent hfollows.consistent

theorem Offends.eq_iff {fault' : IndexFault} {rest : Prop} (h : Offends count term seen p fault') :
    some fault' = some fault ↔ Offends count term seen p fault ∨ Follows count seen p ∧ rest := by
  rw [Option.some.injEq, or_iff_left fun hfollows => h.not_follows hfollows.1]
  exact ⟨fun heq => heq ▸ h, h.unique⟩

/-- The check of postings finds a fault exactly where the first offence is, and tells it. Of the documents
that came before, it only knows the last one, which is enough as they ascend. -/
theorem faultIn?_eq_some_iff (hseen : seen.Pairwise (· < ·)) :
    faultIn? count term seen.getLast? postings = some fault ↔
      FirstOffence count term seen postings fault := by
  induction postings generalizing seen with
  | nil => simp [faultIn?, FirstOffence]
  | cons p rest ih =>
      rw [faultIn?, firstOffence_cons hseen]
      split
      · next hunknown => exact (Offends.unknown hunknown).eq_iff
      · next hknown =>
          have hknown : p.document < count := UInt32.not_le.1 hknown
          split
          · next hunordered =>
              exact (Offends.unordered hknown ((any_getLast?_iff hseen _).1 hunordered)).eq_iff
          · next hordered =>
              have hascending : ∀ d ∈ seen, d < p.document := fun d hd =>
                UInt32.not_le.1 fun hle => hordered ((any_getLast?_iff hseen _).2 ⟨d, hd, hle⟩)
              split
              · next hbad =>
                  have hinconsistent : ¬Consistent p := by
                    rw [← isConsistent_iff]
                    simpa using hbad
                  exact (Offends.inconsistent hknown hascending hinconsistent).eq_iff
              · next hgood =>
                  have hfollows : Follows count seen p :=
                    ⟨hknown, hascending, isConsistent_iff.1 (by simpa using hgood)⟩
                  have hbehind : (seen ++ [p.document]).Pairwise (· < ·) :=
                    List.pairwise_append.2 ⟨hseen, List.pairwise_singleton _ _,
                      fun d hd e he => List.mem_singleton.1 he ▸ hascending d hd⟩
                  -- this posting is in order, so the first offence lies among those behind it
                  rw [or_iff_right fun h => h.not_follows hfollows, and_iff_right hfollows, ← ih hbehind,
                    List.getLast?_concat]

/-- The check of a term finds what is wrong with its postings: that there are none, or the first offence. -/
theorem faultOf?_eq_some_iff :
    faultOf? count term postings = some fault ↔ TermFault count term postings fault := by
  have hstart : faultIn? count term none postings = some fault ↔
      FirstOffence count term [] postings fault := faultIn?_eq_some_iff List.Pairwise.nil
  rw [faultOf?]
  split
  · -- a term without postings is the fault before any posting is read
    next hempty =>
      rw [List.isEmpty_iff.1 hempty, Option.some.injEq]
      constructor
      · rintro rfl
        exact .empty
      · rintro (_ | ⟨_, _, _, hnil, -⟩)
        · rfl
        · simp at hnil
  · next hsome =>
      rw [hstart]
      constructor
      · exact .posting
      · rintro (_ | hoffence)
        · exact absurd rfl hsome
        · exact hoffence

end Fault

/-- What the check reports is the first thing that is wrong. -/
theorem fault?_eq_some_iff {α : Type} {index : Index α} {fault : IndexFault} :
    index.fault? = some fault ↔ FirstFault index fault := by
  rw [fault?]
  split
  · next hlengths =>
      constructor
      · rintro ⟨⟩
        exact .lengths hlengths
      · rintro (_ | ⟨hright, -⟩)
        · rfl
        · exact absurd hright hlengths
  · next hlengths =>
      rw [List.findSome?_eq_some_iff]
      constructor
      · -- the entries ascend by their texts, so those before the found one are exactly those of smaller
        -- terms
        rintro ⟨before, ⟨t, postings⟩, behind, hentries, hfault, hbefore⟩
        have hmem : (t, postings) ∈ index.terms.entries := hentries ▸ by simp
        refine .term (not_not.1 hlengths) hmem (fun entry hentry hlt => ?_) (faultOf?_eq_some_iff.1 hfault)
        rw [encode_lt_encode_iff] at hlt
        exact faultOf?_eq_none_iff.1 (hbefore entry ((SortedMap.mem_before_iff hentries).2 ⟨hentry, hlt⟩))
      · rintro (hwrong | ⟨-, hmem, hbefore, hfault⟩)
        · exact absurd hwrong hlengths
        · obtain ⟨before, behind, hentries⟩ := List.append_of_mem hmem
          refine ⟨before, _, behind, hentries, faultOf?_eq_some_iff.2 hfault, fun entry hentry => ?_⟩
          obtain ⟨hentry, hlt⟩ := (SortedMap.mem_before_iff hentries).1 hentry
          exact faultOf?_eq_none_iff.2 (hbefore entry hentry (encode_lt_encode_iff.2 hlt))

/-- The second posting is out of order and its positions are, too; a later term has no postings. -/
example : ({ refrain with
    terms := .ofList [("da", [⟨1, 1, 0, [6]⟩]), ("la", [⟨1, 1, 1, [4]⟩, ⟨0, 2, 0, [7, 7]⟩]), ("re", [])] :
      Index Unit }).fault? = some (.unorderedPostings "la" 0) := by
  decide

/-! ### The documents that a clause hits -/

variable {α : Type} {index : Index α} {n : DocId}

/-- A document that a phrase hits has a posting of the first term. -/
theorem mem_document_of_mem_phraseHits (h : index.WellFormed) {t : String} {ts : List String}
    {count : UInt32} (hmem : (n, count) ∈ (index.phraseHits (t :: ts)).value) :
    n ∈ (index.postings t).map Posting.document := by
  rw [value_phraseHits] at hmem
  dsimp only at hmem
  split at hmem
  · cases hmem
  · obtain ⟨m, hm, hhit⟩ := List.mem_filterMap.1 hmem
    rw [Option.ite_none_left_eq_some, Option.some.injEq, Prod.mk.injEq] at hhit
    obtain ⟨-, rfl, -⟩ := hhit
    exact h.mem_commonDocuments_iff.1 hm t List.mem_cons_self

theorem WellFormed.known (h : index.WellFormed) {t : String} {p : Posting} (hp : p ∈ index.postings t) :
    p.document < index.documentCount :=
  (h.orderly _ (mem_entries_of_mem_postings hp)).known p hp

/-- A clause hits documents that the index counts. -/
theorem WellFormed.lt_of_mem_hits [Scalar α] (h : index.WellFormed) {weights : Weights α} {clause : Clause}
    (hmem : n ∈ (Ranking.hits index weights clause).map Prod.fst) : n < index.documentCount := by
  obtain ⟨⟨m, frequency⟩, hhit, rfl⟩ := List.mem_map.1 hmem
  cases clause with
  | term t =>
      obtain ⟨p, hp, heq⟩ := List.mem_map.1 hhit
      cases heq
      exact h.known hp
  | phrase ts =>
      obtain ⟨⟨k, count⟩, hk, heq⟩ := List.mem_map.1 hhit
      cases heq
      cases ts with
      | nil => simp [value_phraseHits, commonDocuments] at hk
      | cons t ts =>
          obtain ⟨p, hp, heq⟩ := List.mem_map.1 (mem_document_of_mem_phraseHits h hk)
          exact heq ▸ h.known hp

end Index

/-! ### The documents that are ranked -/

namespace Ranking

variable {α β : Type} {m : DocId}

/-- If a step adds the documents that an item brings, a run adds those of all items. -/
theorem mem_map_fst_foldl {step : List (DocId × Tally α) → β → List (DocId × Tally α)} {brings : β → Prop}
    (hstep : ∀ tallies x, m ∈ (step tallies x).map Prod.fst ↔ m ∈ tallies.map Prod.fst ∨ brings x)
    (items : List β) (tallies : List (DocId × Tally α)) :
    m ∈ (items.foldl step tallies).map Prod.fst ↔ m ∈ tallies.map Prod.fst ∨ ∃ x ∈ items, brings x := by
  induction items generalizing tallies with
  | nil => simp
  | cons x items ih => rw [List.foldl_cons, ih, hstep, List.exists_mem_cons_iff, or_assoc]

variable [Scalar α] {index : Index α} {weights : Weights α} {store : Store} {query : Query}

/-- A clause gives a tally to the documents that it hits, and takes none away. -/
theorem mem_map_fst_tallyClause (tallies : List (DocId × Tally α)) (clause : Clause) :
    m ∈ (tallyClause index weights tallies clause).map Prod.fst ↔
      m ∈ tallies.map Prod.fst ∨ m ∈ (hits index weights clause).map Prod.fst := by
  have hhits : m ∈ (hits index weights clause).map Prod.fst ↔
      ∃ hit ∈ hits index weights clause, m = hit.1 := by
    rw [List.mem_map]
    simp only [eq_comm]
  rw [hhits, tallyClause]
  refine mem_map_fst_foldl (fun tallies hit => ?_) _ _
  exact mem_map_fst_alterTally

/-- The documents with a tally are those that some clause hits. -/
theorem mem_map_fst_tally_iff :
    m ∈ (tally index weights query).map Prod.fst ↔
      ∃ clause ∈ query.clauses, m ∈ (hits index weights clause).map Prod.fst := by
  rw [tally, mem_map_fst_foldl mem_map_fst_tallyClause, List.map_nil, or_iff_right List.not_mem_nil]

/-- If all of them are documents of the store, they are the results where any clause will do. -/
theorem mem_document_rank_iff (hmode : query.mode = .any)
    (hknown : ∀ clause ∈ query.clauses, ∀ n ∈ (hits index weights clause).map Prod.fst,
      ∃ d, store.document? n = some d) :
    m ∈ (rank index weights store query).map Ranked.document ↔
      ∃ clause ∈ query.clauses, m ∈ (hits index weights clause).map Prod.fst := by
  have hperm := (List.mergeSort_perm (found index weights store query) precedes).map Ranked.document
  rw [rank_eq, hperm.mem_iff, ← mem_map_fst_tally_iff]
  constructor
  · intro h
    obtain ⟨r, hr, rfl⟩ := List.mem_map.1 h
    obtain ⟨entry, hentry, hranked⟩ := List.mem_filterMap.1 hr
    rw [(document?_of_ranked? hranked).1]
    exact List.mem_map_of_mem (List.mem_filter.1 hentry).1
  · intro h
    obtain ⟨clause, hclause, hhit⟩ := mem_map_fst_tally_iff.1 h
    -- a hit could only be lost where the store has no document of its number
    obtain ⟨d, hd⟩ := hknown clause hclause m hhit
    obtain ⟨⟨n, t⟩, hentry, rfl⟩ := List.mem_map.1 h
    have hanswers : answers query t = true := by rw [answers, hmode]; rfl
    have hranked : ranked? store query (n, t) =
        some ⟨n, d.id, score t.matched t.sum, t.sum, t.matched, query.clauses.length, t.terms⟩ := by
      rw [ranked?, hd, Option.map_some]
    exact List.mem_map.2 ⟨_, List.mem_filterMap.2 ⟨_, List.mem_filter.2 ⟨hentry, hanswers⟩, hranked⟩, rfl⟩

end Ranking

namespace Snapshot

variable {α : Type} {snapshot : Snapshot α}

/-- A sound snapshot has a document of every number that its index counts. -/
theorem Sound.exists_document? (h : snapshot.Sound) {n : DocId} (hn : n < snapshot.index.documentCount) :
    ∃ d, snapshot.store.document? n = some d := by
  have hlt : n.toNat < snapshot.store.size := h.counted ▸ UInt32.lt_iff_toNat_lt.1 hn
  exact ⟨_, List.getElem?_eq_getElem hlt⟩

variable [Scalar α]

/-- Where any clause is enough, exactly the documents that some clause hits are ranked. -/
theorem Sound.mem_document_ranking_iff (h : snapshot.Sound) {query : Query} (hmode : query.mode = .any)
    {n : DocId} :
    n ∈ (snapshot.ranking query).map Ranked.document ↔
      ∃ clause ∈ query.clauses,
        n ∈ (Ranking.hits snapshot.index snapshot.config.weights clause).map Prod.fst := by
  have hwell := Index.fault?_eq_none_iff.1 h.verified
  rw [ranking]
  split
  · next hempty =>
      rw [Query.isEmpty, List.isEmpty_iff] at hempty
      simp [hempty]
  · -- a document that a clause hits is one of the store, so none is lost on the way
    exact Ranking.mem_document_rank_iff hmode fun clause _ m hm =>
      h.exists_document? (hwell.lt_of_mem_hits hm)

end Snapshot

/-- The check accepts the well-formed indexes and no others, and what it reports of another one is the first
thing that is wrong with it. So in a snapshot that was put together every posting is of a document of the
store, and if any clause will do, the results are the documents that some clause hits, each once. -/
theorem verified_exactly_when_well_formed {α : Type} [Scalar α] (index : Index α) :
    (index.fault? = none ↔ index.WellFormed) ∧
    (∀ fault, index.fault? = some fault ↔ index.FirstFault fault) ∧
    ∀ (store : Store) (config : Config α) (builtAt : UInt64) (fingerprint : Option UInt64)
      (snapshot : Snapshot α), Snapshot.ofParts store index config builtAt fingerprint = .ok snapshot →
        (∀ entry ∈ snapshot.index.terms.entries, ∀ p ∈ entry.2,
          ∃ d, snapshot.store.document? p.document = some d) ∧
        ∀ query : Query, query.mode = .any →
          ((snapshot.ranking query).map Ranked.document).Nodup ∧
          ∀ n, n ∈ (snapshot.ranking query).map Ranked.document ↔
            ∃ clause ∈ query.clauses,
              n ∈ (Ranking.hits snapshot.index snapshot.config.weights clause).map Prod.fst := by
  refine ⟨Index.fault?_eq_none_iff, fun fault => Index.fault?_eq_some_iff, ?_⟩
  intro store config builtAt fingerprint snapshot hparts
  have hsound := Snapshot.sound_of_ofParts hparts
  have hwell := Index.fault?_eq_none_iff.1 hsound.verified
  exact ⟨fun entry hentry p hp => hsound.exists_document? ((hwell.orderly entry hentry).known p hp),
    fun query hmode => ⟨Snapshot.nodup_document_ranking, fun n => hsound.mem_document_ranking_iff hmode⟩⟩

/-- A snapshot of two documents that both have one term; one of them has another term behind it. -/
def duet : Snapshot Float where
  store := disorderlySnapshot.store
  index :=
    { terms := SortedMap.ofList [("la", [⟨0, 2, 1, [0, 3]⟩, ⟨1, 1, 0, [5]⟩]), ("re", [⟨0, 1, 0, [1]⟩])]
      lengths := [3, 1]
      documentCount := 2
      meanLength := 2
      totalLength := 4 }
  config := .standard
  builtAt := 0
  fingerprint := none
  generation := 0

/-- A document that holds the phrase only in part is found through the single term. -/
theorem verified_exactly_when_well_formed_sample :
    Snapshot.ofParts duet.store duet.index duet.config 0 none = .ok duet ∧
      (∀ entry ∈ duet.index.terms.entries, ∀ p ∈ entry.2, ∃ d, duet.store.document? p.document = some d) ∧
      (⟨[.phrase ["la", "re"], .term "la"], .any⟩ : Query).mode = .any ∧
      1 ∈ (duet.ranking ⟨[.phrase ["la", "re"], .term "la"], .any⟩).map Ranked.document := by
  have hparts : Snapshot.ofParts duet.store duet.index duet.config 0 none = .ok duet := by rfl
  obtain ⟨hstored, hranked⟩ := (verified_exactly_when_well_formed duet.index).2.2 _ _ _ _ duet hparts
  exact ⟨hparts, hstored, rfl, ((hranked _ rfl).2 1).2 ⟨.term "la", by simp, by decide⟩⟩

end Concordance
