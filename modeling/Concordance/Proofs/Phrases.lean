import Concordance.Proofs.Halving
import Concordance.Proofs.Postings
import Concordance.Ranking.Phrase
import Mathlib.Data.List.Nodup

/-!
# Phrases are found where they stand

The numbers that are in two ascending lists are those of the first that the second contains, so the
documents that hold all terms are found, and a start is continued by the other terms if the layout of
the document goes on with them. What the index gives for a phrase is the number of its occurrences in
the title and in the body.
-/

namespace Concordance.Index

/-! ### Common documents -/

/-- Of two ascending lists, what is in both is what the second has of the first. -/
theorem intersect_eq_filter {as bs : List DocId} (ha : as.Pairwise (· < ·))
    (hb : bs.Pairwise (· < ·)) : intersect as bs = as.filter bs.contains := by
  fun_induction intersect as bs with
  | case1 bs => rfl
  | case2 as hne => simp
  | case3 as a bs ih =>
      obtain ⟨hfirst, hrest⟩ := List.pairwise_cons.1 ha
      rw [ih hrest (List.pairwise_cons.1 hb).2, List.filter_cons_of_pos (by simp)]
      congr 1
      refine List.filter_congr fun n hn => ?_
      have hne : n ≠ a := fun heq => UInt32.lt_irrefl a (heq ▸ hfirst n hn)
      simp [hne]
  | case4 a as b bs hne hlt ih =>
      -- the second list ascends, so all of it lies behind `a`
      have hnot : (b :: bs).contains a = false := by
        rw [Bool.eq_false_iff, ne_eq, List.contains_iff_mem, List.mem_cons, not_or]
        refine ⟨hne, fun hmem => ?_⟩
        exact UInt32.lt_irrefl a (UInt32.lt_trans hlt ((List.pairwise_cons.1 hb).1 a hmem))
      rw [ih (List.pairwise_cons.1 ha).2 hb, List.filter_cons_of_neg (by simp only [hnot]; simp)]
  | case5 a as b bs hne hnlt ih =>
      have hlt : b < a := UInt32.lt_of_le_of_ne (UInt32.not_lt.1 hnlt) (Ne.symm hne)
      rw [ih ha (List.pairwise_cons.1 hb).2]
      refine List.filter_congr fun n hn => ?_
      have hne' : n ≠ b := by
        rintro rfl
        rcases List.mem_cons.1 hn with rfl | hn
        · exact UInt32.lt_irrefl n hlt
        · exact UInt32.lt_irrefl n (UInt32.lt_trans hlt ((List.pairwise_cons.1 ha).1 n hn))
      simp [hne']

/-- The common documents are those of the first list that all others have. -/
theorem commonDocuments_cons {first : List Posting} {rest : List (List Posting)}
    (hfirst : (first.map Posting.document).Pairwise (· < ·))
    (hrest : ∀ postings ∈ rest, (postings.map Posting.document).Pairwise (· < ·)) :
    commonDocuments (first :: rest) =
      (first.map Posting.document).filter fun n =>
        rest.all fun postings => (postings.map Posting.document).contains n := by
  rw [commonDocuments]
  generalize first.map Posting.document = common at hfirst ⊢
  induction rest generalizing common with
  | nil => simp
  | cons postings rest ih =>
      have hpostings := hrest postings List.mem_cons_self
      rw [List.foldl_cons, intersect_eq_filter hfirst hpostings,
        ih (fun p hp => hrest p (List.mem_cons_of_mem _ hp)) _ (hfirst.filter _),
        List.filter_filter]
      refine List.filter_congr fun n _ => ?_
      rw [List.all_cons, Bool.and_comm]

/-! ### What the search gives, and where it overflows -/

@[simp] theorem value_continues_nil (start : UInt32) : (continues start []).value = true :=
  rfl

theorem value_continues_cons (start : UInt32) (positions : List UInt32) (rest : List (List UInt32)) :
    (continues start (positions :: rest)).value =
      ((findByKey? id (start + 1) positions).isSome && (continues (start + 1) rest).value) := by
  rw [continues, Wrapped.value_bind, next]
  cases (findByKey? id (start + 1) positions).isSome <;> rfl

/-- Counting on overflows at the last position, if the comparison comes to it. -/
theorem overflowed_continues_cons (start : UInt32) (positions : List UInt32) (rest : List (List UInt32)) :
    (continues start (positions :: rest)).overflowed =
      (start == lastPosition ||
        ((findByKey? id (start + 1) positions).isSome && (continues (start + 1) rest).overflowed)) := by
  rw [continues, Wrapped.overflowed_bind, next]
  cases (findByKey? id (start + 1) positions).isSome <;> rfl

theorem value_countStarts_cons (first : List UInt32) (rest : List (List UInt32)) :
    (countStarts (first :: rest)).value = first.countP fun start => (continues start rest).value := by
  show List.count true ((first.map fun start => continues start rest).map Wrapped.value) = _
  rw [List.count, List.countP_map, List.countP_map]
  refine List.countP_congr fun start _ => ?_
  simp

theorem overflowed_countStarts_cons (first : List UInt32) (rest : List (List UInt32)) :
    (countStarts (first :: rest)).overflowed = first.any fun start => (continues start rest).overflowed := by
  show ((first.map fun start => continues start rest).any Wrapped.overflowed || false) = _
  rw [Bool.or_false, List.any_map]
  rfl

theorem filter_map_eq_filterMap (count : DocId → UInt32) (documents : List DocId) :
    (documents.map fun n => (n, count n)).filter (fun (_, count) => count ≠ 0) =
      documents.filterMap fun n => if count n = 0 then none else some (n, count n) := by
  rw [← List.filterMap_eq_filter, List.filterMap_map]
  refine List.filterMap_congr fun n _ => ?_
  by_cases hzero : count n = 0
  · simp [Option.guard, hzero]
  · simp [Option.guard, hzero]

/-- The search for a phrase gives the common documents in which some start is continued. -/
theorem value_phraseHits {α : Type} (index : Index α) (terms : List String) :
    (index.phraseHits terms).value =
      let lists := terms.map index.postings
      if lists.any List.isEmpty then []
      else
        (commonDocuments lists).filterMap fun n =>
          let count := UInt32.ofNat (countStarts (lists.map (positionsIn · n))).value
          if count = 0 then none else some (n, count) := by
  rw [phraseHits]
  dsimp only
  split
  · rfl
  · rw [← filter_map_eq_filterMap, Wrapped.value_bind, Wrapped.value_pure, Wrapped.all, List.map_map]
    rfl

/-- It overflows where the counting of starts does for a common document. -/
theorem overflowed_phraseHits {α : Type} (index : Index α) (terms : List String) :
    (index.phraseHits terms).overflowed =
      let lists := terms.map index.postings
      (!lists.any List.isEmpty &&
        (commonDocuments lists).any fun n => (countStarts (lists.map (positionsIn · n))).overflowed) := by
  rw [phraseHits]
  dsimp only
  split
  · next hempty => simp [hempty]
  · next hne =>
    simp only [Wrapped.all, Wrapped.overflowed_bind, Wrapped.overflowed_pure, Bool.or_false, List.any_map,
      Function.comp_def, hne, Bool.not_false, Bool.true_and]

/-! ### Starts that are continued -/

variable [Text.CharacterTable] {config : TokenizerConfig} {document : Document}

theorem toNat_ofNat_of_mem_placesOf (hfits : Fits config document) {t : String} {place : Nat}
    (h : place ∈ placesOf config t document) : (UInt32.ofNat place).toNat = place := by
  have hlt := lt_of_mem_placesOf h
  have hlength := length_layout_le config document
  rw [Fits] at hfits
  exact UInt32.toNat_ofNat_of_lt' (show _ < 2 ^ 32 by omega)

theorem pairwise_placesOf (hfits : Fits config document) (t : String) :
    ((placesOf config t document).map UInt32.ofNat).Pairwise (· < ·) := by
  rw [List.pairwise_map]
  refine List.Pairwise.imp_of_mem ?_ List.pairwise_findIdxs
  intro a b ha hb hab
  rw [UInt32.lt_iff_toNat_lt, toNat_ofNat_of_mem_placesOf hfits ha,
    toNat_ofNat_of_mem_placesOf hfits hb]
  exact hab

/-- A position is found if the layout holds the term there. -/
theorem isSome_findByKey?_placesOf (hfits : Fits config document) (t : String) {place : Nat}
    (hplace : place < 2 ^ 32) :
    (findByKey? id (UInt32.ofNat place) ((placesOf config t document).map UInt32.ofNat)).isSome =
      ((layout config document)[place]? == some (some t)) := by
  rw [Bool.eq_iff_iff, Option.isSome_iff_exists, beq_iff_eq, ← mem_placesOf_iff]
  have hfind (n : UInt32) := @findByKey?_eq_some_iff _ id (UInt32.ofNat place) _ n
    (pairwise_placesOf hfits t)
  simp only [hfind]
  constructor
  · rintro ⟨n, hn, heq⟩
    obtain ⟨place', hmem, rfl⟩ := List.mem_map.1 hn
    have hnat := congrArg UInt32.toNat heq
    rw [id, toNat_ofNat_of_mem_placesOf hfits hmem, UInt32.toNat_ofNat_of_lt' hplace] at hnat
    exact hnat ▸ hmem
  · exact fun hmem => ⟨_, List.mem_map_of_mem hmem, rfl⟩

/-- A start is continued by terms if the layout goes on with them. -/
theorem continues_eq_isPrefixOf (hfits : Fits config document) (ts : List String) {place : Nat}
    (hplace : place < (layout config document).length) :
    (continues (UInt32.ofNat place)
        (ts.map fun t => (placesOf config t document).map UInt32.ofNat)).value =
      (ts.map some).isPrefixOf ((layout config document).drop (place + 1)) := by
  have hlength := length_layout_le config document
  have hbound : (layout config document).length < 2 ^ 32 := by
    rw [Fits] at hfits
    omega
  induction ts generalizing place with
  | nil => rfl
  | cons t ts ih =>
      -- no wrap: a document that fits has fewer than 2 ^ 32 places
      have hnext : UInt32.ofNat place + 1 = UInt32.ofNat (place + 1) := by
        rw [UInt32.ofNat_add]
        rfl
      rw [List.map_cons, List.map_cons, value_continues_cons, hnext,
        isSome_findByKey?_placesOf hfits t (by omega)]
      by_cases hend : place + 1 < (layout config document).length
      · rw [ih hend, List.drop_eq_getElem_cons hend, List.isPrefixOf_cons_cons,
          List.getElem?_eq_getElem hend, BEq.comm]
        simp
      · rw [List.drop_eq_nil_of_le (by omega), List.getElem?_eq_none (by omega)]
        rfl

/-- Counting the starts of a phrase counts its occurrences. -/
theorem countStarts_eq_occurrences (hfits : Fits config document) {ts : List String}
    (hne : ts ≠ []) :
    (countStarts (ts.map fun t => (placesOf config t document).map UInt32.ofNat)).value =
      occurrences (ts.map some) (layout config document) := by
  obtain ⟨t, ts, rfl⟩ := List.exists_cons_of_ne_nil hne
  -- counted over the places of the first term, or over all places with a test for it
  have hperm : (placesOf config t document).Perm
      ((List.range (layout config document).length).filter fun place =>
        (layout config document)[place]? == some (some t)) := by
    have hnodup : (placesOf config t document).Nodup := List.nodup_findIdxs
    rw [List.perm_ext_iff_of_nodup hnodup (List.nodup_range.filter _)]
    intro place
    rw [List.mem_filter, List.mem_range, beq_iff_eq, ← mem_placesOf_iff]
    exact ⟨fun h => ⟨lt_of_mem_placesOf h, h⟩, fun h => h.2⟩
  rw [List.map_cons, List.map_cons, value_countStarts_cons, List.countP_map, hperm.countP_eq,
    List.countP_filter, occurrences_eq_countP_range (by simp)]
  refine List.countP_congr fun place hplace => ?_
  have hlt := List.mem_range.1 hplace
  rw [Function.comp, continues_eq_isPrefixOf hfits ts hlt, List.drop_eq_getElem_cons hlt,
    List.isPrefixOf_cons_cons, List.getElem?_eq_getElem hlt, Bool.and_comm, BEq.comm]
  simp

/-! ### Hits in a store -/

/-- How often the terms of a phrase stand one after the other, in the title and in the body. -/
def phraseCount (config : TokenizerConfig) (ts : List String) (document : Document) : Nat :=
  occurrences ts (config.terms document.title) + occurrences ts (config.terms document.body)

theorem phraseCount_lt (hfits : Fits config document) {ts : List String} (hne : ts ≠ []) :
    phraseCount config ts document < 2 ^ 32 := by
  have htitle := occurrences_le_length hne (config.terms document.title)
  have hbody := occurrences_le_length hne (config.terms document.body)
  rw [Fits, termTotal] at hfits
  rw [phraseCount]
  omega

/-- A phrase does not occur where one of its terms does not. -/
theorem phraseCount_eq_zero {ts : List String} {t : String} (ht : t ∈ ts)
    (hnone : placesOf config t document = []) : phraseCount config ts document = 0 := by
  rw [placesOf_eq_nil_iff] at hnone
  have habsent {tokens : List String} (h : t ∉ tokens) : occurrences ts tokens = 0 := by
    by_contra hpos
    exact h ((occurrences_pos_iff.1 (Nat.pos_of_ne_zero hpos)).subset ht)
  rw [phraseCount, habsent hnone.1, habsent hnone.2]

variable {α : Type} [Scalar α] {store : Store}

theorem map_document_postings_build (t : String) :
    ((build store config : Index α).postings t).map Posting.document =
      (store.numbered.filter fun x => decide (placesOf config t x.2 ≠ [])).map Prod.fst := by
  rw [postings_build, List.map_filterMap, ← List.filterMap_eq_map, List.filterMap_filter]
  refine List.filterMap_congr fun x _ => ?_
  rw [posting?]
  split
  · next h => simp [h]
  · next h => simp [h, posting]

theorem pairwise_document_postings (h : store.Fits config) (t : String) :
    (((build store config : Index α).postings t).map Posting.document).Pairwise (· < ·) := by
  rw [map_document_postings_build, List.pairwise_map]
  exact ((Store.pairwise_numbered h.size_lt).filter _).imp fun hlt => hlt.1

/-- A numbered document is the only one with its number. -/
theorem mem_map_fst_filter_iff (h : store.Fits config) {x : DocId × Document}
    (hx : x ∈ store.numbered) (p : DocId × Document → Bool) :
    x.1 ∈ (store.numbered.filter p).map Prod.fst ↔ p x = true := by
  constructor
  · intro hmem
    obtain ⟨y, hy, heq⟩ := List.mem_map.1 hmem
    obtain ⟨hy, hp⟩ := List.mem_filter.1 hy
    have hdx := Store.getElem?_of_mem_numbered h.size_lt hx
    have hdy := Store.getElem?_of_mem_numbered h.size_lt hy
    rw [heq, hdx] at hdy
    have hsame : y = x := Prod.ext heq (Option.some.inj hdy).symm
    exact hsame ▸ hp
  · exact fun hp => List.mem_map_of_mem (List.mem_filter.2 ⟨hx, hp⟩)

theorem mem_document_postings_iff (h : store.Fits config) {x : DocId × Document}
    (hx : x ∈ store.numbered) (t : String) :
    x.1 ∈ ((build store config : Index α).postings t).map Posting.document ↔
      placesOf config t x.2 ≠ [] := by
  rw [map_document_postings_build, mem_map_fst_filter_iff h hx, decide_eq_true_eq]

/-- The positions of a term in a numbered document. -/
theorem positionsIn_build (h : store.Fits config) {x : DocId × Document}
    (hx : x ∈ store.numbered) (t : String) :
    positionsIn ((build store config : Index α).postings t) x.1 =
      (placesOf config t x.2).map UInt32.ofNat := by
  have hasc := pairwise_document_postings (α := α) h t
  rw [List.pairwise_map] at hasc
  rw [positionsIn]
  -- a document without the term has no posting, and then no places either
  by_cases hnone : placesOf config t x.2 = []
  · cases hfind : findByKey? Posting.document x.1 ((build store config : Index α).postings t) with
    | none => rw [hnone, List.map_nil]
    | some p =>
        obtain ⟨hmem, hnumber⟩ := (findByKey?_eq_some_iff hasc).1 hfind
        have hmem' := List.mem_map_of_mem (f := Posting.document) hmem
        rw [hnumber, mem_document_postings_iff h hx] at hmem'
        exact absurd hnone hmem'
  · have hposting : posting? config t x = some (posting x.1
        (UInt32.ofNat ((config.terms x.2.title).count t))
        ((placesOf config t x.2).map UInt32.ofNat)) := by
      rw [posting?, if_neg hnone]
    have hmem : posting x.1 (UInt32.ofNat ((config.terms x.2.title).count t))
        ((placesOf config t x.2).map UInt32.ofNat) ∈
          (build store config : Index α).postings t := by
      rw [postings_build]
      exact List.mem_filterMap.2 ⟨x, hx, hposting⟩
    have hfind := (@findByKey?_eq_some_iff _ Posting.document x.1 _ _ hasc).2 ⟨hmem, rfl⟩
    rw [hfind]
    rfl

/-- In a numbered document, as many starts are counted as the phrase occurs. -/
theorem countStarts_build (h : store.Fits config) {x : DocId × Document}
    (hx : x ∈ store.numbered) {ts : List String} (hne : ts ≠ []) :
    (countStarts ((ts.map (build store config : Index α).postings).map (positionsIn · x.1))).value =
      phraseCount config ts x.2 := by
  have hfits := h.fits x.2 (Store.mem_documents_of_mem_numbered hx)
  have hlists : (ts.map (build store config : Index α).postings).map (positionsIn · x.1) =
      ts.map fun t => (placesOf config t x.2).map UInt32.ofNat := by
    rw [List.map_map]
    exact List.map_congr_left fun t _ => positionsIn_build h hx t
  rw [hlists, countStarts_eq_occurrences hfits hne, occurrences_layout hne, phraseCount]

/-- A term without postings stands in no document, and no phrase with it does. -/
theorem phraseCount_of_no_postings (h : store.Fits config) {x : DocId × Document}
    (hx : x ∈ store.numbered) {ts : List String} {t : String} (ht : t ∈ ts)
    (hnil : (build store config : Index α).postings t = []) : phraseCount config ts x.2 = 0 := by
  refine phraseCount_eq_zero ht ?_
  by_contra hplaces
  have hmem := (mem_document_postings_iff (α := α) h hx t).2 hplaces
  rw [hnil] at hmem
  cases hmem

/-- The documents in which a phrase occurs, with the number of its occurrences. -/
theorem phraseHits_build (h : store.Fits config) {ts : List String} (hne : ts ≠ []) :
    ((build store config : Index α).phraseHits ts).value =
      store.numbered.filterMap fun x =>
        if phraseCount config ts x.2 = 0 then none
        else some (x.1, UInt32.ofNat (phraseCount config ts x.2)) := by
  rw [value_phraseHits]
  dsimp only
  split
  · next hempty =>
      obtain ⟨postings, hpostings, hnil⟩ := List.any_eq_true.1 hempty
      obtain ⟨t, ht, rfl⟩ := List.mem_map.1 hpostings
      symm
      rw [List.filterMap_eq_nil_iff]
      intro x hx
      rw [if_pos (phraseCount_of_no_postings h hx ht (List.isEmpty_iff.1 hnil))]
  · obtain ⟨t, ts, rfl⟩ := List.exists_cons_of_ne_nil hne
    rw [List.map_cons, commonDocuments_cons (pairwise_document_postings h t)]
    · rw [map_document_postings_build, List.filter_map, List.filterMap_map, List.filter_filter,
        List.filterMap_filter]
      refine List.filterMap_congr fun x hx => ?_
      have hlt := phraseCount_lt (h.fits x.2 (Store.mem_documents_of_mem_numbered hx)) hne
      have hzero : UInt32.ofNat (phraseCount config (t :: ts) x.2) = 0 ↔
          phraseCount config (t :: ts) x.2 = 0 := by
        rw [← UInt32.toNat_inj, UInt32.toNat_ofNat_of_lt' hlt]
        rfl
      have hall : (ts.map (build store config : Index α).postings).all
          (fun postings => (postings.map Posting.document).contains x.1) = true ↔
          ∀ s ∈ ts, placesOf config s x.2 ≠ [] := by
        simp only [List.all_eq_true, List.forall_mem_map, List.contains_iff_mem,
          mem_document_postings_iff h hx]
      simp only [Function.comp_apply, ← List.map_cons, countStarts_build h hx hne, hzero,
        Bool.and_eq_true, hall, decide_eq_true_eq]
      split
      · rfl
      · next hsome =>
          -- a document without one of the terms has no occurrence of the phrase
          have hmissing : ∃ s ∈ t :: ts, placesOf config s x.2 = [] := by
            by_contra hnone
            refine hsome ⟨fun s hs hnil => hnone ⟨s, List.mem_cons_of_mem _ hs, hnil⟩,
              fun hnil => hnone ⟨t, List.mem_cons_self, hnil⟩⟩
          obtain ⟨s, hs, hnil⟩ := hmissing
          rw [if_pos (phraseCount_eq_zero hs hnil)]
    · intro postings hpostings
      obtain ⟨t, -, rfl⟩ := List.mem_map.1 hpostings
      exact pairwise_document_postings h t

end Concordance.Index
