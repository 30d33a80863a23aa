import Concordance.Index.Assembly
import Concordance.Proofs.Terms
import Concordance.Proofs.WellFormedIndexes

/-!
# Nothing is lost in an index

Assembling an index posting by posting never comes to a posting that is out of order, and gives the index
that `Index.build` gives. From the index of a store, the terms of every document can be read back: its
postings hold each term of the title and of the body at its position, and no other positions.
-/

namespace Concordance.Index

/-! ## Assembling -/

/-- A posting of a later document can be pushed. -/
theorem push?_of_lt {postings : List Posting} {p : Posting}
    (h : ∀ q ∈ postings, q.document < p.document) : push? postings p = some (postings ++ [p]) := by
  rw [push?, if_pos]
  rw [Option.all_eq_true_iff_get]
  intro hlast
  rw [decide_eq_true_eq]
  apply h
  exact List.mem_of_getLast? (Option.some_get hlast).symm

/-- The postings of a term with one more for its occurrences in the document `n`. -/
def added (n : DocId) (old : Option (List Posting)) (occurrence : UInt32 × List UInt32) :
    List Posting :=
  old.getD [] ++ [posting n occurrence.1 occurrence.2]

/-- A term whose postings are of earlier documents gets one more. -/
theorem addTerm?_of_lt {n : DocId} {terms : SortedMap (List Posting)} (t : String)
    (occurrence : UInt32 × List UInt32)
    (h : ∀ q ∈ (terms.find? t).getD [], q.document < n) :
    addTerm? n terms (t, occurrence) = some (terms.insert t (added n (terms.find? t) occurrence)) := by
  rw [addTerm?, added]
  cases hfind : terms.find? t with
  | none => rfl
  | some postings =>
      rw [hfind, Option.getD_some] at h
      show (push? postings (posting n occurrence.1 occurrence.2)).map (terms.insert t) = _
      rw [push?_of_lt h]
      rfl

/-- Terms that come in order do not get in each other's way. -/
theorem foldlM_addTerm? {n : DocId} (entries : List (String × UInt32 × List UInt32))
    (hkeys : entries.Pairwise fun a b => a.1 < b.1) (terms : SortedMap (List Posting))
    (h : ∀ entry ∈ entries, ∀ q ∈ (terms.find? entry.1).getD [], q.document < n) :
    ∃ terms', entries.foldlM (addTerm? n) terms = some terms' ∧
      ∀ t, terms'.find? t = SortedMap.combined (added n) (terms.find? t) (entries.lookup t) := by
  induction entries generalizing terms with
  | nil => exact ⟨terms, rfl, fun t => rfl⟩
  | cons entry rest ih =>
      obtain ⟨t, occurrence⟩ := entry
      obtain ⟨hfirst, hrest⟩ := List.pairwise_cons.1 hkeys
      have hne {s : String} (hs : t < s) : s ≠ t := by
        rintro rfl
        exact String.lt_irrefl s hs
      -- the later terms are larger, so inserting this one leaves their postings alone
      obtain ⟨terms', hfold, hfind⟩ := ih hrest (terms.insert t (added n (terms.find? t) occurrence))
        (by
          intro entry hmem
          rw [SortedMap.insert, SortedMap.find?_alter_of_ne terms (hne (hfirst entry hmem))]
          exact h entry (List.mem_cons_of_mem _ hmem))
      refine ⟨terms', ?_, ?_⟩
      · rw [List.foldlM_cons, addTerm?_of_lt t occurrence (h _ List.mem_cons_self)]
        exact hfold
      · intro s
        rw [hfind s, SortedMap.insert]
        by_cases hs : s = t
        · -- no later entry has this term
          subst hs
          have hnone : rest.lookup s = none := SortedMap.lookup_eq_none_of_lt hfirst
          rw [SortedMap.find?_alter_self, List.lookup_cons_self, hnone]
          rfl
        · rw [SortedMap.find?_alter_of_ne terms hs, SortedMap.lookup_cons_of_ne hs]

section Assembling

variable [Text.CharacterTable] {config : TokenizerConfig}

/-- A document behind all that were read is added. -/
theorem add?_of_lt {draft : Draft} {x : DocId × Document}
    (h : ∀ t, ∀ q ∈ (draft.terms.find? t).getD [], q.document < x.1) :
    Draft.add? config draft x = some (draft.add config x) := by
  obtain ⟨n, document⟩ := x
  obtain ⟨terms, hfold, hfind⟩ := foldlM_addTerm? (occurrencesOf config document).entries
    (occurrencesOf config document).ascending draft.terms fun entry _ => h entry.1
  have hterms : terms = draft.terms.absorb (occurrencesOf config document) (added n) := by
    apply SortedMap.ext_find?
    intro t
    rw [hfind t, SortedMap.find?_absorb]
    rfl
  rw [Draft.add?, hfold, hterms]
  rfl

/-- Documents in ascending order are added one behind the other. -/
theorem foldlM_add? {documents : List (DocId × Document)}
    (hascending : documents.Pairwise fun a b => a.1 < b.1) {draft : Draft}
    (h : ∀ x ∈ documents, ∀ t, ∀ q ∈ (draft.terms.find? t).getD [], q.document < x.1) :
    documents.foldlM (Draft.add? config) draft = some (documents.foldl (Draft.add config) draft) := by
  induction documents generalizing draft with
  | nil => rfl
  | cons x rest ih =>
      obtain ⟨hfirst, hrest⟩ := List.pairwise_cons.1 hascending
      rw [List.foldlM_cons, add?_of_lt (h x List.mem_cons_self), List.foldl_cons]
      apply ih hrest
      -- a posting of t is an old one or the one that x has just added; both are before y
      intro y hy t q hq
      have hadd := find?_foldl_add config [x] draft t
      rw [List.foldl_cons, List.foldl_nil] at hadd
      rw [hadd, List.mem_append] at hq
      rcases hq with hold | hnew
      · exact h y (List.mem_cons_of_mem _ hy) t q hold
      · obtain ⟨x', hx', hposting⟩ := List.mem_filterMap.1 hnew
        rw [List.mem_singleton] at hx'
        subst hx'
        rw [document_of_posting? hposting]
        exact hfirst y hy

/-- No posting of a store is out of order, and the index is the same. -/
theorem assemble?_eq {α : Type} [Scalar α] {store : Store} (h : store.size < 2 ^ 32) :
    (assemble? store config : Option (Index α)) = some (build store config) := by
  rw [assemble?, foldlM_add? ((Store.pairwise_numbered h).imp fun hlt => hlt.1)]
  · rfl
  · intro x _ t q hq
    rw [SortedMap.find?_empty] at hq
    cases hq

end Assembling

/-! ## Reading back -/

section Reading

variable {α : Type} {index : Index α} {n : DocId}

def postingsOf (index : Index α) (n : DocId) : List (String × Posting) :=
  index.terms.entries.flatMap fun entry =>
    (entry.2.filter fun p => p.document = n).map fun p => (entry.1, p)

/-- The positions that the postings of a document hold, with the terms that they hold there. -/
def recorded (index : Index α) (n : DocId) : List (Nat × String) :=
  (index.postingsOf n).flatMap fun entry => entry.2.positions.map fun place => (place.toNat, entry.1)

/-- The postings of a document are those of all terms that are about it. -/
theorem mem_postingsOf_iff {t : String} {p : Posting} :
    (t, p) ∈ index.postingsOf n ↔ p ∈ index.postings t ∧ p.document = n := by
  have hterm : p ∈ index.postings t ↔ ∃ postings, (t, postings) ∈ index.terms.entries ∧ p ∈ postings := by
    simp only [SortedMap.mem_entries_iff, postings]
    cases index.terms.find? t <;> simp
  rw [hterm, postingsOf, List.mem_flatMap]
  constructor
  · rintro ⟨⟨s, postings⟩, hentry, hmem⟩
    obtain ⟨q, hq, heq⟩ := List.mem_map.1 hmem
    obtain ⟨hq, hdocument⟩ := List.mem_filter.1 hq
    cases heq
    exact ⟨⟨postings, hentry, hq⟩, of_decide_eq_true hdocument⟩
  · rintro ⟨⟨postings, hentry, hp⟩, hdocument⟩
    refine ⟨(t, postings), hentry, List.mem_map.2 ⟨p, ?_, rfl⟩⟩
    exact List.mem_filter.2 ⟨hp, decide_eq_true hdocument⟩

/-- A well-formed index has at most one posting for a term and a document. -/
theorem WellFormed.pairwise_postingsOf (h : index.WellFormed) (n : DocId) :
    (index.postingsOf n).Pairwise fun a b => a.1 ≠ b.1 := by
  rw [postingsOf, List.pairwise_flatMap]
  constructor
  · intro entry hentry
    rw [List.pairwise_map]
    have hascending := List.pairwise_map.1 (h.orderly entry hentry).ascending
    refine (hascending.filter _).imp_of_mem ?_
    intro p q hp hq hlt _
    have hp := of_decide_eq_true (List.mem_filter.1 hp).2
    have hq := of_decide_eq_true (List.mem_filter.1 hq).2
    rw [hp, hq] at hlt
    exact UInt32.lt_irrefl n hlt
  · refine index.terms.ascending.imp ?_
    intro a b hlt x hx y hy heq
    obtain ⟨p, -, rfl⟩ := List.mem_map.1 hx
    obtain ⟨q, -, rfl⟩ := List.mem_map.1 hy
    exact String.lt_irrefl b.1 ((show a.1 = b.1 from heq) ▸ hlt)

theorem consistent_of_mem_postingsOf (h : index.WellFormed) {entry : String × Posting}
    (hmem : entry ∈ index.postingsOf n) : Consistent entry.2 := by
  obtain ⟨e, he, hmem⟩ := List.mem_flatMap.1 hmem
  obtain ⟨p, hp, rfl⟩ := List.mem_map.1 hmem
  exact (h.orderly e he).consistent p (List.mem_filter.1 hp).1

/-- A well-formed index holds no term twice at one position of a document. -/
theorem WellFormed.nodup_recorded (h : index.WellFormed) (n : DocId) : (index.recorded n).Nodup := by
  rw [recorded, List.nodup_flatMap]
  constructor
  · intro entry hentry
    rw [List.Nodup, List.pairwise_map]
    refine (consistent_of_mem_postingsOf h hentry).ascending.imp ?_
    intro a b hlt heq
    rw [Prod.mk.injEq] at heq
    exact Nat.ne_of_lt (UInt32.lt_iff_toNat_lt.1 hlt) heq.1
  · refine (h.pairwise_postingsOf n).imp ?_
    intro a b hne x hxa hxb
    obtain ⟨i, -, rfl⟩ := List.mem_map.1 hxa
    obtain ⟨j, -, heq⟩ := List.mem_map.1 hxb
    exact hne (Prod.mk.inj heq).2.symm

/-- The frequencies of a document count what is recorded of it. -/
theorem WellFormed.sum_frequency (h : index.WellFormed) (n : DocId) :
    ((index.postingsOf n).map fun entry => entry.2.frequency.toNat).sum =
      (index.recorded n).length := by
  rw [recorded, List.length_flatMap]
  congr 1
  apply List.map_congr_left
  intro entry hentry
  rw [List.length_map]
  exact (consistent_of_mem_postingsOf h hentry).frequency_eq

end Reading

/-! ## The tokens of a document -/

/-- The position of the first term of the body: the gap is left out behind a title without terms. -/
def bodyOffset (title : List String) : Nat :=
  if title = [] then 0 else title.length + titleGap.toNat

theorem bodyOffset_eq (title : List String) : bodyOffset title = title.length + gapBehind title := by
  rw [bodyOffset, gapBehind]
  split
  · next hnil => simp [hnil]
  · next hne => simp [hne]

/-- A term is numbered with the places where it is found. -/
theorem mem_zipIdx_iff_mem_findIdxs {tokens : List String} {t : String} {first place : Nat} :
    (t, place) ∈ tokens.zipIdx first ↔ place ∈ tokens.findIdxs (· == t) first := by
  rw [List.mem_zipIdx_iff_le_and_getElem?_sub, List.mem_findIdxs_iff_getElem_sub_pos]
  apply and_congr_right
  intro _
  rw [List.getElem?_eq_some_iff]
  simp

section Recording

variable [Text.CharacterTable] {config : TokenizerConfig} {document : Document}

/-- The terms of a document at their positions: those of the title, and those of the body behind them. -/
def tokensOf (config : TokenizerConfig) (document : Document) : List (Nat × String) :=
  ((config.terms document.title).zipIdx ++
    (config.terms document.body).zipIdx (bodyOffset (config.terms document.title))).map Prod.swap

/-- The positions at which a document has a term are the positions of this term. -/
theorem mem_tokensOf_iff {t : String} {place : Nat} :
    (place, t) ∈ tokensOf config document ↔ place ∈ placesOf config t document := by
  have hswap : (place, t) ∈ tokensOf config document ↔
      (t, place) ∈ (config.terms document.title).zipIdx ++
        (config.terms document.body).zipIdx (bodyOffset (config.terms document.title)) := by
    rw [tokensOf, List.mem_map]
    constructor
    · rintro ⟨token, hmem, heq⟩
      rwa [← Prod.swap_swap token, heq] at hmem
    · intro hmem
      exact ⟨_, hmem, rfl⟩
  rw [hswap, List.mem_append, mem_zipIdx_iff_mem_findIdxs, mem_zipIdx_iff_mem_findIdxs,
    placesOf_eq_append, List.mem_append, bodyOffset_eq]

/-- No two terms share a position. -/
theorem nodup_fst_tokensOf (config : TokenizerConfig) (document : Document) :
    ((tokensOf config document).map Prod.fst).Nodup := by
  have hfst : (tokensOf config document).map Prod.fst =
      List.range' 0 (config.terms document.title).length ++
        List.range' (bodyOffset (config.terms document.title))
          (config.terms document.body).length := by
    rw [tokensOf, List.map_map, List.map_append, ← List.zipIdx_map_snd, ← List.zipIdx_map_snd]
    rfl
  rw [hfst, List.nodup_append]
  refine ⟨List.nodup_range', List.nodup_range', ?_⟩
  intro i hi j hj
  rw [List.mem_range'_1] at hi hj
  have hoffset := bodyOffset_eq (config.terms document.title)
  omega

@[simp] theorem length_tokensOf (config : TokenizerConfig) (document : Document) :
    (tokensOf config document).length = termTotal config document := by
  simp [tokensOf, termTotal]

/-! ## The index of a store -/

/-- What an index holds of the document `d` with the number `n`: its terms at their positions, each
position once, and their numbers. -/
structure Records {α : Type} (config : TokenizerConfig) (index : Index α) (n : DocId) (d : Document) :
    Prop where
  tokens : (index.recorded n).Perm (tokensOf config d)
  once : ((index.recorded n).map Prod.fst).Nodup
  titles : ∀ entry ∈ index.postingsOf n,
    entry.2.titleFrequency.toNat = (config.terms d.title).count entry.1
  length : index.lengths[n.toNat]?.map UInt32.toNat =
    some ((config.terms d.title).length + (config.terms d.body).length)
  frequencies : index.lengths[n.toNat]?.map UInt32.toNat =
    some ((index.postingsOf n).map fun entry => entry.2.frequency.toNat).sum

variable {α : Type} [Scalar α] {store : Store} {x : DocId × Document}

/-- The postings of a document are those of the terms that occur in it. -/
theorem mem_postingsOf_build_iff (h : store.Fits config) (hx : x ∈ store.numbered) {t : String}
    {p : Posting} :
    (t, p) ∈ (build store config : Index α).postingsOf x.1 ↔ posting? config t x = some p := by
  rw [mem_postingsOf_iff, postings_build, List.mem_filterMap]
  constructor
  · rintro ⟨⟨y, hy, hposting⟩, hdocument⟩
    rw [document_of_posting? hposting] at hdocument
    have hget := Store.getElem?_of_mem_numbered h.size_lt hy
    rw [hdocument, Store.getElem?_of_mem_numbered h.size_lt hx] at hget
    rwa [Prod.ext hdocument (Option.some.inj hget).symm] at hposting
  · intro hposting
    exact ⟨⟨x, hx, hposting⟩, document_of_posting? hposting⟩

/-- The positions that are recorded for a term are its positions in the document. -/
theorem mem_recorded_build_iff (h : store.Fits config) (hx : x ∈ store.numbered) {t : String}
    {place : Nat} :
    (place, t) ∈ (build store config : Index α).recorded x.1 ↔ place ∈ placesOf config t x.2 := by
  have hfits := h.fits x.2 (Store.mem_documents_of_mem_numbered hx)
  rw [recorded, List.mem_flatMap]
  constructor
  · rintro ⟨⟨s, p⟩, hmem, hrecord⟩
    -- the positions of a posting are the places of its term, none of which wrapped
    obtain ⟨i, hi, heq⟩ := List.mem_map.1 hrecord
    cases heq
    have hposting := (mem_postingsOf_build_iff h hx).1 hmem
    rw [posting?] at hposting
    split at hposting
    · cases hposting
    · cases hposting
      obtain ⟨place, hplace, rfl⟩ := List.mem_map.1 hi
      rwa [toNat_ofNat_of_mem_placesOf hfits hplace]
  · intro hplace
    have hne : placesOf config t x.2 ≠ [] := List.ne_nil_of_mem hplace
    refine ⟨(t, _), (mem_postingsOf_build_iff h hx).2 (if_neg hne), ?_⟩
    refine List.mem_map.2 ⟨UInt32.ofNat place, List.mem_map_of_mem hplace, ?_⟩
    rw [toNat_ofNat_of_mem_placesOf hfits hplace]

theorem recorded_build_perm (h : store.Fits config) (hx : x ∈ store.numbered) :
    ((build store config : Index α).recorded x.1).Perm (tokensOf config x.2) := by
  have htokens : (tokensOf config x.2).Nodup := (nodup_fst_tokensOf config x.2).of_map
  rw [List.perm_ext_iff_of_nodup ((wellFormed_build h).nodup_recorded x.1) htokens]
  rintro ⟨place, t⟩
  rw [mem_recorded_build_iff h hx, mem_tokensOf_iff]

/-- The index of a store records its documents. -/
theorem records_build (h : store.Fits config) (hx : x ∈ store.numbered) :
    Records config (build store config : Index α) x.1 x.2 := by
  have hperm := recorded_build_perm (α := α) h hx
  have hlength : (build store config : Index α).lengths[x.1.toNat]?.map UInt32.toNat =
      some (termTotal config x.2) := by
    have hmem := Store.mem_documents_of_mem_numbered hx
    rw [lengths_build, List.getElem?_map, Store.getElem?_of_mem_numbered h.size_lt hx]
    exact congrArg some (h.toNat_termTotal hmem)
  refine ⟨hperm, ?_, ?_, hlength, ?_⟩
  · exact (hperm.map Prod.fst).nodup_iff.2 (nodup_fst_tokensOf config x.2)
  · rintro ⟨t, p⟩ hentry
    have hposting := (mem_postingsOf_build_iff h hx).1 hentry
    rw [posting?] at hposting
    split at hposting
    · cases hposting
    · cases hposting
      have hcount : (config.terms x.2.title).count t ≤ (config.terms x.2.title).length :=
        List.count_le_length
      have hfits := h.fits x.2 (Store.mem_documents_of_mem_numbered hx)
      rw [Fits, termTotal] at hfits
      exact UInt32.toNat_ofNat_of_lt' (show _ < 2 ^ 32 by omega)
  · rw [hlength, (wellFormed_build h).sum_frequency, hperm.length_eq, length_tokensOf]

/-- An index loses nothing and adds nothing. If the documents of a store can be counted and their terms
as well, then assembling the index never comes to a posting that is out of order; the index passes the
check; it holds of every document just its terms at their positions, each position once, with the right
numbers; and its total is the sum of its lengths. -/
theorem build_lossless (h : store.Fits config) :
    assemble? store config = some (build store config : Index α) ∧
      (build store config : Index α).fault? = none ∧
      (∀ x ∈ store.numbered, Records config (build store config : Index α) x.1 x.2) ∧
      (build store config : Index α).totalLength.toNat =
        ((build store config : Index α).lengths.map UInt32.toNat).sum := by
  refine ⟨assemble?_eq h.size_lt, fault?_eq_none_iff.2 (wellFormed_build h), ?_, ?_⟩
  · intro x hx
    exact records_build h hx
  · rw [h.totalLength_build, lengths_build, List.map_map]
    congr 1
    apply List.map_congr_left
    intro d hd
    exact (h.toNat_termTotal hd).symm

end Recording

/-- A document with a term in its title and in its body, and one without a title. -/
def sampleStore : Store :=
  ⟨[⟨"first", "a", "a", "first.md"⟩, ⟨"second", "", "a", "second.md"⟩], by decide, by decide⟩

theorem fits_sample : sampleStore.Fits Config.standard.tokenizer where
  size_lt := by decide
  fits := by
    intro d hd
    rw [sampleStore, List.mem_cons, List.mem_singleton] at hd
    rcases hd with rfl | rfl
    · -- two terms of one letter, and the gap between title and body
      show (_ + _) + _ < _
      rw [Unicode.terms_a]
      decide
    · show (_ + _) + _ < _
      rw [Unicode.terms_a, terms_empty]
      decide

/-- The sample fits, so its index holds all its terms. -/
theorem build_lossless_sample :
    sampleStore.Fits Config.standard.tokenizer ∧
      assemble? sampleStore Config.standard.tokenizer =
        some (build sampleStore Config.standard.tokenizer : Index Float) ∧
      (build sampleStore Config.standard.tokenizer : Index Float).fault? = none ∧
      (∀ x ∈ sampleStore.numbered,
        Records Config.standard.tokenizer
          (build sampleStore Config.standard.tokenizer : Index Float) x.1 x.2) ∧
      (build sampleStore Config.standard.tokenizer : Index Float).totalLength.toNat =
        ((build sampleStore Config.standard.tokenizer : Index Float).lengths.map UInt32.toNat).sum :=
  ⟨fits_sample, build_lossless fits_sample⟩

end Concordance.Index
