import Concordance.Index.Verify
import Concordance.Proofs.Phrases

/-!
# Well-formed indexes

An index has no fault exactly when it is well formed: the check goes from neighbour to neighbour, and
what it finds holds of any two postings of a term and any two positions of a posting. The index of a
store is well formed.
-/

namespace Concordance

namespace Index

variable {count : UInt32} {term : String}

/-! ### What is checked -/

/-- The positions of a posting ascend, and its numbers fit them. -/
structure Consistent (p : Posting) : Prop where
  ascending : p.positions.Pairwise (· < ·)
  nonempty : p.positions ≠ []
  frequency_eq : p.frequency.toNat = p.positions.length
  titleFrequency_le : p.titleFrequency ≤ p.frequency

/-- Some postings of documents below `count`, in ascending order, each of them consistent. -/
structure Orderly (count : UInt32) (postings : List Posting) : Prop where
  nonempty : postings ≠ []
  ascending : (postings.map Posting.document).Pairwise (· < ·)
  known : ∀ p ∈ postings, p.document < count
  consistent : ∀ p ∈ postings, Consistent p

/-- There is a length for every document, and the postings of all terms are orderly. -/
structure WellFormed {α : Type} (index : Index α) : Prop where
  lengths : index.lengths.length = index.documentCount.toNat
  orderly : ∀ entry ∈ index.terms.entries, Orderly index.documentCount entry.2

/-! ### The check -/

theorem isAscending_iff {numbers : List UInt32} :
    isAscending numbers = true ↔ numbers.Pairwise (· < ·) := by
  fun_induction isAscending numbers with
  | case1 a b rest ih =>
      rw [Bool.and_eq_true, decide_eq_true_eq, ih, ← List.isChain_iff_pairwise,
        ← List.isChain_iff_pairwise, List.isChain_cons_cons]
  | case2 numbers hshort =>
      rcases numbers with _ | ⟨a, _ | ⟨b, rest⟩⟩
      · simp
      · simp
      · exact absurd rfl (hshort a b rest)

theorem isConsistent_iff {p : Posting} : isConsistent p = true ↔ Consistent p := by
  simp only [isConsistent, Bool.and_eq_true, Bool.not_eq_true', List.isEmpty_eq_false_iff,
    decide_eq_true_eq, isAscending_iff]
  exact ⟨fun ⟨⟨⟨ha, hn⟩, hf⟩, ht⟩ => ⟨ha, hn, hf, ht⟩, fun h => ⟨⟨⟨h.1, h.2⟩, h.3⟩, h.4⟩⟩

/-- Postings behind one of the document `previous` have no fault if they ascend from it. -/
theorem faultIn?_eq_none_iff {previous : Option DocId} {postings : List Posting} :
    faultIn? count term previous postings = none ↔
      (previous.toList ++ postings.map Posting.document).Pairwise (· < ·) ∧
        ∀ p ∈ postings, p.document < count ∧ Consistent p := by
  induction postings generalizing previous with
  | nil => cases previous <;> simp [faultIn?]
  | cons p rest ih =>
      -- what ascends from the document before also ascends from the next one
      have hchain : (previous.toList ++ (p :: rest).map Posting.document).Pairwise (· < ·) ↔
          previous.any (fun d => p.document ≤ d) = false ∧
            ((some p.document).toList ++ rest.map Posting.document).Pairwise (· < ·) := by
        rw [← List.isChain_iff_pairwise, ← List.isChain_iff_pairwise]
        cases previous with
        | none => simp
        | some d => simp [List.isChain_cons_cons]
      rw [faultIn?, hchain]
      split
      · next hunknown => simp [UInt32.not_lt.2 hunknown]
      · next hknown =>
          split
          · next hunordered => simp [hunordered]
          · next hordered =>
              split
              · next hbad =>
                  have hinconsistent : ¬Consistent p := by
                    rw [← isConsistent_iff]
                    simpa using hbad
                  simp [hinconsistent]
              · next hgood =>
                  have hconsistent : Consistent p := by simpa [isConsistent_iff] using hgood
                  rw [ih]
                  simp [hconsistent, UInt32.not_le.1 hknown, hordered]

/-- Nothing is wrong with the postings of a term exactly if they are orderly. -/
theorem faultOf?_eq_none_iff {postings : List Posting} :
    faultOf? count term postings = none ↔ Orderly count postings := by
  rw [faultOf?]
  split
  · next hempty =>
      refine iff_of_false (by simp) fun h => h.nonempty (List.isEmpty_iff.1 hempty)
  · next hsome =>
      rw [faultIn?_eq_none_iff]
      have hne : postings ≠ [] := fun h => hsome (List.isEmpty_iff.2 h)
      exact ⟨fun ⟨hascending, hall⟩ => ⟨hne, hascending, fun p hp => (hall p hp).1, fun p hp => (hall p hp).2⟩,
        fun h => ⟨h.ascending, fun p hp => ⟨h.known p hp, h.consistent p hp⟩⟩⟩

/-- The check accepts the well-formed indexes. -/
theorem fault?_eq_none_iff {α : Type} {index : Index α} : index.fault? = none ↔ index.WellFormed := by
  rw [fault?]
  split
  · next hlengths => exact iff_of_false (by simp) fun h => hlengths h.lengths
  · next hlengths =>
      rw [List.findSome?_eq_none_iff]
      simp only [faultOf?_eq_none_iff]
      exact ⟨fun h => ⟨not_not.1 hlengths, h⟩, fun h => h.orderly⟩

/-- The mean is not looked at. -/
@[simp] theorem fault?_map {α β : Type} (f : α → β) (index : Index α) :
    (index.map f).fault? = index.fault? :=
  rfl

/-! ### The index of a store -/

variable [Text.CharacterTable] {config : TokenizerConfig} {store : Store}

/-- A term is recorded with its first posting. -/
theorem find?_foldl_add_ne_nil {documents : List (DocId × Document)} {draft : Draft} {t : String}
    (hdraft : draft.terms.find? t ≠ some []) :
    (documents.foldl (Draft.add config) draft).terms.find? t ≠ some [] := by
  induction documents generalizing draft with
  | nil => exact hdraft
  | cons numbered rest ih =>
      rw [List.foldl_cons]
      apply ih
      rw [Draft.add, SortedMap.find?_absorb]
      cases (occurrencesOf config numbered.2).find? t with
      | none => exact hdraft
      | some value => simp [SortedMap.combined]

/-- The posting of a term in a small document is consistent. -/
theorem consistent_of_posting? {t : String} {x : DocId × Document} (hfits : Fits config x.2)
    {p : Posting} (h : posting? config t x = some p) : Consistent p := by
  rw [posting?] at h
  split at h
  · cases h
  · next hne =>
      cases h
      have hcounts : (placesOf config t x.2).length = _ := length_placesOf t x.2
      -- a document that fits has fewer than 2 ^ 32 places, so its counts are exact
      have hlength : (placesOf config t x.2).length < 2 ^ 32 := by
        have htitle := List.count_le_length (a := t) (l := config.terms x.2.title)
        have hbody := List.count_le_length (a := t) (l := config.terms x.2.body)
        rw [Fits, termTotal] at hfits
        omega
      refine ⟨pairwise_placesOf hfits t, by simpa [posting] using hne, ?_, ?_⟩
      · simp only [posting, List.length_map]
        exact UInt32.toNat_ofNat_of_lt' hlength
      · simp only [posting, List.length_map]
        rw [UInt32.le_iff_toNat_le, UInt32.toNat_ofNat_of_lt' hlength,
          UInt32.toNat_ofNat_of_lt' (show _ < 2 ^ 32 by omega)]
        omega

/-- The index of a store is well formed. -/
theorem wellFormed_build {α : Type} [Scalar α] (h : store.Fits config) :
    (build store config : Index α).WellFormed where
  lengths := by
    rw [h.documentCount_build, lengths_build, List.length_map]
  orderly := by
    rintro ⟨t, postings⟩ hmem
    have hfind := SortedMap.find?_of_mem hmem
    have hpostings : postings = (build store config : Index α).postings t := by
      rw [Index.postings, hfind, Option.getD_some]
    have hne : postings ≠ [] := by
      rintro rfl
      have hempty : (⟨.empty, []⟩ : Draft).terms.find? t ≠ some [] := by simp
      exact find?_foldl_add_ne_nil hempty hfind
    -- every posting of a term is that of one of the documents
    have hposting : ∀ p ∈ postings, ∃ x ∈ store.numbered, posting? config t x = some p := by
      rw [hpostings, postings_build]
      exact fun p => List.mem_filterMap.1
    refine ⟨hne, ?_, ?_, ?_⟩
    · rw [hpostings]
      exact pairwise_document_postings h t
    · intro p hp
      obtain ⟨x, hx, hsome⟩ := hposting p hp
      have hlt := (List.getElem?_eq_some_iff.1 (Store.getElem?_of_mem_numbered h.size_lt hx)).1
      rw [document_of_posting? hsome, UInt32.lt_iff_toNat_lt, h.documentCount_build]
      exact hlt
    · intro p hp
      obtain ⟨x, hx, hsome⟩ := hposting p hp
      exact consistent_of_posting? (h.fits x.2 (Store.mem_documents_of_mem_numbered hx)) hsome

end Index

end Concordance
