import Concordance.Proofs.Layout
import Concordance.Proofs.Stores
import Mathlib.Algebra.Group.Action.Defs
import Mathlib.Algebra.Order.BigOperators.Group.List
import Mathlib.Algebra.Order.Group.Nat

/-!
# What an index records

The occurrences that are gathered from a document are, term by term, the positions of its layout. The
index of a store has, for each term, one posting for every document that the term occurs in, in the
order of the documents, and the number of terms of every document.
-/

namespace Concordance.Index

open Text

/-! ### One document -/

/-- An entry with the positions of further occurrences. -/
def withPlaces (inTitle : Bool) (places : List UInt32) (old : UInt32 × List UInt32) :
    UInt32 × List UInt32 :=
  (if inTitle then old.1 + UInt32.ofNat places.length else old.1, old.2 ++ places)

theorem withPlaces_withPlaces (inTitle : Bool) (first next : List UInt32)
    (old : UInt32 × List UInt32) :
    withPlaces inTitle next (withPlaces inTitle first old) =
      withPlaces inTitle (first ++ next) old := by
  cases inTitle with
  | true => simp [withPlaces, UInt32.ofNat_add, UInt32.add_assoc]
  | false => simp [withPlaces]

/-- A term has no places among others. -/
theorem findIdxs_eq_nil {t : String} {tokens : List String} (h : t ∉ tokens) (first : Nat) :
    tokens.findIdxs (· == t) first = [] := by
  rw [List.findIdxs_eq_nil_iff]
  intro s hs
  rw [beq_eq_false_iff_ne]
  exact fun heq => h (heq ▸ hs)

/-- What is recorded of a term while the terms of a text are read: nothing changes if the term is not
among them, and else their positions are added. -/
theorem find?_foldl_addOccurrence (inTitle : Bool) (shift : UInt32) (tokens : List String)
    (first : Nat) (map : Occurrences) (t : String) :
    ((tokens.zipIdx first).foldl
        (fun map (s, place) => addOccurrence inTitle map s (shift + UInt32.ofNat place)) map).find? t =
      if t ∈ tokens then
        some (withPlaces inTitle
          ((tokens.findIdxs (· == t) first).map fun place => shift + UInt32.ofNat place)
          ((map.find? t).getD (0, [])))
      else map.find? t := by
  induction tokens generalizing first map with
  | nil => rfl
  | cons s rest ih =>
      rw [List.zipIdx_cons, List.foldl_cons, ih, List.findIdxs_cons]
      by_cases hs : s = t
      · subst hs
        have hfound : (addOccurrence inTitle map s (shift + UInt32.ofNat first)).find? s =
            some (withPlaces inTitle [shift + UInt32.ofNat first] ((map.find? s).getD (0, []))) := by
          rw [addOccurrence, SortedMap.find?_alter_self]
          rfl
        rw [hfound, if_pos List.mem_cons_self, beq_self_eq_true, if_pos rfl, List.map_cons]
        split
        · rw [Option.getD_some, withPlaces_withPlaces, List.singleton_append]
        · next hrest => rw [findIdxs_eq_nil hrest, List.map_nil]
      · -- another term leaves the entry as it is
        have hkept : (addOccurrence inTitle map s (shift + UInt32.ofNat first)).find? t =
            map.find? t := SortedMap.find?_alter_of_ne map (Ne.symm hs) _
        rw [hkept, beq_eq_false_iff_ne.2 hs]
        simp only [List.mem_cons, Ne.symm hs, false_or, Bool.false_eq_true, if_false]

theorem bodyStart_add (title : List String) (place : Nat) :
    bodyStart title.length + UInt32.ofNat place =
      UInt32.ofNat (title.length + gapBehind title + place) := by
  rw [bodyStart, gapBehind]
  split
  · next h => simp [h]
  · simp [UInt32.ofNat_add, titleGap]

/-- A sum of 32-bit numbers is the sum of the numbers, cut to 32 bits. -/
theorem sum32_map_ofNat {α : Type} (number : α → Nat) (items : List α) :
    sum32 (items.map fun item => UInt32.ofNat (number item)) =
      UInt32.ofNat (items.map number).sum := by
  -- both sums wrap around, so the sum so far may be any number
  have hfrom (start : Nat) :
      (items.map fun item => UInt32.ofNat (number item)).foldl (· + ·) (UInt32.ofNat start) =
        UInt32.ofNat (start + (items.map number).sum) := by
    induction items generalizing start with
    | nil => rfl
    | cons item rest ih =>
        rw [List.map_cons, List.foldl_cons, ← UInt32.ofNat_add, ih, List.map_cons, List.sum_cons,
          Nat.add_assoc]
  rw [sum32, ← Nat.zero_add (List.sum _)]
  exact hfrom 0

theorem foldl_toUInt64 (lengths : List UInt32) :
    lengths.foldl (fun total length => total + length.toUInt64) 0 =
      UInt64.ofNat (lengths.map UInt32.toNat).sum := by
  -- the sum so far may be any number
  have hfrom (start : Nat) :
      lengths.foldl (fun total length => total + length.toUInt64) (UInt64.ofNat start) =
        UInt64.ofNat (start + (lengths.map UInt32.toNat).sum) := by
    induction lengths generalizing start with
    | nil => rfl
    | cons length rest ih =>
        have hlength : length.toUInt64 = UInt64.ofNat length.toNat := by simp
        rw [List.foldl_cons, hlength, ← UInt64.ofNat_add, ih, List.map_cons, List.sum_cons,
          Nat.add_assoc]
  rw [← Nat.zero_add (List.sum _)]
  exact hfrom 0

/-- Every term that is read adds one position. -/
theorem sum_foldl_addOccurrence (inTitle : Bool) (place : UInt32 → UInt32)
    (tokens : List (String × UInt32)) (map : Occurrences) :
    ((tokens.foldl (fun map (t, p) => addOccurrence inTitle map t (place p)) map).entries.map
        fun entry => entry.2.2.length).sum =
      (map.entries.map fun entry => entry.2.2.length).sum + tokens.length := by
  induction tokens generalizing map with
  | nil => rfl
  | cons token rest ih =>
      let change (old : Option (UInt32 × List UInt32)) :=
        withPlaces inTitle [place token.2] (old.getD (0, []))
      have hnone : (change none).2.length = 1 := rfl
      have hsome (value : UInt32 × List UInt32) :
          (change (some value)).2.length = value.2.length + 1 := by simp [change, withPlaces]
      have hstep := SortedMap.sum_alterEntries token.1 (fun value => value.2.length) hnone hsome
        map.entries
      rw [List.foldl_cons, ih, List.length_cons, Nat.add_left_comm, ← hstep, Nat.add_comm]
      rfl

variable [CharacterTable] {config : TokenizerConfig}

/-- What is recorded of a term in a document. -/
theorem find?_occurrencesOf (document : Document) (t : String) :
    (occurrencesOf config document).find? t =
      if placesOf config t document = [] then none
      else
        some (UInt32.ofNat ((config.terms document.title).count t),
          (placesOf config t document).map UInt32.ofNat) := by
  rw [occurrencesOf, TokenizerConfig.tokenize_eq, TokenizerConfig.tokenize_eq, List.foldl_map,
    List.foldl_map, List.length_map, List.length_zipIdx]
  have htitle := find?_foldl_addOccurrence true 0 (config.terms document.title) 0 .empty t
  simp only [UInt32.zero_add] at htitle
  rw [find?_foldl_addOccurrence, htitle]
  simp only [bodyStart_add, SortedMap.find?_empty, Option.getD_none, placesOf_eq_nil_iff]
  rw [placesOf_eq_append, List.findIdxs_start (s := _ + _), List.map_append, List.map_map]
  by_cases ht : t ∈ config.terms document.title
  · by_cases hb : t ∈ config.terms document.body
    · simp [ht, hb, withPlaces, Function.comp_def, List.count, Nat.add_comm]
    · simp [ht, hb, withPlaces, Function.comp_def, List.count, findIdxs_eq_nil hb]
  · by_cases hb : t ∈ config.terms document.body
    · simp [ht, hb, withPlaces, Function.comp_def, findIdxs_eq_nil ht, List.count_eq_zero_of_not_mem,
        Nat.add_comm]
    · simp [ht, hb]

/-- The number of terms that is recorded of a document. -/
theorem lengthOfOccurrences_occurrencesOf (document : Document) :
    lengthOfOccurrences (occurrencesOf config document) =
      UInt32.ofNat (termTotal config document) := by
  have htitle := sum_foldl_addOccurrence true (fun p => p) (config.tokenize document.title) .empty
  rw [lengthOfOccurrences, sum32_map_ofNat fun entry : String × UInt32 × List UInt32 =>
    entry.2.2.length, occurrencesOf, sum_foldl_addOccurrence, htitle]
  simp [SortedMap.empty, termTotal, TokenizerConfig.tokenize_eq]

/-! ### A store -/

/-- The posting of a term in a numbered document, if it occurs there. -/
def posting? (config : TokenizerConfig) (t : String) (numbered : DocId × Document) :
    Option Posting :=
  let places := placesOf config t numbered.2
  if places = [] then none
  else
    some (posting numbered.1 (UInt32.ofNat ((config.terms numbered.2.title).count t))
      (places.map UInt32.ofNat))

theorem document_of_posting? {config : TokenizerConfig} {t : String} {x : DocId × Document} {p : Posting}
    (h : posting? config t x = some p) : p.document = x.1 := by
  rw [posting?] at h
  split at h
  · cases h
  · cases h
    rfl

theorem exists_posting?_iff {config : TokenizerConfig} {t : String} {x : DocId × Document} :
    (∃ p, posting? config t x = some p) ↔ t ∈ config.terms x.2.title ∨ t ∈ config.terms x.2.body := by
  have hplaces : placesOf config t x.2 ≠ [] ↔ t ∈ config.terms x.2.title ∨ t ∈ config.terms x.2.body := by
    rw [Ne, placesOf_eq_nil_iff]
    tauto
  rw [← hplaces, posting?]
  by_cases h : placesOf config t x.2 = []
  · simp [h]
  · simp [h]

/-- Adding documents adds their postings behind those that are there. -/
theorem find?_foldl_add (config : TokenizerConfig) (documents : List (DocId × Document)) (draft : Draft)
    (t : String) :
    ((documents.foldl (Draft.add config) draft).terms.find? t).getD [] =
      (draft.terms.find? t).getD [] ++ documents.filterMap (posting? config t) := by
  induction documents generalizing draft with
  | nil => simp
  | cons numbered rest ih =>
      have hstep : ((draft.add config numbered).terms.find? t).getD [] =
          (draft.terms.find? t).getD [] ++ (posting? config t numbered).toList := by
        rw [Draft.add, SortedMap.find?_absorb, find?_occurrencesOf, posting?]
        split
        · simp [SortedMap.combined]
        · simp [SortedMap.combined]
      rw [List.foldl_cons, ih, hstep, List.append_assoc, List.filterMap_cons]
      cases posting? config t numbered with
      | none => rfl
      | some p => rfl

theorem lengths_foldl_add (config : TokenizerConfig) (documents : List (DocId × Document)) (draft : Draft) :
    (documents.foldl (Draft.add config) draft).lengths =
      draft.lengths ++ documents.map fun numbered => UInt32.ofNat (termTotal config numbered.2) := by
  induction documents generalizing draft with
  | nil => simp
  | cons numbered rest ih =>
      rw [List.foldl_cons, ih, List.map_cons, Draft.add, lengthOfOccurrences_occurrencesOf,
        List.append_assoc]
      rfl

variable {α : Type} [Scalar α] {store : Store}

/-- What the index knows of a term. -/
theorem postings_build (store : Store) (t : String) :
    (build store config : Index α).postings t = store.numbered.filterMap (posting? config t) := by
  have hfold := find?_foldl_add config store.numbered ⟨.empty, []⟩ t
  rwa [SortedMap.find?_empty, Option.getD_none, List.nil_append] at hfold

theorem lengths_build (store : Store) :
    (build store config : Index α).lengths =
      store.documents.map fun d => UInt32.ofNat (termTotal config d) := by
  have hfold := lengths_foldl_add config store.numbered ⟨.empty, []⟩
  rw [← store.map_snd_numbered, List.map_map]
  exact hfold

/-- The documents of a small store are counted. -/
theorem documentCount_build (h : store.size < 2 ^ 32) :
    (build store config : Index α).documentCount.toNat = store.size := by
  have hcount : (build store config : Index α).documentCount =
      UInt32.ofNat (build store config : Index α).lengths.length := rfl
  rw [hcount, lengths_build, List.length_map]
  exact UInt32.toNat_ofNat_of_lt' h

theorem lengthOf_build (h : store.size < 2 ^ 32) {n : DocId} {d : Document}
    (hmem : (n, d) ∈ store.numbered) :
    (build store config : Index α).lengthOf n = UInt32.ofNat (termTotal config d) := by
  rw [lengthOf, lengths_build, List.getElem?_map, Store.getElem?_of_mem_numbered h hmem]
  rfl

end Concordance.Index

namespace Concordance

open Index

variable [Text.CharacterTable] {config : TokenizerConfig} {store : Store}

/-- The documents of a store, and the terms of each of them, can be counted in 32 bits. -/
structure Store.Fits (config : TokenizerConfig) (store : Store) : Prop where
  size_lt : store.size < 2 ^ 32
  fits : ∀ d ∈ store.documents, Index.Fits config d

namespace Store.Fits

theorem toNat_termTotal (h : store.Fits config) {d : Document} (hd : d ∈ store.documents) :
    (UInt32.ofNat (termTotal config d)).toNat = termTotal config d := by
  have hfits := h.fits d hd
  rw [Index.Fits] at hfits
  exact UInt32.toNat_ofNat_of_lt' (show _ < 2 ^ 32 by omega)

variable {α : Type} [Scalar α]

theorem lengthOf_build (h : store.Fits config) {n : DocId} {d : Document}
    (hmem : (n, d) ∈ store.numbered) :
    ((build store config : Index α).lengthOf n).toNat = termTotal config d := by
  rw [Index.lengthOf_build h.size_lt hmem]
  exact h.toNat_termTotal (mem_documents_of_mem_numbered hmem)

theorem documentCount_build (h : store.Fits config) :
    (build store config : Index α).documentCount.toNat = store.documents.length :=
  Index.documentCount_build h.size_lt

/-- The sum of the lengths stays below 2⁶⁴, there being less than 2³² of them. -/
theorem totalLength_build (h : store.Fits config) :
    (build store config : Index α).totalLength.toNat =
      (store.documents.map (termTotal config)).sum := by
  have htotal : (build store config : Index α).totalLength =
      (build store config : Index α).lengths.foldl
        (fun total length => total + length.toUInt64) 0 := rfl
  have hlengths : ((build store config : Index α).lengths.map UInt32.toNat) =
      store.documents.map (termTotal config) := by
    rw [lengths_build, List.map_map]
    exact List.map_congr_left fun d hd => h.toNat_termTotal hd
  -- no document has more than 2³² - 1 terms
  have hbound : (store.documents.map (termTotal config)).sum ≤
      store.documents.length * (2 ^ 32 - 1) := by
    rw [← smul_eq_mul, ← List.length_map (termTotal config)]
    apply List.sum_le_card_nsmul
    intro total htotal
    obtain ⟨d, hd, rfl⟩ := List.mem_map.1 htotal
    have hfits := h.fits d hd
    rw [Index.Fits] at hfits
    omega
  have hsize : store.documents.length < 2 ^ 32 := h.size_lt
  rw [htotal, foldl_toUInt64, hlengths]
  exact UInt64.toNat_ofNat_of_lt' (show _ < 2 ^ 64 by omega)

/-- The mean length is the number of all terms over the number of documents. -/
theorem meanLength_build (h : store.Fits config) :
    (build store config : Index α).meanLength =
      Scalar.ofNat (store.documents.map (termTotal config)).sum /
        Scalar.ofNat store.documents.length := by
  have hmean : (build store config : Index α).meanLength =
      mean (build store config : Index α).totalLength
        (build store config : Index α).documentCount := rfl
  -- there is a document, so there is a mean
  have hpos : 0 < store.documents.length := List.length_pos_of_ne_nil store.nonempty
  have hcount := h.documentCount_build (α := α)
  rw [hmean, mean, if_neg, hcount, h.totalLength_build]
  intro hzero
  rw [hzero] at hcount
  exact absurd hcount.symm (Nat.ne_of_gt hpos)

end Store.Fits

end Concordance
