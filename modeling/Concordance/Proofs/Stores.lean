import Concordance.Store
import Mathlib.Algebra.Ring.Nat

/-!
# Stores and the documents they are made of

Any documents with distinct ids make a store, and the store holds just these documents. Documents are
numbered in the order of their ids.
-/

namespace Concordance.Store

theorem sort_perm (documents : List Document) : (sort documents).Perm documents :=
  List.mergeSort_perm _ _

/-- Sorted documents are in the order of their ids. -/
theorem pairwise_le_sort (documents : List Document) :
    (sort documents).Pairwise fun a b => a.id ≤ b.id := by
  have hle : (sort documents).Pairwise fun a b => decide (a.id ≤ b.id) = true := by
    apply List.pairwise_mergeSort
    · intro a b c hab hbc
      rw [decide_eq_true_eq] at hab hbc ⊢
      exact String.le_trans hab hbc
    · intro a b
      rw [Bool.or_eq_true, decide_eq_true_eq, decide_eq_true_eq]
      exact String.le_total a.id b.id
  exact hle.imp of_decide_eq_true

/-- Documents with distinct ids are strictly ascending once they are sorted. -/
theorem pairwise_sort {documents : List Document} (h : (documents.map Document.id).Nodup) :
    (sort documents).Pairwise fun a b => a.id < b.id := by
  have hne : ((sort documents).map Document.id).Nodup :=
    ((sort_perm documents).map Document.id).nodup_iff.2 h
  refine (pairwise_le_sort documents).imp₂ ?_ (List.pairwise_map.1 hne)
  intro a b hab hne
  exact String.not_le.1 fun hba => hne (String.le_antisymm hab hba)

/-- Documents with distinct ids make a store. -/
theorem ofDocuments_ok {documents : List Document} (source : String) (hne : documents ≠ [])
    (h : (documents.map Document.id).Nodup) :
    ∃ store, ofDocuments source documents = .ok store ∧ store.documents = sort documents := by
  have hsorted : sort documents ≠ [] := fun hnil =>
    hne (List.nil_perm.1 (hnil ▸ sort_perm documents))
  rw [ofDocuments, dif_neg hsorted, dif_pos (pairwise_sort h)]
  exact ⟨_, rfl, rfl⟩

/-- The documents of a store are all that it is made of. -/
theorem eq_of_documents {a b : Store} (h : a.documents = b.documents) : a = b := by
  cases a
  cases b
  cases h
  rfl

/-- Documents make a store if there are any and their ids are distinct, and it holds them in order. -/
theorem ofDocuments_eq_ok_iff {source : String} {documents : List Document} {store : Store} :
    ofDocuments source documents = .ok store ↔
      documents ≠ [] ∧ (documents.map Document.id).Nodup ∧ store.documents = sort documents := by
  constructor
  · intro h
    rw [ofDocuments] at h
    split at h
    · cases h
    · next hsorted =>
      split at h
      · next hascending =>
        cases h
        refine ⟨fun hnil => hsorted (by rw [hnil]; exact List.mergeSort_nil), ?_, rfl⟩
        refine ((sort_perm documents).map Document.id).nodup_iff.1 (List.pairwise_map.2 ?_)
        -- ids that ascend strictly do not repeat
        refine hascending.imp ?_
        intro a b hlt heq
        rw [heq] at hlt
        exact String.lt_irrefl b.id hlt
      · cases h
  · rintro ⟨hne, hdistinct, hstore⟩
    obtain ⟨made, hmade, hdocuments⟩ := ofDocuments_ok source hne hdistinct
    rw [hmade, eq_of_documents (hdocuments.trans hstore.symm)]

variable (store : Store)

@[simp] theorem map_snd_numbered : store.numbered.map Prod.snd = store.documents := by
  rw [numbered, List.map_map]
  exact List.zipIdx_map_fst 0 store.documents

@[simp] theorem length_numbered : store.numbered.length = store.size := by
  simp [numbered, size]

variable {store}

theorem mem_documents_of_mem_numbered {n : DocId} {d : Document}
    (hmem : (n, d) ∈ store.numbered) : d ∈ store.documents :=
  store.map_snd_numbered ▸ List.mem_map_of_mem (f := Prod.snd) hmem

theorem getElem?_of_mem_numbered (hsize : store.size < 2 ^ 32) {n : DocId} {d : Document}
    (hmem : (n, d) ∈ store.numbered) : store.documents[n.toNat]? = some d := by
  obtain ⟨⟨d', i⟩, hzip, heq⟩ := List.mem_map.1 hmem
  cases heq
  have hget := List.mem_zipIdx_iff_getElem?.1 hzip
  have hlt : i < 2 ^ 32 := Nat.lt_trans (List.getElem?_eq_some_iff.1 hget).1 hsize
  rwa [UInt32.toNat_ofNat_of_lt' hlt]

/-- The numbers ascend with the ids. -/
theorem pairwise_numbered (hsize : store.size < 2 ^ 32) :
    store.numbered.Pairwise fun a b => a.1 < b.1 ∧ a.2.id < b.2.id := by
  rw [List.pairwise_iff_getElem]
  intro i j hi hj hij
  rw [length_numbered] at hi hj
  simp only [numbered, List.getElem_map, List.getElem_zipIdx, Nat.zero_add]
  refine ⟨?_, List.pairwise_iff_getElem.1 store.ascending i j _ _ hij⟩
  rw [UInt32.lt_iff_toNat_lt, UInt32.toNat_ofNat_of_lt' (show i < 2 ^ 32 by omega),
    UInt32.toNat_ofNat_of_lt' (show j < 2 ^ 32 by omega)]
  exact hij

/-- Comparing numbers is comparing ids. -/
theorem le_iff_of_mem_numbered (hsize : store.size < 2 ^ 32) {x y : DocId × Document}
    (hx : x ∈ store.numbered) (hy : y ∈ store.numbered) : x.1 ≤ y.1 ↔ x.2.id ≤ y.2.id := by
  have hasc := List.pairwise_iff_getElem.1 (pairwise_numbered hsize)
  obtain ⟨i, hi, rfl⟩ := List.getElem_of_mem hx
  obtain ⟨j, hj, rfl⟩ := List.getElem_of_mem hy
  rcases Nat.lt_trichotomy i j with hij | rfl | hij
  · obtain ⟨hnumber, hid⟩ := hasc i j hi hj hij
    exact iff_of_true (UInt32.le_of_lt hnumber)
      (String.not_lt.1 fun hlt => String.lt_irrefl _ (String.lt_trans hid hlt))
  · exact iff_of_true (UInt32.le_refl _) (String.le_refl _)
  · obtain ⟨hnumber, hid⟩ := hasc j i hj hi hij
    exact iff_of_false (UInt32.not_le.2 hnumber) (String.not_le.2 hid)

end Concordance.Store
