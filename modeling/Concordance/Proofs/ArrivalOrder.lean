import Concordance.Proofs.ByteOrder
import Concordance.Proofs.Stores
import Concordance.Snapshot
import Concordance.Unicode.Database

/-!
# The order in which documents arrive

Whatever order documents arrive in, they make the same store, or fail for the same reason: that there
are none, or that an id comes twice (`ofDocuments_of_perm`). In a store it does not matter either
whether a document is looked for by its id, by its number or one after the other (`agrees`).
-/

namespace Concordance

def Repeats (documents : List Document) (id : String) : Prop :=
  2 ≤ (documents.map Document.id).count id

/-- Of the ids that come more than once, the one with the smallest bytes. -/
def FirstRepeat (documents : List Document) (id : String) : Prop :=
  Repeats documents id ∧ ∀ other, Repeats documents other → Text.encode id ≤ Text.encode other

variable {arrived documents : List Document}

/-! ### The first id that comes twice -/

theorem repeats_iff_of_perm (h : arrived.Perm documents) {id : String} :
    Repeats arrived id ↔ Repeats documents id := by
  rw [Repeats, Repeats, (h.map Document.id).count_eq]

theorem firstRepeat_iff_of_perm (h : arrived.Perm documents) {id : String} :
    FirstRepeat arrived id ↔ FirstRepeat documents id := by
  rw [FirstRepeat, FirstRepeat, repeats_iff_of_perm h]
  simp only [repeats_iff_of_perm h]

theorem repeats_cons_of_ne {d : Document} {id : String} (h : d.id ≠ id) :
    Repeats (d :: documents) id ↔ Repeats documents id := by
  rw [Repeats, Repeats, List.map_cons, List.count_cons_of_ne h]

theorem Repeats.exists_mem {id : String} (h : Repeats documents id) : ∃ d ∈ documents, d.id = id :=
  List.mem_map.1 (List.count_pos_iff.1 (Nat.lt_of_lt_of_le Nat.zero_lt_two h))

/-- An id that is before all others comes once. -/
theorem repeats_cons_iff_of_lt {d : Document} (hlt : ∀ e ∈ documents, d.id < e.id) {id : String} :
    Repeats (d :: documents) id ↔ Repeats documents id := by
  by_cases heq : d.id = id
  · have hnone : (documents.map Document.id).count id = 0 := by
      refine List.count_eq_zero.2 fun hmem => ?_
      obtain ⟨e, he, rfl⟩ := List.mem_map.1 hmem
      exact String.lt_irrefl _ (heq ▸ hlt e he)
    rw [Repeats, Repeats, List.map_cons, heq, List.count_cons_self, hnone]
    decide
  · exact repeats_cons_of_ne heq

theorem firstRepeat_cons_iff_of_lt {d : Document} (hlt : ∀ e ∈ documents, d.id < e.id) {id : String} :
    FirstRepeat (d :: documents) id ↔ FirstRepeat documents id := by
  rw [FirstRepeat, FirstRepeat, repeats_cons_iff_of_lt hlt]
  simp only [repeats_cons_iff_of_lt hlt]

/-- An id that is after no other is the first to come twice, if it does. -/
theorem firstRepeat_cons_cons {a b : Document} (hle : ∀ d ∈ b :: documents, a.id ≤ d.id)
    (heq : a.id = b.id) : FirstRepeat (a :: b :: documents) a.id := by
  constructor
  · rw [Repeats, List.map_cons, List.map_cons, ← heq, List.count_cons_self, List.count_cons_self]
    omega
  · intro other hother
    obtain ⟨d, hd, rfl⟩ := hother.exists_mem
    rw [Text.encode_le_encode_iff]
    rcases List.mem_cons.1 hd with rfl | hd
    · exact String.le_refl _
    · exact hle d hd

/-- Only one id is the first to come twice. -/
theorem FirstRepeat.unique {id other : String} (h : FirstRepeat documents id)
    (h' : FirstRepeat documents other) : id = other :=
  String.le_antisymm (Text.encode_le_encode_iff.1 (h.2 other h'.1))
    (Text.encode_le_encode_iff.1 (h'.2 id h.1))

theorem FirstRepeat.not_nodup {id : String} (h : FirstRepeat documents id) :
    ¬(documents.map Document.id).Nodup := by
  intro hnodup
  exact Nat.not_le_of_lt (Nat.lt_succ_of_le (List.nodup_iff_count.1 hnodup id)) h.1

namespace Store

/-- In documents that are sorted, ids that come twice are neighbours, so the first of them is found. -/
theorem firstRepeat?_eq_some (hsorted : documents.Pairwise fun a b => a.id ≤ b.id)
    (h : ¬documents.Pairwise fun a b => a.id < b.id) :
    ∃ id, firstRepeat? documents = some id ∧ FirstRepeat documents id := by
  induction documents with
  | nil => exact absurd List.Pairwise.nil h
  | cons a documents ih =>
    obtain ⟨hfirst, hrest⟩ := List.pairwise_cons.1 hsorted
    cases documents with
    | nil => exact absurd (List.pairwise_singleton _ _) h
    | cons b rest =>
      rw [firstRepeat?]
      split
      · next heq => exact ⟨b.id, rfl, heq ▸ firstRepeat_cons_cons hfirst heq⟩
      · next hne =>
        have hlt : ∀ d ∈ b :: rest, a.id < d.id := by
          intro d hd
          have hab : a.id < b.id := String.not_le.1 fun hba =>
            hne (String.le_antisymm (hfirst b List.mem_cons_self) hba)
          rcases List.mem_cons.1 hd with rfl | hd
          · exact hab
          · exact String.not_le.1 fun hda => String.not_le.2 hab
              (String.le_trans ((List.pairwise_cons.1 hrest).1 d hd) hda)
        obtain ⟨id, hfound, hid⟩ := ih hrest fun hascending =>
          h (List.pairwise_cons.2 ⟨hlt, hascending⟩)
        exact ⟨id, hfound, (firstRepeat_cons_iff_of_lt hlt).2 hid⟩

/-! ### Finding a document -/

/-- The ways to a document of a store agree: going through all of them, its number and its id. -/
structure Agrees (store : Store) : Prop where
  /-- Going through the documents comes to each of them in the place of its number. -/
  numbered_iff : ∀ i n d, store.numbered[i]? = some (n, d) ↔ n.toNat = i ∧ store.document? n = some d
  /-- An id has the number of the document with this id. -/
  number?_iff : ∀ id n, store.number? id = some n ↔ ∃ d, store.document? n = some d ∧ d.id = id
  /-- An id leads to the document that has its number. -/
  get?_iff : ∀ id n, store.number? id = some n ↔ ∃ d, store.document? n = some d ∧ store.get? id = some d
  /-- An id that no document has leads nowhere. -/
  none_iff : ∀ id, id ∉ store.documents.map Document.id ↔ store.number? id = none ∧ store.get? id = none

variable {store : Store}

/-- The place of a document among the numbered ones is its number. -/
theorem getElem?_numbered (hsize : store.size < 2 ^ 32) (i : Nat) (n : DocId) (d : Document) :
    store.numbered[i]? = some (n, d) ↔ n.toNat = i ∧ store.document? n = some d := by
  rw [numbered, List.getElem?_map, List.getElem?_zipIdx, document?]
  constructor
  · intro h
    obtain ⟨⟨d', j⟩, hget, heq⟩ := Option.map_eq_some_iff.1 h
    obtain ⟨d'', hd, hpair⟩ := Option.map_eq_some_iff.1 hget
    cases hpair
    cases heq
    have hlt : 0 + i < 2 ^ 32 := by
      rw [Nat.zero_add]
      exact Nat.lt_trans (List.getElem?_eq_some_iff.1 hd).1 hsize
    rw [UInt32.toNat_ofNat_of_lt' hlt, Nat.zero_add]
    exact ⟨rfl, hd⟩
  · rintro ⟨rfl, hd⟩
    rw [hd, Option.map_some, Option.map_some, Nat.zero_add]
    dsimp only
    rw [UInt32.ofNat_toNat]

/-- The ids ascend with the places, so an id stands in one place only. -/
theorem eq_of_id_eq {i j : Nat} {d e : Document} (hd : store.documents[i]? = some d)
    (he : store.documents[j]? = some e) (h : d.id = e.id) : i = j := by
  obtain ⟨hi, rfl⟩ := List.getElem?_eq_some_iff.1 hd
  obtain ⟨hj, rfl⟩ := List.getElem?_eq_some_iff.1 he
  have hascending := List.pairwise_iff_getElem.1 store.ascending
  rcases Nat.lt_trichotomy i j with hlt | heq | hgt
  · exact absurd h (String.ne_of_lt (hascending i j hi hj hlt))
  · exact heq
  · exact absurd h.symm (String.ne_of_lt (hascending j i hj hi hgt))

/-- The first document with an id is the only one. -/
theorem findIdx?_id_eq_some_iff {id : String} {i : Nat} :
    store.documents.findIdx? (fun d => d.id == id) = some i ↔
      ∃ d, store.documents[i]? = some d ∧ d.id = id := by
  rw [List.findIdx?_eq_some_iff_getElem]
  constructor
  · rintro ⟨hi, hid, -⟩
    exact ⟨_, List.getElem?_eq_getElem hi, beq_iff_eq.1 hid⟩
  · rintro ⟨d, hd, rfl⟩
    obtain ⟨hi, heq⟩ := List.getElem?_eq_some_iff.1 hd
    refine ⟨hi, beq_iff_eq.2 (congrArg Document.id heq), fun j hji hj => ?_⟩
    have hget : store.documents[j]? = some (store.documents.get ⟨j, Nat.lt_trans hji hi⟩) :=
      List.getElem?_eq_getElem _
    -- two documents with one id would be one
    exact Nat.ne_of_lt hji (eq_of_id_eq hget hd (beq_iff_eq.1 hj))

/-- The number of an id is that of the document with this id. -/
theorem number?_eq_some_iff (hsize : store.size < 2 ^ 32) {id : String} {n : DocId} :
    store.number? id = some n ↔ ∃ d, store.document? n = some d ∧ d.id = id := by
  rw [number?, Option.map_eq_some_iff]
  constructor
  · rintro ⟨i, hi, rfl⟩
    obtain ⟨d, hd, hid⟩ := findIdx?_id_eq_some_iff.1 hi
    have hlt : i < 2 ^ 32 := Nat.lt_trans (List.getElem?_eq_some_iff.1 hd).1 hsize
    exact ⟨d, by rwa [document?, UInt32.toNat_ofNat_of_lt' hlt], hid⟩
  · intro h
    exact ⟨n.toNat, findIdx?_id_eq_some_iff.2 h, UInt32.ofNat_toNat⟩

/-- An id leads to the one document that has it. -/
theorem get?_eq_some_iff {id : String} {d : Document} :
    store.get? id = some d ↔ d ∈ store.documents ∧ d.id = id := by
  rw [get?, List.find?_eq_bind_findIdx?_getElem?, Option.bind_eq_some_iff]
  constructor
  · rintro ⟨i, hi, hd⟩
    obtain ⟨d', hd', hid⟩ := findIdx?_id_eq_some_iff.1 hi
    rw [hd] at hd'
    cases hd'
    exact ⟨List.mem_of_getElem? hd, hid⟩
  · rintro ⟨hd, hid⟩
    obtain ⟨i, hi⟩ := List.mem_iff_getElem?.1 hd
    exact ⟨i, findIdx?_id_eq_some_iff.2 ⟨d, hi, hid⟩, hi⟩

/-- The ways to a document of a store agree. -/
theorem agrees (hsize : store.size < 2 ^ 32) : store.Agrees where
  numbered_iff := getElem?_numbered hsize
  number?_iff _ _ := number?_eq_some_iff hsize
  get?_iff id n := by
    rw [number?_eq_some_iff hsize]
    refine exists_congr fun d => and_congr_right fun hd => ?_
    rw [get?_eq_some_iff]
    exact ⟨fun hid => ⟨List.mem_of_getElem? hd, hid⟩, And.right⟩
  none_iff id := by
    rw [number?, Option.map_eq_none_iff, List.findIdx?_eq_none_iff, get?, List.find?_eq_none, List.mem_map]
    constructor
    · intro h
      exact ⟨fun d hd => beq_eq_false_iff_ne.2 fun hid => h ⟨d, hd, hid⟩,
        fun d hd hid => h ⟨d, hd, beq_iff_eq.1 hid⟩⟩
    · rintro ⟨h, -⟩ ⟨d, hd, hid⟩
      exact beq_eq_false_iff_ne.1 (h d hd) hid

/-! ### The outcome -/

/-- What becomes of documents: a failure because there are none, or because of the first id that comes
more than once, or a store of all of them in the order of their ids. -/
inductive Outcome (source : String) (documents : List Document) : Except LoadError Store → Prop where
  | empty : documents = [] → Outcome source documents (.error (.empty source))
  | repeated (id : String) : FirstRepeat documents id → Outcome source documents (.error (.duplicateId id))
  | made (store : Store) : documents ≠ [] → (documents.map Document.id).Nodup →
      store.documents.Perm documents →
      (store.documents.Pairwise fun a b => Text.encode a.id < Text.encode b.id) →
      store.Agrees → Outcome source documents (.ok store)

/-- What becomes of documents is told by the documents, whatever their order. -/
theorem outcome_ofDocuments (source : String) (hcount : documents.length < 2 ^ 32) :
    Outcome source documents (ofDocuments source documents) := by
  by_cases hne : documents = []
  · subst hne
    rw [ofDocuments, dif_pos (show sort [] = [] from List.mergeSort_nil)]
    exact .empty rfl
  have hsorted : sort documents ≠ [] := fun hnil => hne (List.nil_perm.1 (hnil ▸ sort_perm documents))
  by_cases hnodup : (documents.map Document.id).Nodup
  · obtain ⟨store, hstore, hdocuments⟩ := ofDocuments_ok source hne hnodup
    have hperm : store.documents.Perm documents := hdocuments ▸ sort_perm documents
    rw [hstore]
    refine .made store hne hnodup hperm (store.ascending.imp Text.encode_lt_encode_iff.2) (agrees ?_)
    rwa [size, hperm.length_eq]
  · -- once sorted, documents with one id stand next to each other
    have hascending : ¬(sort documents).Pairwise fun a b => a.id < b.id := by
      intro h
      refine hnodup (((sort_perm documents).map Document.id).nodup_iff.1 (List.pairwise_map.2 ?_))
      exact h.imp String.ne_of_lt
    obtain ⟨id, hid, hfirst⟩ := firstRepeat?_eq_some (pairwise_le_sort documents) hascending
    rw [ofDocuments, dif_neg hsorted, dif_neg hascending, hid]
    exact .repeated id ((firstRepeat_iff_of_perm (sort_perm documents)).1 hfirst)

/-- Stores of the same documents are the same. -/
theorem eq_of_perm {a b : Store} (h : a.documents.Perm b.documents) : a = b := by
  refine eq_of_documents (h.eq_of_pairwise ?_ a.ascending b.ascending)
  intro x y _ _ hxy hyx
  exact absurd hyx (String.lt_asymm hxy)

/-- What becomes of documents becomes of them in every order. -/
theorem Outcome.of_perm {source : String} {result : Except LoadError Store} (hperm : arrived.Perm documents)
    (h : Outcome source arrived result) : Outcome source documents result := by
  cases h with
  | empty hnil => exact .empty (hnil ▸ hperm).nil_eq.symm
  | repeated id hid => exact .repeated id ((firstRepeat_iff_of_perm hperm).1 hid)
  | made store hne hnodup hstore hascending hagrees =>
    refine .made store ?_ ?_ (hstore.trans hperm) hascending hagrees
    · rintro rfl
      exact hne hperm.eq_nil
    · exact (hperm.map Document.id).nodup_iff.1 hnodup

/-- Documents have one outcome. -/
theorem Outcome.unique {source : String} {result result' : Except LoadError Store}
    (h : Outcome source documents result) (h' : Outcome source documents result') : result = result' := by
  cases h with
  | empty hnil =>
    subst hnil
    cases h' with
    | empty _ => rfl
    | repeated id hid => exact absurd List.nodup_nil hid.not_nodup
    | made store hne => exact absurd rfl hne
  | repeated id hid =>
    cases h' with
    | empty hnil =>
      subst hnil
      exact absurd List.nodup_nil hid.not_nodup
    | repeated id' hid' => rw [hid.unique hid']
    | made store _ hnodup => exact absurd hnodup hid.not_nodup
  | made store hne hnodup hstore =>
    cases h' with
    | empty hnil => exact absurd hnil hne
    | repeated id hid => exact absurd hnodup hid.not_nodup
    | made store' _ _ hstore' => rw [eq_of_perm (hstore.trans hstore'.symm)]

end Store

open Store in
/-- The order in which documents arrive does not matter. They have the one outcome that `Outcome` tells
of, and the same one in every other order, so that the index that is built of them and the answer to
every query are the same as well. -/
theorem ofDocuments_of_perm [Text.CharacterTable] (source : String) (hperm : arrived.Perm documents)
    (hcount : documents.length < 2 ^ 32) :
    Outcome source documents (ofDocuments source documents) ∧
      ofDocuments source arrived = ofDocuments source documents ∧
      ∀ config : Config Float,
        (ofDocuments source arrived).map (fun store => (Index.build store config.tokenizer : Index Float)) =
          (ofDocuments source documents).map (fun store => Index.build store config.tokenizer) ∧
        ∀ builtAt fingerprint text options,
          (ofDocuments source arrived).map (fun store =>
              (Snapshot.build store config builtAt fingerprint).search text options) =
            (ofDocuments source documents).map (fun store =>
              (Snapshot.build store config builtAt fingerprint).search text options) := by
  have hcount' : arrived.length < 2 ^ 32 := hperm.length_eq ▸ hcount
  have hsame : ofDocuments source arrived = ofDocuments source documents :=
    ((outcome_ofDocuments source hcount').of_perm hperm).unique (outcome_ofDocuments source hcount)
  rw [hsame]
  exact ⟨outcome_ofDocuments source hcount, rfl, fun _ => ⟨rfl, fun _ _ _ _ => rfl⟩⟩

def anchorsArticle : Document :=
  ⟨"anchors", "Anchors", "Mark to base positioning.", "anchors.md"⟩

def kerningArticle : Document :=
  ⟨"kerning", "Kerning", "Groups reduce pairs.", "kerning.md"⟩

open Store in
/-- Two articles, given in either order, make the same store. -/
theorem ofDocuments_of_perm_sample :
    [kerningArticle, anchorsArticle].Perm [anchorsArticle, kerningArticle] ∧
      [anchorsArticle, kerningArticle].length < 2 ^ 32 ∧
      Outcome "document list" [anchorsArticle, kerningArticle] (ofList [anchorsArticle, kerningArticle]) ∧
      ofList [kerningArticle, anchorsArticle] = ofList [anchorsArticle, kerningArticle] :=
  have hperm := List.Perm.swap anchorsArticle kerningArticle []
  have houtcome := ofDocuments_of_perm "document list" hperm (by decide)
  ⟨hperm, by decide, houtcome.1, houtcome.2.1⟩

end Concordance
