import Concordance.CacheFile
import Concordance.Proofs.CompressedFrames
import Concordance.Proofs.Outcomes
import Concordance.Proofs.Stores
import Mathlib

/-!
# Snapshots that were kept

A snapshot that was kept is read from its file as it was, and it is given back only to settings that
share its index and to articles with its fingerprint. Then it is the snapshot that was kept, but for the
settings, which are those that were asked for (`restore_ofSnapshot`).
-/

namespace Concordance

/-! ### Layout -/

namespace StoredSnapshot

open Codec

theorem lawful_tokenizerCodec : tokenizerCodec.Lawful :=
  (lawful_word64.pair lawful_bool).map fun _ => rfl

theorem lawful_weightsCodec : weightsCodec.Lawful :=
  (lawful_word64.pair (lawful_word64.pair lawful_word64)).map fun _ => rfl

theorem lawful_configCodec : configCodec.Lawful :=
  (lawful_tokenizerCodec.pair (lawful_weightsCodec.pair
    (lawful_word64.pair (lawful_word64.pair lawful_word64)))).map fun _ => rfl

theorem lawful_documentCodec : documentCodec.Lawful :=
  (lawful_text.pair (lawful_text.pair (lawful_text.pair lawful_text))).map fun _ => rfl

theorem lawful_postingCodec : postingCodec.Lawful :=
  (lawful_word32.pair (lawful_word32.pair (lawful_word32.pair lawful_word32.list))).map fun _ => rfl

theorem lawful_indexCodec : indexCodec.Lawful :=
  (lawful_postingCodec.list.sortedMap.pair
    (lawful_word32.list.pair (lawful_word32.pair (lawful_word64.pair lawful_word64)))).map fun _ => rfl

/-- A stored snapshot is read as it was written. -/
theorem lawful_codec : codec.Lawful :=
  (lawful_text.pair (lawful_word32.pair (lawful_word64.pair (lawful_word64.option.pair
    (lawful_configCodec.pair (lawful_documentCodec.list.pair lawful_indexCodec)))))).map fun _ => rfl

end StoredSnapshot

/-! ### Files -/

/-- A file that was packed holds the bytes of the value it was packed from. -/
theorem CacheFile.payload_pack {α : Type} (codec : Codec α) (value : α) :
    CacheFile.payload (CacheFile.pack codec value) = .ok (codec.write value) := by
  have htake : takeBytes? 4 (CacheFile.pack codec value) =
      some (CacheFile.mark, Lz4.writeFrame (codec.write value)) :=
    takeBytes?_append CacheFile.mark _
  rw [CacheFile.payload, htake]
  simp only [if_true, Lz4.readFrame_writeFrame]

/-- The value in a file that was packed is the value it was packed from. -/
theorem CacheFile.unpack_pack {α : Type} {codec : Codec α} (h : codec.Lawful) (room : Nat) (path : String)
    {value : α} (hlength : (codec.write value).length < Codec.lengthBound) :
    CacheFile.unpack room codec path (CacheFile.pack codec value) = .ok (.ok value) := by
  have hread := h.read_write room value [] hlength
  rw [List.append_nil] at hread
  rw [CacheFile.unpack, CacheFile.payload_pack]
  simp only [hread]

/-- A file is longer than what it was packed from. -/
theorem CacheFile.length_write_le {α : Type} (codec : Codec α) (value : α) :
    (codec.write value).length ≤ (CacheFile.pack codec value).length := by
  have := Lz4.length_le_length_writeFrame (codec.write value)
  rw [CacheFile.pack, List.length_append]
  omega

/-! ### Parts -/

/-- The documents of a store are sorted already. -/
@[simp] theorem Store.sort_documents (store : Store) : Store.sort store.documents = store.documents := by
  apply List.mergeSort_of_pairwise
  exact store.ascending.imp fun hlt => decide_eq_true (String.not_lt.1 fun hgt =>
    String.lt_irrefl _ (String.lt_trans hlt hgt))

/-- The mean of an index survives as a pattern of bits. -/
@[simp] theorem Index.map_ofBits_map_toBits (index : Index Float) :
    (index.map Float.toBits).map Float.ofBits = index := by
  show { index with meanLength := Float.ofBits index.meanLength.toBits } = index
  rw [Float.ofBits_toBits]

/-! ### Restoring -/

/-- A fingerprint that was kept is current only if it is that of the articles. -/
theorem StoredSnapshot.isCurrent_eq_ok_iff {saved now : Option UInt64} :
    StoredSnapshot.isCurrent saved now = .ok () ↔ ∃ f, saved = some f ∧ now = some f := by
  cases saved with
  | none => simp [StoredSnapshot.isCurrent]
  | some saved =>
    cases now with
    | none => simp [StoredSnapshot.isCurrent]
    | some now => by_cases heq : saved = now <;> simp [StoredSnapshot.isCurrent, heq, eq_comm]

/-- Parts make up a snapshot if the index is in order and counts the documents of the store. -/
theorem Snapshot.ofParts_eq_ok_iff {α : Type} {store : Store} {index : Index α} {config : Config α}
    {builtAt : UInt64} {fingerprint : Option UInt64} {snapshot : Snapshot α} :
    Snapshot.ofParts store index config builtAt fingerprint = .ok snapshot ↔
      index.fault? = none ∧ index.documentCount.toNat = store.size ∧
        snapshot = ⟨store, index, config, builtAt, fingerprint, 0⟩ := by
  rw [Snapshot.ofParts]
  cases index.fault? with
  | some fault => simp
  | none => by_cases hcount : index.documentCount.toNat = store.size <;> simp [hcount, eq_comm]

namespace StoredSnapshot

/-- What a stored snapshot has to be for settings and for articles with the fingerprint `now`. -/
structure Trusted (stored : StoredSnapshot) (config : Config Float) (now : Option UInt64) : Prop where
  version : stored.version = 2
  tokenizer : stored.config.tokenizer = config.tokenizer
  fingerprint : ∃ f, stored.fingerprint = some f ∧ now = some f
  nonempty : stored.documents ≠ []
  distinct : (stored.documents.map Document.id).Nodup
  verified : stored.index.fault? = none
  counted : stored.index.documentCount.toNat = stored.documents.length

/-- A stored snapshot is given back if it can be trusted, and then with all that was stored but the
settings, which are those that are asked for. -/
theorem restore_eq_ok_iff {stored : StoredSnapshot} {config : Config Float} {now : Option UInt64}
    {snapshot : Snapshot Float} :
    stored.restore config now = .ok snapshot ↔
      stored.Trusted config now ∧ snapshot.store.documents = Store.sort stored.documents ∧
        snapshot = ⟨snapshot.store, stored.index.map Float.ofBits, config, stored.builtAt,
          stored.fingerprint, 0⟩ := by
  -- sorting keeps the number of documents, so either number may be compared with the index
  have hsize : ∀ store : Store, store.documents = Store.sort stored.documents →
      store.size = stored.documents.length := by
    intro store hstore
    rw [Store.size, hstore, (Store.sort_perm stored.documents).length_eq]
  constructor
  · intro h
    rw [restore] at h
    split at h
    · cases h
    · next hversion =>
      split at h
      · cases h
      · next hshares =>
        obtain ⟨⟨⟩, hcurrent, h⟩ := bind_eq_ok.1 h
        obtain ⟨store, hstore, h⟩ := bind_eq_ok.1 h
        obtain ⟨hne, hdistinct, hdocuments⟩ :=
          Store.ofDocuments_eq_ok_iff.1 (mapError_eq_ok.1 hstore)
        obtain ⟨hverified, hcounted, rfl⟩ := Snapshot.ofParts_eq_ok_iff.1 (mapError_eq_ok.1 h)
        have hsame : config.sharesIndex stored.config = true := by simpa using hshares
        have htokenizer : config.tokenizer = stored.config.tokenizer := of_decide_eq_true hsame
        exact ⟨⟨not_not.1 hversion, htokenizer.symm, isCurrent_eq_ok_iff.1 hcurrent, hne, hdistinct,
          hverified, hcounted.trans (hsize store hdocuments)⟩, hdocuments, rfl⟩
  · rintro ⟨htrusted, hdocuments, hsnapshot⟩
    have hshares : config.sharesIndex stored.config = true :=
      decide_eq_true htrusted.tokenizer.symm
    rw [restore, if_neg (fun hversion => hversion htrusted.version), if_neg (by simp [hshares])]
    refine bind_eq_ok.2 ⟨(), isCurrent_eq_ok_iff.2 htrusted.fingerprint, ?_⟩
    refine bind_eq_ok.2 ⟨snapshot.store, mapError_eq_ok.2 (Store.ofDocuments_eq_ok_iff.2
      ⟨htrusted.nonempty, htrusted.distinct, hdocuments⟩), ?_⟩
    exact mapError_eq_ok.2 (Snapshot.ofParts_eq_ok_iff.2
      ⟨htrusted.verified, htrusted.counted.trans (hsize _ hdocuments).symm, hsnapshot⟩)

/-- What is given back of a snapshot that was kept: the same snapshot under the settings asked for,
which share its index, and for articles with its fingerprint. -/
theorem restore_ofSnapshot {root : String} {kept : Snapshot Float} {config : Config Float}
    {now : Option UInt64} {snapshot : Snapshot Float}
    (h : (StoredSnapshot.ofSnapshot root kept).restore config now = .ok snapshot) :
    config.tokenizer = kept.config.tokenizer ∧ (∃ f, kept.fingerprint = some f ∧ now = some f) ∧
      snapshot = { kept with config := config, generation := 0 } := by
  obtain ⟨htrusted, hdocuments, hsnapshot⟩ := restore_eq_ok_iff.1 h
  have hstore : snapshot.store = kept.store :=
    Store.eq_of_documents (hdocuments.trans kept.store.sort_documents)
  refine ⟨htrusted.tokenizer.symm, htrusted.fingerprint, hsnapshot.trans ?_⟩
  simp only [ofSnapshot, Index.map_ofBits_map_toBits, hstore]

end StoredSnapshot

end Concordance
