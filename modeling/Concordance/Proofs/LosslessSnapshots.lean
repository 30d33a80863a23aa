import Concordance.Proofs.StoredSnapshots
import Concordance.Proofs.WellFormedIndexes
import Concordance.Unicode.Database

/-!
# Keeping a snapshot loses nothing

Whatever is kept of a snapshot is read again field for field, the numbers of its settings and the mean of
its index as the same patterns of bits. Every snapshot that is built or put together is sound, and a sound
snapshot is given back with the same documents under the same numbers and the same index, so it answers
every query as the one that was kept (`read_write_restore`).
-/

namespace Concordance

/-! ### Sound snapshots -/

namespace Snapshot

section

variable {α : Type}

/-- The index has no fault and counts the documents of the store. -/
structure Sound (snapshot : Snapshot α) : Prop where
  verified : snapshot.index.fault? = none
  counted : snapshot.index.documentCount.toNat = snapshot.store.size

/-- Parts that make up a snapshot make up a sound one. -/
theorem sound_of_ofParts {store : Store} {index : Index α} {config : Config α} {builtAt : UInt64}
    {fingerprint : Option UInt64} {snapshot : Snapshot α}
    (h : ofParts store index config builtAt fingerprint = .ok snapshot) : snapshot.Sound := by
  obtain ⟨hverified, hcounted, rfl⟩ := ofParts_eq_ok_iff.1 h
  exact ⟨hverified, hcounted⟩

variable [Text.CharacterTable] [Scalar α]

/-- A snapshot that is built is sound. -/
theorem sound_build {store : Store} {config : Config α} (h : store.Fits config.tokenizer)
    (builtAt : UInt64) (fingerprint : Option UInt64) :
    (build store config builtAt fingerprint).Sound where
  verified := Index.fault?_eq_none_iff.2 (Index.wellFormed_build h)
  counted := h.documentCount_build (α := α)

end

/-! ### Answers -/

variable [Text.CharacterTable] {α : Type} {a b : Snapshot α}

/-- Snapshots with the same documents and tokenizer show every result alike. -/
theorem show?_congr (hstore : a.store = b.store) (htokenizer : a.config.tokenizer = b.config.tokenizer) :
    a.show? = b.show? := by
  funext width result
  rw [show?, show?, hstore, htokenizer]

/-- Snapshots with the same documents, index, tokenizer and weights answer every query alike. -/
theorem search_congr [Scalar α] (hstore : a.store = b.store) (hindex : a.index = b.index)
    (htokenizer : a.config.tokenizer = b.config.tokenizer)
    (hweights : a.config.weights = b.config.weights) : a.search = b.search := by
  have hranking : a.ranking = b.ranking := by
    funext query
    rw [ranking, ranking, hstore, hindex, hweights]
  funext text options
  rw [search, search, htokenizer, hranking, hindex]

end Snapshot

/-! ### Reading what was written -/

namespace StoredSnapshot

variable {root : String} {snapshot : Snapshot Float}

/-- What is kept of a sound snapshot can be trusted under the same tokenizer for articles with its
fingerprint. -/
theorem trusted_of_sound (h : snapshot.Sound) (root : String) {config : Config Float} {f : UInt64}
    (htokenizer : config.tokenizer = snapshot.config.tokenizer) (hfingerprint : snapshot.fingerprint = some f) :
    (ofSnapshot root snapshot).Trusted config (some f) where
  version := rfl
  tokenizer := htokenizer.symm
  fingerprint := ⟨f, hfingerprint, rfl⟩
  nonempty := snapshot.store.nonempty
  distinct := by
    refine List.pairwise_map.2 (snapshot.store.ascending.imp ?_)
    intro a b hlt heq
    rw [heq] at hlt
    exact String.lt_irrefl b.id hlt
  verified := h.verified
  counted := h.counted

variable [Text.CharacterTable]

/-- What is written of a snapshot, if it takes fewer than `2 ^ 64` bytes, is read again field for field,
whatever comes behind it. Under settings with the same tokenizer and for articles with the fingerprint
that was kept, a sound snapshot is given back with the same store, index and time, so with the same
weights it answers every query alike and shows every result alike. -/
theorem read_write_restore (root : String) (snapshot : Snapshot Float)
    (hlength : (codec.write (ofSnapshot root snapshot)).length < 2 ^ 64) :
    ∃ stored, (∀ room rest, codec.read room (codec.write (ofSnapshot root snapshot) ++ rest) =
        .ok (stored, rest)) ∧
      stored.root = root ∧ stored.version = layoutVersion ∧ stored.builtAt = snapshot.builtAt ∧
      stored.fingerprint = snapshot.fingerprint ∧
      stored.config = snapshot.config.map Float.toBits ∧
      stored.documents = snapshot.store.documents ∧
      stored.index = snapshot.index.map Float.toBits ∧
      (snapshot.Sound → ∀ (config : Config Float) (f : UInt64),
        config.tokenizer = snapshot.config.tokenizer → snapshot.fingerprint = some f →
        ∃ restored, stored.restore config (some f) = .ok restored ∧
          restored.store = snapshot.store ∧ restored.index = snapshot.index ∧
          restored.builtAt = snapshot.builtAt ∧ restored.fingerprint = snapshot.fingerprint ∧
          restored.config = config ∧ restored.show? = snapshot.show? ∧
          (config.weights = snapshot.config.weights → restored.search = snapshot.search)) := by
  refine ⟨ofSnapshot root snapshot, fun room rest => lawful_codec.read_write room _ rest hlength, rfl, rfl,
    rfl, rfl, rfl, rfl, rfl, ?_⟩
  intro hsound config f htokenizer hfingerprint
  have htrusted := trusted_of_sound hsound root htokenizer hfingerprint
  have hindex : (ofSnapshot root snapshot).index.map Float.ofBits = snapshot.index :=
    Index.map_ofBits_map_toBits snapshot.index
  let restored : Snapshot Float :=
    ⟨snapshot.store, snapshot.index, config, snapshot.builtAt, snapshot.fingerprint, 0⟩
  -- the documents are in order already, so sorting them again moves none of them
  have hrestore : (ofSnapshot root snapshot).restore config (some f) = .ok restored :=
    restore_eq_ok_iff.2 ⟨htrusted, snapshot.store.sort_documents.symm, by rw [hindex]; rfl⟩
  exact ⟨restored, hrestore, rfl, rfl, rfl, rfl, rfl, Snapshot.show?_congr rfl htokenizer,
    fun hweights => Snapshot.search_congr rfl rfl htokenizer hweights⟩

end StoredSnapshot

end Concordance

/-! ### A snapshot with one term -/

namespace Concordance.StoredSnapshot

/-- A snapshot of one document, whose title is its only term. -/
def sample : Snapshot Float where
  store := ⟨[⟨"a", "é", "", "a.md"⟩], by simp, by simp⟩
  index := ⟨⟨[("é", [⟨0, 1, 1, [0]⟩])], by simp⟩, [1], 1, 1.0, 1⟩
  config := .standard
  builtAt := 7
  fingerprint := some 5
  generation := 3

theorem sound_sample : sample.Sound :=
  ⟨by decide, by decide⟩

theorem length_write_sample : (codec.write (ofSnapshot "/docs" sample)).length < 2 ^ 64 := by
  decide +kernel

/-- The sample is read again and given back, with the answers that it had. -/
theorem read_write_restore_sample :
    (codec.write (ofSnapshot "/docs" sample)).length < 2 ^ 64 ∧
      ∃ stored, codec.read 0 (codec.write (ofSnapshot "/docs" sample) ++ []) = .ok (stored, []) ∧
        stored.documents = sample.store.documents ∧
        ∃ restored, stored.restore .standard (some 5) = .ok restored ∧
          restored.store = sample.store ∧ restored.index = sample.index ∧
          restored.search = sample.search := by
  obtain ⟨stored, hread, -, -, -, -, -, hdocuments, -, hrestore⟩ :=
    read_write_restore "/docs" sample length_write_sample
  obtain ⟨restored, hrestored, hstore, hindex, -, -, -, -, hsearch⟩ :=
    hrestore sound_sample .standard 5 rfl rfl
  exact ⟨length_write_sample, stored, hread 0 [], hdocuments, restored, hrestored, hstore, hindex,
    hsearch rfl⟩

end Concordance.StoredSnapshot
