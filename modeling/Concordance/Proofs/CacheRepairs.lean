import Concordance.Proofs.CacheRuns
import Concordance.Proofs.WellFormedIndexes

/-!
# A bad cache is repaired

The cache answers exactly when its file can be trusted. Everything else, a file that is missing or cannot
be read included, ends in the snapshot that is built anew, and no error of the cache becomes one of the
call. What was built anew is kept where the next call looks for it, so while the fingerprint of the
corpus stays the same, the next call is answered from the cache (`loadOrBuild_repairs`).

One kind of file breaks a call nevertheless: one that announces a text for which there is no room ends the
call without an answer (`loadOrBuild_poisoned`). The directory of a corpus comes first in its file, so eight
bytes are enough for that.
-/

namespace Concordance

open Text

/-- A stored snapshot that can be trusted is given back. -/
theorem StoredSnapshot.Trusted.restore {stored : StoredSnapshot} {config : Config Float}
    {now : Option UInt64} (h : stored.Trusted config now) :
    ∃ store : Store, store.documents = Store.sort stored.documents ∧
      stored.restore config now = .ok ⟨store, stored.index.map Float.ofBits, config, stored.builtAt,
        stored.fingerprint, 0⟩ := by
  obtain ⟨store, -, hstore⟩ := Store.ofDocuments_ok "" h.nonempty h.distinct
  exact ⟨store, hstore, restore_eq_ok_iff.2 ⟨h, hstore, rfl⟩⟩

/-- Eight bytes in front are enough: they announce the directory of the corpus. -/
theorem StoredSnapshot.read_codec_eq_exhausted {room length : Nat} {behind : List UInt8}
    (hlength : length < 2 ^ 64)
    (hbehind : behind.length < length) (hroom : room < length) :
    codec.read room (littleEndian 8 length ++ behind) = .error (.exhausted length) := by
  have hread : Codec.text.read room (littleEndian 8 length ++ behind) = .error (.exhausted length) :=
    Codec.read_text_eq_exhausted_iff.2 ⟨behind, rfl, hlength, hbehind, hroom⟩
  exact Codec.read_map_eq_error_iff.2 (Codec.read_pair_eq_error hread)

namespace Cache

variable [CharacterTable] {room : Nat} {tree : FileTree} {directory root : String} {view : View}
  {config : Config Float} {now : UInt64} {snapshot : Snapshot Float}

/-! ### What ends a call -/

/-- What the frame of the cache file of a corpus holds. -/
def payload? (tree : FileTree) (directory root : String) : Option (List UInt8) :=
  (tree.file? (path tree directory root)).bind fun file => (CacheFile.payload file.content).toOption

/-- The reading of a cache file runs out of room where that of the stored snapshot in it does. -/
theorem loadStored_eq_exhausted_iff {e : Exhausted} :
    loadStored room tree directory root = .error e ↔
      ∃ bytes, payload? tree directory root = some bytes ∧
        StoredSnapshot.codec.read room bytes = .error (.exhausted e.length) := by
  obtain ⟨n⟩ := e
  rw [loadStored, payload?, FileTree.file?, FileTree.find?, readFile]
  cases tree.find (path tree directory root) with
  | error fault => cases fault <;> simp [Except.toOption]
  | ok node =>
    cases node with
    | directory entries => simp [Except.toOption, FileNode.file?]
    | file file =>
      simp only [Except.toOption, Option.bind_some, FileNode.file?, CacheFile.unpack]
      -- a fault of the frame comes before the decoder, so only a payload can ask for room
      cases CacheFile.payload file.content with
      | error fault => simp
      | ok bytes =>
        simp only [Option.some.injEq, exists_eq_left']
        cases StoredSnapshot.codec.read room bytes with
        | ok read => simp
        | error fault =>
          cases fault with
          | invalid => simp
          | exhausted length => simp

/-- A call runs out of room where the decoder does, if it comes that far. -/
theorem loadOrBuild_eq_exhausted_iff_payload {e : Exhausted} :
    loadOrBuild room tree directory root view config true now = .error e ↔
      (∃ fingerprint, view.fingerprint = .ok fingerprint) ∧
        ∃ bytes, payload? tree directory root = some bytes ∧
          StoredSnapshot.codec.read room bytes = .error (.exhausted e.length) := by
  rw [loadOrBuild_eq_exhausted_iff, loadStored_eq_exhausted_iff]
  exact and_iff_right rfl

/-! ### What the cache answers -/

/-- The cache file of a corpus holds `stored`, and that can be trusted for what the corpus gives. -/
def Usable (room : Nat) (tree : FileTree) (directory root : String) (view : View) (config : Config Float)
    (stored : StoredSnapshot) : Prop :=
  loadStored room tree directory root = .ok (.ok stored) ∧
    ∃ fingerprint, view.fingerprint = .ok fingerprint ∧ stored.Trusted config fingerprint

/-- The cache gives a snapshot if a stored one can be read and restored. -/
theorem load_eq_ok_iff {fingerprint : Option UInt64} :
    load room tree directory root config fingerprint = .ok (.ok snapshot) ↔
      ∃ stored, loadStored room tree directory root = .ok (.ok stored) ∧
        stored.restore config fingerprint = .ok snapshot := by
  rw [load, map_eq_ok]
  constructor
  · rintro ⟨result, hstored, h⟩
    obtain ⟨stored, rfl, hrestore⟩ := bind_eq_ok.1 h
    exact ⟨stored, hstored, hrestore⟩
  · rintro ⟨stored, hstored, hrestore⟩
    exact ⟨_, hstored, hrestore⟩

/-- A usable file is the answer. -/
theorem loadOrBuild_of_usable (now : UInt64) {stored : StoredSnapshot}
    (h : Usable room tree directory root view config stored) :
    ∃ store : Store, store.documents = Store.sort stored.documents ∧
      loadOrBuild room tree directory root view config true now =
        .ok (.ok ⟨⟨store, stored.index.map Float.ofBits, config, stored.builtAt, stored.fingerprint, 0⟩,
          true, tree⟩) := by
  obtain ⟨hstored, fingerprint, hfingerprint, htrusted⟩ := h
  obtain ⟨store, hstore, hrestore⟩ := htrusted.restore
  refine ⟨store, hstore, ?_⟩
  rw [loadOrBuild, if_pos rfl, hfingerprint]
  exact map_eq_ok.2 ⟨_, load_eq_ok_iff.2 ⟨stored, hstored, hrestore⟩, rfl⟩

theorem rebuild_eq_map (useCache : Bool) :
    rebuild tree directory root view config useCache now =
      (view.snapshot config now).map fun snapshot =>
        ⟨snapshot, false, if useCache then (save tree directory root snapshot now).tree else tree⟩ := by
  rw [rebuild]
  cases view.snapshot config now <;> rfl

/-- Without a usable file the snapshot is built anew and kept, and only the corpus can be at fault, unless
the call runs out of room. -/
theorem loadOrBuild_of_unusable
    (hends : ∀ e, loadOrBuild room tree directory root view config true now ≠ .error e)
    (h : ¬∃ stored, Usable room tree directory root view config stored) :
    loadOrBuild room tree directory root view config true now =
      .ok ((view.snapshot config now).map fun snapshot =>
        ⟨snapshot, false, (save tree directory root snapshot now).tree⟩) := by
  have hrebuild : rebuild tree directory root view config true now =
      (view.snapshot config now).map fun snapshot =>
        ⟨snapshot, false, (save tree directory root snapshot now).tree⟩ := rebuild_eq_map true
  cases hanswer : loadOrBuild room tree directory root view config true now with
  | error e => exact absurd hanswer (hends e)
  | ok result =>
    rw [loadOrBuild, if_pos rfl] at hanswer
    cases hfingerprint : view.fingerprint with
    | error e =>
      rw [hfingerprint] at hanswer
      rw [← Except.ok.inj hanswer, View.snapshot, hfingerprint]
      rfl
    | ok fingerprint =>
      rw [hfingerprint] at hanswer
      obtain ⟨loaded, hload, hresult⟩ := map_eq_ok.1 hanswer
      cases loaded with
      | error e => exact congrArg Except.ok (hresult.symm.trans hrebuild)
      -- a snapshot that loaded was stored with this fingerprint, which makes its file usable
      | ok snapshot =>
        obtain ⟨stored, hstored, hrestore⟩ := load_eq_ok_iff.1 hload
        exact absurd ⟨stored, hstored, fingerprint, hfingerprint,
          (StoredSnapshot.restore_eq_ok_iff.1 hrestore).1⟩ h

/-- The cache answers exactly when its file is usable. -/
theorem fromCache_iff :
    (∃ loaded, loadOrBuild room tree directory root view config true now = .ok (.ok loaded) ∧
      loaded.fromCache = true) ↔ ∃ stored, Usable room tree directory root view config stored := by
  constructor
  · rintro ⟨loaded, hloaded, hcache⟩
    by_contra hunusable
    rw [loadOrBuild_of_unusable (by simp [hloaded]) hunusable] at hloaded
    obtain ⟨snapshot, -, rfl⟩ := map_eq_ok.1 (Except.ok.inj hloaded)
    cases hcache
  · rintro ⟨stored, husable⟩
    obtain ⟨store, -, hloaded⟩ := loadOrBuild_of_usable now husable
    exact ⟨_, hloaded, rfl⟩

/-! ### What is kept -/

/-- A snapshot that was kept is in the file where it was kept. -/
theorem save_eq_ok {path : String} (h : (save tree directory root snapshot now).result = .ok path) :
    path = Cache.path (tree.makeDirectory directory) directory root ∧
      (tree.makeDirectory directory).write path
          ⟨CacheFile.pack StoredSnapshot.codec
            (.ofSnapshot (canonicalRoot (tree.makeDirectory directory) root) snapshot),
            now.toNat * 1000000000⟩ =
        .ok (save tree directory root snapshot now).tree := by
  unfold save at h ⊢
  simp only at h ⊢
  split at h
  · simp at h
  · simp at h
  · next after _ hwrite =>
    obtain rfl := Except.ok.inj h
    exact ⟨rfl, hwrite⟩

/-- A corpus that leads somewhere leads there when something was kept. -/
theorem canonicalRoot_save {path : String}
    (h : (save tree directory root snapshot now).result = .ok path)
    (hroot : (tree.canonical? root).isSome) :
    canonicalRoot (save tree directory root snapshot now).tree root =
      canonicalRoot (tree.makeDirectory directory) root := by
  obtain ⟨-, hwrite⟩ := save_eq_ok h
  obtain ⟨names, hnames⟩ := Option.isSome_iff_exists.1 hroot
  have hmade := FileTree.locate_of_retains (tree.grows_makeDirectory directory).retains
    (tree.workingDirectory_makeDirectory directory) (toOption_eq_some.1 hnames)
  refine canonicalRoot_of_retains (FileTree.retains_write hwrite) (FileTree.follow?_of_write hwrite).1 ?_
  rw [FileTree.canonical?, hmade]
  rfl

/-- What was kept is what the next call reads. -/
theorem loadStored_save {path : String}
    (h : (save tree directory root snapshot now).result = .ok path)
    (hlength : ∀ file ∈ (save tree directory root snapshot now).tree.file? path,
      file.content.length < 2 ^ 64)
    (hpath : Cache.path (save tree directory root snapshot now).tree directory root = path) (room : Nat) :
    loadStored room (save tree directory root snapshot now).tree directory root =
      .ok (.ok (.ofSnapshot (canonicalRoot (tree.makeDirectory directory) root) snapshot)) := by
  have hfind := FileTree.find_of_write (save_eq_ok h).2
  have hshort := hlength _ (by
    rw [FileTree.file?, FileTree.find?, hfind]
    rfl)
  rw [loadStored, hpath, readFile, hfind]
  exact CacheFile.unpack_pack StoredSnapshot.lawful_codec room path
    (Nat.lt_of_le_of_lt (CacheFile.length_write_le _ _) hshort)

/-- What is kept of a snapshot that was built can be trusted while the fingerprint stays the same. -/
theorem trusted_ofSnapshot {f : UInt64} (h : view.snapshot config now = .ok snapshot)
    (hfingerprint : view.fingerprint = .ok (some f)) (hfits : snapshot.store.Fits config.tokenizer)
    (root : String) {later : Config Float} (hlater : later.tokenizer = config.tokenizer) :
    (StoredSnapshot.ofSnapshot root snapshot).Trusted later (some f) := by
  rw [View.snapshot, hfingerprint, ok_bind] at h
  obtain ⟨store, hstore, h⟩ := bind_eq_ok.1 h
  cases h
  rw [View.store] at hstore
  obtain ⟨documents, -, hstore⟩ := bind_eq_ok.1 hstore
  obtain ⟨hne, hdistinct, hsorted⟩ := Store.ofDocuments_eq_ok_iff.1 hstore
  have hperm : store.documents.Perm documents := hsorted ▸ Store.sort_perm documents
  refine ⟨rfl, hlater.symm, ⟨f, rfl, rfl⟩, ?_, ?_, ?_, ?_⟩
  · exact fun hnil => hne (List.nil_perm.1 (hnil ▸ hperm))
  · exact (hperm.map Document.id).nodup_iff.2 hdistinct
  · show ((Index.build store config.tokenizer : Index Float).map Float.toBits).fault? = none
    rw [Index.fault?_map, Index.fault?_eq_none_iff]
    exact Index.wellFormed_build hfits
  · exact hfits.documentCount_build (α := Float)

/-! ### The next call -/

/-- After a snapshot was built and kept, the next call is answered from the cache with the same documents
and the same index, if it looks for the cache file where that was written. -/
theorem loadOrBuild_save {path : String} {f : UInt64} (h : view.snapshot config now = .ok snapshot)
    (hfingerprint : view.fingerprint = .ok (some f)) (hfits : snapshot.store.Fits config.tokenizer)
    (hsave : (save tree directory root snapshot now).result = .ok path)
    (hlength : ∀ file ∈ (save tree directory root snapshot now).tree.file? path,
      file.content.length < 2 ^ 64)
    (hpath : Cache.path (save tree directory root snapshot now).tree directory root = path)
    {later : View} {laterConfig : Config Float} {laterNow : UInt64}
    (hsame : later.fingerprint = .ok (some f)) (htokenizer : laterConfig.tokenizer = config.tokenizer)
    (room : Nat) :
    ∃ again, loadOrBuild room (save tree directory root snapshot now).tree directory root later laterConfig
        true laterNow = .ok (.ok ⟨again, true, (save tree directory root snapshot now).tree⟩) ∧
      again.store = snapshot.store ∧ again.index = snapshot.index := by
  have htrusted := trusted_ofSnapshot h hfingerprint hfits
    (canonicalRoot (tree.makeDirectory directory) root) htokenizer
  obtain ⟨store, hstore, hloaded⟩ := loadOrBuild_of_usable laterNow
    ⟨loadStored_save hsave hlength hpath room, some f, hsame, htrusted⟩
  exact ⟨_, hloaded, Store.eq_of_documents (hstore.trans snapshot.store.sort_documents),
    Index.map_ofBits_map_toBits snapshot.index⟩

/-- Whatever the cache file is, and however much room there is:

- a call that uses the cache ends without an answer exactly if the corpus has a fingerprint and the reading of
  what the cache file holds runs out of room. It does so only where a text is announced that is not there and
  that is longer than all room, and always where that is the first thing in the file;
- in every other case it fails only if the fingerprint of the corpus or the new snapshot does;
- it is answered from the cache exactly when the cache file is usable, and then with what is stored there
  under the settings of the call;
- in every other case it gives the new snapshot and tries to keep it;
- where that could be done, each later call is answered from the cache with the same documents and the
  same index, while the corpus has the same fingerprint, which is one that can be compared, and the
  tokenizer is the same. The place of the cache file is told by the path of the corpus, so a path that
  leads to nothing must not come to lead elsewhere by the writing;
- a call that does not use the cache gives the new snapshot, whatever the cache holds, and leaves all
  files as they are.
-/
theorem loadOrBuild_repairs (room : Nat) (tree : FileTree) (directory root : String) (view : View)
    (config : Config Float) (now : UInt64) :
    ((∀ e, loadOrBuild room tree directory root view config true now = .error e ↔
        (∃ fingerprint, view.fingerprint = .ok fingerprint) ∧
          ∃ bytes, payload? tree directory root = some bytes ∧
            StoredSnapshot.codec.read room bytes = .error (.exhausted e.length)) ∧
      (∀ bytes length, StoredSnapshot.codec.read room bytes = .error (.exhausted length) →
        Codec.Announces room bytes length) ∧
      ∀ length behind, length < 2 ^ 64 → behind.length < length → room < length →
        StoredSnapshot.codec.read room (littleEndian 8 length ++ behind) = .error (.exhausted length)) ∧
    (∀ e, loadOrBuild room tree directory root view config true now = .ok (.error e) →
      view.fingerprint = .error e ∨ view.snapshot config now = .error e) ∧
    ((∃ loaded, loadOrBuild room tree directory root view config true now = .ok (.ok loaded) ∧
      loaded.fromCache = true) ↔ ∃ stored, Usable room tree directory root view config stored) ∧
    (∀ stored, Usable room tree directory root view config stored →
      ∃ store : Store, store.documents = Store.sort stored.documents ∧
        loadOrBuild room tree directory root view config true now =
          .ok (.ok ⟨⟨store, stored.index.map Float.ofBits, config, stored.builtAt, stored.fingerprint, 0⟩,
            true, tree⟩)) ∧
    ((∀ e, loadOrBuild room tree directory root view config true now ≠ .error e) →
      (¬∃ stored, Usable room tree directory root view config stored) →
      loadOrBuild room tree directory root view config true now =
        .ok ((view.snapshot config now).map fun snapshot =>
          ⟨snapshot, false, (save tree directory root snapshot now).tree⟩)) ∧
    (∀ snapshot after path f,
      loadOrBuild room tree directory root view config true now = .ok (.ok ⟨snapshot, false, after⟩) →
      view.fingerprint = .ok (some f) → snapshot.store.Fits config.tokenizer →
      (save tree directory root snapshot now).result = .ok path →
      (∀ file ∈ after.file? path, file.content.length < 2 ^ 64) →
      (tree.canonical? root).isSome ∨ Cache.path after directory root = path →
      ∀ (later : View) (laterConfig : Config Float) (laterNow : UInt64) (laterRoom : Nat),
        later.fingerprint = .ok (some f) → laterConfig.tokenizer = config.tokenizer →
        ∃ again, loadOrBuild laterRoom after directory root later laterConfig true laterNow =
            .ok (.ok ⟨again, true, after⟩) ∧
          again.store = snapshot.store ∧ again.index = snapshot.index) ∧
    loadOrBuild room tree directory root view config false now =
      .ok ((view.snapshot config now).map fun snapshot => ⟨snapshot, false, tree⟩) := by
  refine ⟨⟨fun _ => loadOrBuild_eq_exhausted_iff_payload,
      fun _ _ => (StoredSnapshot.lawful_codec.sequential room).announces,
        fun _ _ => StoredSnapshot.read_codec_eq_exhausted⟩,
    fun e h => .inr (loadOrBuild_eq_error h), fromCache_iff, fun _ => loadOrBuild_of_usable now,
    loadOrBuild_of_unusable, ?_, congrArg Except.ok (rebuild_eq_map false)⟩
  intro snapshot after path f hloaded hfingerprint hfits hsave hlength hroot later laterConfig laterNow
    laterRoom hsame htokenizer
  -- the call was not answered from the cache, so what it gives was built and is what was kept
  have hunusable : ¬∃ stored, Usable room tree directory root view config stored := by
    rintro ⟨stored, husable⟩
    obtain ⟨store, -, hcache⟩ := loadOrBuild_of_usable now husable
    rw [hcache] at hloaded
    simp at hloaded
  rw [loadOrBuild_of_unusable (by simp [hloaded]) hunusable] at hloaded
  obtain ⟨built, hbuilt, heq⟩ := map_eq_ok.1 (Except.ok.inj hloaded)
  obtain ⟨rfl, -, rfl⟩ := Loaded.mk.inj heq
  refine loadOrBuild_save hbuilt hfingerprint hfits hsave hlength ?_ hsame htokenizer laterRoom
  rcases hroot with hroot | hpath
  · rw [(save_eq_ok hsave).1, Cache.path, Cache.path, canonicalRoot_save hsave hroot]
  · exact hpath

end Cache

end Concordance

/-! ### A cache file that was damaged, and one that ends a call -/

namespace Concordance.Cache

open Text

/-- The sample with a cache file whose frame holds `bytes`. -/
def treeWith (bytes : List UInt8) : FileTree :=
  sampleTree.plant (path sampleTree "/cache" "/docs") (.file ⟨CacheFile.mark ++ Lz4.writeFrame bytes, 0⟩)

/-- A cache file of which only the mark and an empty frame are left. -/
def damagedTree : FileTree := treeWith []

def firstSaved (snapshot : Snapshot Float) : Saved :=
  save damagedTree "/cache" "/docs" snapshot 0

def damagedView : View :=
  Moment.view "/docs" ⟨sampleCall, damagedTree⟩

set_option maxRecDepth 100000 in
/-- What can be seen by running the first call: there is a cache file, which cannot be read, and the snapshot
is small and can be kept. -/
theorem repairs_sample :
    (payload? damagedTree "/cache" "/docs" = some [] ∧
      ((loadStored 0 damagedTree "/cache" "/docs").map Except.toOption).toOption.map Option.isNone = some true) ∧
      damagedView.fingerprint.toOption.join.isSome = true ∧
      (∃ snapshot ∈ (damagedView.snapshot .standard 0).toOption,
        (snapshot.store.size < 2 ^ 32 ∧
          ∀ d ∈ snapshot.store.documents, Index.Fits Config.standard.tokenizer d) ∧
        ∃ path ∈ (firstSaved snapshot).result.toOption,
          ∀ file ∈ (firstSaved snapshot).tree.file? path, file.content.length < 2 ^ 64) ∧
      (damagedTree.canonical? "/docs").isSome := by
  decide +kernel

/-- The first call finds a damaged file, builds its snapshot and puts it in the place of that file, and each
later call in the same settings for articles with the same fingerprint is answered from the cache. -/
theorem loadOrBuild_repairs_sample :
    payload? damagedTree "/cache" "/docs" = some [] ∧
      ∃ snapshot after path f,
        loadOrBuild 0 damagedTree "/cache" "/docs" damagedView .standard true 0 =
          .ok (.ok ⟨snapshot, false, after⟩) ∧
        damagedView.fingerprint = .ok (some f) ∧
        snapshot.store.Fits Config.standard.tokenizer ∧
        (firstSaved snapshot).result = .ok path ∧
        (∀ file ∈ after.file? path, file.content.length < 2 ^ 64) ∧
        (damagedTree.canonical? "/docs").isSome ∧
        ∀ laterNow, ∃ again,
          loadOrBuild 0 after "/cache" "/docs" damagedView .standard true laterNow =
            .ok (.ok ⟨again, true, after⟩) ∧
          again.store = snapshot.store ∧ again.index = snapshot.index := by
  obtain ⟨⟨hpayload, hdamaged⟩, hfingerprint,
    ⟨snapshot, hsnapshot, ⟨hsize, hcounts⟩, path, hsave, hlength⟩, hroot⟩ := repairs_sample
  obtain ⟨f, hf⟩ := Option.isSome_iff_exists.1 hfingerprint
  have hfingerprint := toOption_eq_some.1 (Option.join_eq_some_iff.1 hf)
  have hsave := toOption_eq_some.1 hsave
  obtain ⟨⟨hexhausted, -, -⟩, -, -, -, hbuild, hheal, -⟩ :=
    loadOrBuild_repairs 0 damagedTree "/cache" "/docs" damagedView .standard 0
  -- an empty payload ends before a length is announced
  have hends : ∀ e, loadOrBuild 0 damagedTree "/cache" "/docs" damagedView .standard true 0 ≠ .error e := by
    intro e h
    obtain ⟨-, bytes, hbytes, hread⟩ := (hexhausted e).1 h
    rw [hpayload] at hbytes
    cases hbytes
    cases hread
  have hunusable : ¬∃ stored, Usable 0 damagedTree "/cache" "/docs" damagedView .standard stored := by
    rintro ⟨stored, hstored, -⟩
    rw [hstored] at hdamaged
    cases hdamaged
  have hloaded := (hbuild hends hunusable).trans
    (congrArg Except.ok (map_eq_ok.2 ⟨snapshot, toOption_eq_some.1 hsnapshot, rfl⟩))
  exact ⟨hpayload, snapshot, _, path, f, hloaded, hfingerprint, ⟨hsize, hcounts⟩, hsave, hlength, hroot,
    fun laterNow => hheal snapshot _ path f hloaded hfingerprint ⟨hsize, hcounts⟩ hsave hlength
      (.inl hroot) _ .standard laterNow 0 hfingerprint rfl⟩

/-- A cache file whose frame holds eight bytes `0xFF` and nothing else: the length of a text that is not
there. -/
def poisonedTree : FileTree := treeWith (List.replicate 8 0xFF)

def poisonedView : View :=
  Moment.view "/docs" ⟨sampleCall, poisonedTree⟩

set_option maxRecDepth 100000 in
/-- A call that uses the cache ends without an answer, though the corpus has its fingerprint and its snapshot
can be built: as much as can be addressed is too little for what the cache file announces. -/
theorem loadOrBuild_poisoned :
    poisonedView.fingerprint.toOption.isSome = true ∧
      (poisonedView.snapshot .standard 0).toOption.isSome = true ∧
      payload? poisonedTree "/cache" "/docs" = some (List.replicate 8 0xFF) ∧
      loadOrBuild Codec.addressable poisonedTree "/cache" "/docs" poisonedView .standard true 0 =
        .error ⟨2 ^ 64 - 1⟩ := by
  have hcorpus : poisonedView.fingerprint.toOption.isSome = true ∧
      (poisonedView.snapshot .standard 0).toOption.isSome = true ∧
      payload? poisonedTree "/cache" "/docs" = some (List.replicate 8 0xFF) := by
    decide +kernel
  obtain ⟨hfingerprint, hsnapshot, hpayload⟩ := hcorpus
  obtain ⟨fingerprint, hf⟩ := Option.isSome_iff_exists.1 hfingerprint
  refine ⟨hfingerprint, hsnapshot, hpayload, loadOrBuild_eq_exhausted_iff_payload.2
    ⟨⟨fingerprint, toOption_eq_some.1 hf⟩, _, hpayload, ?_⟩⟩
  have hbytes : List.replicate 8 (0xFF : UInt8) = littleEndian 8 (2 ^ 64 - 1) ++ [] := by decide
  rw [hbytes]
  exact StoredSnapshot.read_codec_eq_exhausted (by decide) (by decide) (by decide)

end Concordance.Cache
