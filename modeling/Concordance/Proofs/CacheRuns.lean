import Concordance.Cache
import Concordance.Proofs.FileTrees
import Concordance.Proofs.StoredSnapshots
import Concordance.Unicode.Database

/-!
# The cache changes no answer

A snapshot from the cache is the one that would have been built. Whatever calls and edits came before,
the cache file of a corpus was kept by one of the calls (`kept_of_run`), so it can be read whatever room there
is, and it is used only for articles with the fingerprint and settings with the tokenizer of that call. So
every call of a run answers as if there were no cache (`answers_eq_fresh`).
-/

namespace Concordance.Cache

open Text

variable [CharacterTable] {room : Nat} {tree : FileTree} {directory root : String}

/-! ### The place of the cache file -/

/-- The names that lead to the cache file of a corpus, whatever files there are. -/
def slot (working : List String) (directory root : String) : List String :=
  FileTree.landing working (Path.join directory (Path.cacheName
    (Path.clean (FileTree.writeNames (FileTree.landing working root)))))

def file? (directory root : String) (tree : FileTree) : Option File :=
  (tree.root.follow? (slot tree.workingDirectory directory root)).bind FileNode.file?

/-- The cache file of a corpus is looked for at one place of the tree. -/
theorem file?_eq_some_iff {file : File} :
    file? directory root tree = some file ↔
      tree.root.follow? (slot tree.workingDirectory directory root) = some (.file file) := by
  rw [file?, Option.bind_eq_some_iff]
  constructor
  · rintro ⟨node, hnode, hfile⟩
    cases node with
    | file f =>
      cases hfile
      exact hnode
    | directory entries => cases hfile
  · intro h
    exact ⟨_, h, rfl⟩

omit [CharacterTable] in
theorem canonicalRoot_of_locate
    (h : tree.locate root = .ok (FileTree.landing tree.workingDirectory root)) :
    canonicalRoot tree root =
      Path.clean (FileTree.writeNames (FileTree.landing tree.workingDirectory root)) := by
  rw [canonicalRoot, FileTree.canonical?, h]
  rfl

omit [CharacterTable] in
/-- A corpus that leads somewhere leads there while nothing is taken away. -/
theorem canonicalRoot_of_retains {after : FileTree} (hretains : tree.root.Retains after.root)
    (hworking : after.workingDirectory = tree.workingDirectory) (hroot : (tree.canonical? root).isSome) :
    canonicalRoot after root = canonicalRoot tree root := by
  obtain ⟨names, hnames⟩ := Option.isSome_iff_exists.1 hroot
  have hlocate := toOption_eq_some.1 hnames
  rw [canonicalRoot, canonicalRoot, FileTree.canonical?, FileTree.canonical?, hlocate,
    FileTree.locate_of_retains hretains hworking hlocate]

/-- While the corpus is there, the path of its cache file leads to its place. -/
theorem landing_path (h : tree.locate root = .ok (FileTree.landing tree.workingDirectory root)) :
    FileTree.landing tree.workingDirectory (path tree directory root) =
      slot tree.workingDirectory directory root := by
  rw [path, canonicalRoot_of_locate h, slot]

/-- What is kept of a corpus is read from the file in that place, if there is one. -/
theorem loadStored_cases (room : Nat) (hroot : tree.isDirectory root = true) :
    (∃ e, loadStored room tree directory root = .ok (.error e)) ∨
      ∃ file, file? directory root tree = some file ∧
        loadStored room tree directory root =
          CacheFile.unpack room StoredSnapshot.codec (path tree directory root) file.content := by
  unfold loadStored readFile
  split
  · exact .inl ⟨_, rfl⟩
  · exact .inl ⟨_, rfl⟩
  · exact .inl ⟨_, rfl⟩
  · next file hfind =>
    have hfollow := FileTree.follow?_of_find hfind
    rw [landing_path (FileTree.locate_of_isDirectory hroot)] at hfollow
    exact .inr ⟨file, file?_eq_some_iff.2 hfollow, rfl⟩

/-- Keeping a snapshot does not move the directory that paths are relative to. -/
theorem workingDirectory_save (tree : FileTree) (directory root : String) (snapshot : Snapshot Float)
    (now : UInt64) :
    (save tree directory root snapshot now).tree.workingDirectory = tree.workingDirectory := by
  unfold save
  simp only
  split
  · exact tree.workingDirectory_makeDirectory directory
  · exact tree.workingDirectory_makeDirectory directory
  · next hwrite =>
    rw [(FileTree.follow?_of_write hwrite).1]
    exact tree.workingDirectory_makeDirectory directory

omit [CharacterTable] in
/-- The corpus is still found after the directory of the cache was made. -/
theorem locate_makeDirectory (directory : String) (hroot : tree.isDirectory root = true) :
    (tree.makeDirectory directory).locate root =
      .ok (FileTree.landing (tree.makeDirectory directory).workingDirectory root) := by
  have hworking := tree.workingDirectory_makeDirectory directory
  rw [hworking]
  exact FileTree.locate_of_retains (tree.grows_makeDirectory directory).retains hworking
    (FileTree.locate_of_isDirectory hroot)

/-- After a snapshot was to be kept, the cache file holds it or is the one that was there. -/
theorem file?_save (hroot : tree.isDirectory root = true) {snapshot : Snapshot Float} {now : UInt64}
    {file : File} (h : file? directory root (save tree directory root snapshot now).tree = some file) :
    file? directory root tree = some file ∨
      file.content = CacheFile.pack StoredSnapshot.codec
        (.ofSnapshot (canonicalRoot tree root) snapshot) := by
  have hgrows := tree.grows_makeDirectory directory
  have hworking := tree.workingDirectory_makeDirectory directory
  have hmade := locate_makeDirectory directory hroot
  have hcanonical : canonicalRoot (tree.makeDirectory directory) root = canonicalRoot tree root := by
    rw [canonicalRoot_of_locate hmade, canonicalRoot_of_locate (FileTree.locate_of_isDirectory hroot),
      hworking]
  rw [file?_eq_some_iff, workingDirectory_save] at h
  rw [file?_eq_some_iff]
  unfold save at h
  simp only at h
  split at h
  · exact .inl ((hgrows _).file file h)
  · exact .inl ((hgrows _).file file h)
  · next after _ hwrite =>
    -- Only the file that was written lies at the place of the cache file.
    obtain ⟨_, hfollow⟩ := FileTree.follow?_of_write hwrite
    rw [landing_path hmade, hworking, h] at hfollow
    cases hfollow
    exact .inr (by rw [hcanonical])

/-! ### Calls -/

/-- What a call asks for, and when. -/
structure Call where
  extensions : List String
  options : Ignore.WalkOptions
  config : Config Float
  useCache : Bool
  now : UInt64

/-- A call and the files as they are when it is made. -/
structure Moment where
  call : Call
  tree : FileTree

namespace Moment

def view (root : String) (moment : Moment) : View :=
  DirectoryCorpus.view ⟨root, moment.call.extensions, moment.call.options⟩ moment.tree

def fresh (root : String) (moment : Moment) : Except LoadError (Snapshot Float) :=
  (moment.view root).snapshot moment.call.config moment.call.now

def answer (room : Nat) (directory root : String) (moment : Moment) :
    Except Exhausted (Except LoadError Loaded) :=
  loadOrBuild room moment.tree directory root (moment.view root) moment.call.config moment.call.useCache
    moment.call.now

def after (room : Nat) (directory root : String) (moment : Moment) : FileTree :=
  match moment.answer room directory root with
  | .ok (.ok loaded) => loaded.tree
  | _ => moment.tree

/-- The cache file has a length of 64 bits, if there is one. -/
def Fits (directory root : String) (moment : Moment) : Prop :=
  ∀ file ∈ file? directory root moment.tree, file.content.length < 2 ^ 64

end Moment

/-- Calls on one corpus and edits of the files, beginning without a cache file. An edit leaves the cache
file as it is or removes it. The moments of the calls come with the last one first. -/
inductive Run (room : Nat) (directory root : String) : List Moment → FileTree → Prop
  | start {tree : FileTree} : file? directory root tree = none → Run room directory root [] tree
  | edit {met : List Moment} {tree after : FileTree} :
    Run room directory root met tree → after.workingDirectory = tree.workingDirectory →
      (∀ file ∈ file? directory root after, file? directory root tree = some file) →
      Run room directory root met after
  | call {met : List Moment} {tree : FileTree} (call : Call) :
    Run room directory root met tree →
      Run room directory root (⟨call, tree⟩ :: met) (Moment.after room directory root ⟨call, tree⟩)

/-- Where two moments have one fingerprint, the documents are the same. -/
def Faithful (root : String) (met : List Moment) : Prop :=
  ∀ a ∈ met, ∀ b ∈ met, ∀ f, (a.view root).fingerprint = .ok (some f) →
    (b.view root).fingerprint = .ok (some f) → (a.view root).documents = (b.view root).documents

/-! ### What is kept -/

/-- The cache file was kept by one of the calls. -/
def Kept (directory root : String) (met : List Moment) (tree : FileTree) : Prop :=
  ∀ file ∈ file? directory root tree,
    ∃ moment ∈ met, ∃ snapshot, moment.fresh root = .ok snapshot ∧
      file.content = CacheFile.pack StoredSnapshot.codec
        (.ofSnapshot (canonicalRoot moment.tree root) snapshot)

/-! ### One call -/

section

variable {view : View} {config : Config Float} {useCache : Bool} {now : UInt64} {loaded : Loaded}

/-- What is built anew is the snapshot of what the corpus gives. -/
theorem rebuild_eq_ok (h : rebuild tree directory root view config useCache now = .ok loaded) :
    view.snapshot config now = .ok loaded.snapshot ∧
      (loaded.tree = tree ∨ loaded.tree = (save tree directory root loaded.snapshot now).tree) := by
  rw [rebuild] at h
  obtain ⟨snapshot, hsnapshot, h⟩ := bind_eq_ok.1 h
  cases h
  refine ⟨hsnapshot, ?_⟩
  cases useCache with
  | true => exact .inr rfl
  | false => exact .inl rfl

/-- Building anew fails for want of a snapshot. -/
theorem rebuild_eq_error {e : LoadError}
    (h : rebuild tree directory root view config useCache now = .error e) :
    view.snapshot config now = .error e := by
  rw [rebuild] at h
  rcases bind_eq_error.1 h with hsnapshot | ⟨_, _, h⟩
  · exact hsnapshot
  · cases h

/-- A call that gives a snapshot has loaded it, or built it anew. -/
theorem loadOrBuild_eq_ok
    (h : loadOrBuild room tree directory root view config useCache now = .ok (.ok loaded)) :
    (∃ fingerprint, view.fingerprint = .ok fingerprint ∧
      load room tree directory root config fingerprint = .ok (.ok loaded.snapshot) ∧ loaded.tree = tree) ∨
    view.snapshot config now = .ok loaded.snapshot ∧
      (loaded.tree = tree ∨ loaded.tree = (save tree directory root loaded.snapshot now).tree) := by
  cases useCache with
  | false => exact .inr (rebuild_eq_ok (Except.ok.inj h))
  | true =>
    rw [loadOrBuild, if_pos rfl] at h
    split at h
    · cases h
    next fingerprint hfingerprint =>
    obtain ⟨result, hload, h⟩ := map_eq_ok.1 h
    split at h
    · next snapshot =>
      cases h
      exact .inl ⟨fingerprint, hfingerprint, hload, rfl⟩
    · exact .inr (rebuild_eq_ok h)

/-- A call that fails does so for want of a snapshot. -/
theorem loadOrBuild_eq_error {e : LoadError}
    (h : loadOrBuild room tree directory root view config useCache now = .ok (.error e)) :
    view.snapshot config now = .error e := by
  cases useCache with
  | false => exact rebuild_eq_error (Except.ok.inj h)
  | true =>
    rw [loadOrBuild, if_pos rfl] at h
    split at h
    · next hfingerprint =>
      cases h
      rw [View.snapshot, hfingerprint]
      rfl
    · obtain ⟨result, -, h⟩ := map_eq_ok.1 h
      split at h
      · cases h
      · exact rebuild_eq_error h

/-- A call runs out of room where the reading of the cache file does. -/
theorem loadOrBuild_eq_exhausted_iff {e : Exhausted} :
    loadOrBuild room tree directory root view config useCache now = .error e ↔
      useCache = true ∧ (∃ fingerprint, view.fingerprint = .ok fingerprint) ∧
        loadStored room tree directory root = .error e := by
  cases useCache with
  | false => simp [loadOrBuild]
  | true =>
    rw [loadOrBuild, if_pos rfl]
    cases view.fingerprint with
    | error e => simp
    | ok fingerprint => simp [load, map_eq_error]

end

namespace Moment

variable {moment : Moment}

/-- A corpus with a fingerprint is a directory that is there. -/
theorem isDirectory_of_fingerprint {fingerprint : Option UInt64}
    (h : (moment.view root).fingerprint = .ok fingerprint) : moment.tree.isDirectory root = true := by
  by_contra hmissing
  have harticles : DirectoryCorpus.articles ⟨root, moment.call.extensions, moment.call.options⟩
      moment.tree = .error (.notFound root) := by
    rw [DirectoryCorpus.articles, if_pos]
    simpa using hmissing
  rw [view, DirectoryCorpus.view, harticles] at h
  cases h

/-- The parts of a snapshot that is built. -/
theorem fresh_eq_ok {snapshot : Snapshot Float} (h : moment.fresh root = .ok snapshot) :
    (moment.view root).fingerprint = .ok snapshot.fingerprint ∧
      (moment.view root).store = .ok snapshot.store ∧
      snapshot = Snapshot.build snapshot.store moment.call.config moment.call.now snapshot.fingerprint := by
  rw [fresh, View.snapshot] at h
  obtain ⟨fingerprint, hfingerprint, h⟩ := bind_eq_ok.1 h
  obtain ⟨store, hstore, h⟩ := bind_eq_ok.1 h
  cases h
  exact ⟨hfingerprint, hstore, rfl⟩

/-- A call leaves the files as they are or keeps the snapshot that it built. -/
theorem after_eq (room : Nat) (directory root : String) (moment : Moment) :
    moment.after room directory root = moment.tree ∨
      ∃ snapshot, moment.fresh root = .ok snapshot ∧
        moment.after room directory root =
          (save moment.tree directory root snapshot moment.call.now).tree := by
  unfold after
  split
  · next loaded hanswer =>
    rcases loadOrBuild_eq_ok hanswer with ⟨_, _, _, htree⟩ | ⟨hfresh, htree | htree⟩
    · exact .inl htree
    · exact .inl htree
    · exact .inr ⟨loaded.snapshot, hfresh, htree⟩
  · exact .inl rfl

end Moment

/-! ### Whole runs -/

variable {met : List Moment}

/-- A call keeps nothing but its own snapshot. -/
theorem Kept.call (h : Kept directory root met tree) (call : Call) :
    Kept directory root (⟨call, tree⟩ :: met) (Moment.after room directory root ⟨call, tree⟩) := by
  have hbefore : Kept directory root (⟨call, tree⟩ :: met) tree := by
    intro file hfile
    obtain ⟨moment, hmem, hkept⟩ := h file hfile
    exact ⟨moment, List.mem_cons_of_mem _ hmem, hkept⟩
  -- a call leaves the files alone or tries to keep what it has built
  rcases Moment.after_eq room directory root ⟨call, tree⟩ with hafter | ⟨snapshot, hfresh, hafter⟩
  · rw [hafter]
    exact hbefore
  · rw [hafter]
    have hroot := Moment.isDirectory_of_fingerprint (Moment.fresh_eq_ok hfresh).1
    intro file hfile
    rcases file?_save hroot hfile with hold | hnew
    · exact hbefore file hold
    · exact ⟨⟨call, tree⟩, List.mem_cons_self, snapshot, hfresh, hnew⟩

/-- At every point of a run the cache file, if there is one, was kept by one of the calls. -/
theorem kept_of_run (run : Run room directory root met tree) : Kept directory root met tree := by
  induction run with
  | start hempty =>
    intro file hfile
    rw [hempty] at hfile
    cases hfile
  | edit _ _ hfile ih => exact fun file hafter => ih file (hfile file hafter)
  | call call _ ih => exact ih.call call

/-- A cache file that was kept is read to its end whatever room there is, and it holds what was kept. -/
theorem Kept.loadStored (hkept : Kept directory root met tree) {call : Call}
    (hfits : Moment.Fits directory root ⟨call, tree⟩) (hroot : tree.isDirectory root = true) (room : Nat) :
    ∃ result, loadStored room tree directory root = .ok result ∧
      ∀ stored, result = .ok stored → ∃ moment ∈ met, ∃ kept, moment.fresh root = .ok kept ∧
        stored = .ofSnapshot (canonicalRoot moment.tree root) kept := by
  rcases loadStored_cases room hroot with ⟨e, hstored⟩ | ⟨file, hfile, hstored⟩
  · exact ⟨.error e, hstored, fun stored h => by cases h⟩
  · obtain ⟨moment, hmem, kept, hfresh, hcontent⟩ := hkept file hfile
    have hlength := hfits file hfile
    rw [hcontent] at hlength hstored
    have hread := CacheFile.unpack_pack StoredSnapshot.lawful_codec room (path tree directory root)
      (Nat.lt_of_le_of_lt (CacheFile.length_write_le _ _) hlength)
    refine ⟨_, hstored.trans hread, fun stored h => ?_⟩
    cases h
    exact ⟨moment, hmem, kept, hfresh, rfl⟩

def timeless (snapshot : Snapshot Float) : Snapshot Float :=
  { snapshot with builtAt := 0 }

/-- A snapshot that is loaded is the one that would be built, but for the time. -/
theorem timeless_of_load (hkept : Kept directory root met tree) {call : Call}
    (hfaithful : Faithful root (⟨call, tree⟩ :: met)) (hfits : Moment.Fits directory root ⟨call, tree⟩)
    {fingerprint : Option UInt64}
    (hfingerprint : (Moment.view root ⟨call, tree⟩).fingerprint = .ok fingerprint)
    {snapshot : Snapshot Float}
    (hload : load room tree directory root call.config fingerprint = .ok (.ok snapshot)) :
    (Moment.fresh root ⟨call, tree⟩).map timeless = .ok (timeless snapshot) := by
  have hroot := Moment.isDirectory_of_fingerprint hfingerprint
  obtain ⟨result, hstored, hfrom⟩ := hkept.loadStored hfits hroot room
  rw [load, hstored] at hload
  obtain ⟨stored, rfl, hrestore⟩ := bind_eq_ok.1 (Except.ok.inj hload)
  -- what is restored was kept at an earlier moment
  obtain ⟨moment, hmem, kept, hfresh, rfl⟩ := hfrom stored rfl
  obtain ⟨hmoment, hstore, hbuilt⟩ := Moment.fresh_eq_ok hfresh
  -- it is given back only to the tokenizer and the fingerprint of that moment
  obtain ⟨htokenizer, ⟨f, hf, hnow⟩, rfl⟩ := StoredSnapshot.restore_ofSnapshot hrestore
  have hdocuments : (Moment.view root ⟨call, tree⟩).documents = (moment.view root).documents :=
    hfaithful ⟨call, tree⟩ List.mem_cons_self moment (List.mem_cons_of_mem _ hmem) f
      (hnow ▸ hfingerprint) (hf ▸ hmoment)
  have hsame : (Moment.view root ⟨call, tree⟩).store = .ok kept.store := by
    rw [← hstore, View.store, View.store, hdocuments]
    rfl
  have hnew : Moment.fresh root ⟨call, tree⟩ =
      .ok (Snapshot.build kept.store call.config call.now fingerprint) := by
    rw [Moment.fresh, View.snapshot, hfingerprint, hsame]
    rfl
  have hindex : kept.index = Index.build kept.store call.config.tokenizer := by
    rw [hbuilt, htokenizer, hbuilt]
    rfl
  rw [hnew, Except.map, hnow, ← hf, timeless, timeless, Snapshot.build, hindex]

/-- A call after a run answers as if there were no cache, but for the time. -/
theorem answer_eq_fresh (hkept : Kept directory root met tree) (call : Call)
    (hfaithful : Faithful root (⟨call, tree⟩ :: met))
    (hfits : Moment.Fits directory root ⟨call, tree⟩) :
    (Moment.answer room directory root ⟨call, tree⟩).map
        (·.map fun loaded => timeless loaded.snapshot) =
      .ok ((Moment.fresh root ⟨call, tree⟩).map timeless) := by
  cases hanswer : Moment.answer room directory root ⟨call, tree⟩ with
  | error e =>
    -- the file at the path is one that a call of the run wrote, so nothing in it is too long to read
    obtain ⟨-, ⟨fingerprint, hfingerprint⟩, hexhausted⟩ := loadOrBuild_eq_exhausted_iff.1 hanswer
    obtain ⟨result, hstored, -⟩ :=
      hkept.loadStored hfits (Moment.isDirectory_of_fingerprint hfingerprint) room
    rw [hstored] at hexhausted
    cases hexhausted
  | ok result =>
    apply congrArg Except.ok
    cases result with
    | error e =>
      have hfresh : Moment.fresh root ⟨call, tree⟩ = .error e := loadOrBuild_eq_error hanswer
      rw [hfresh]
      rfl
    | ok loaded =>
      -- what was loaded is equal to a build by faithfulness, what was built is the build itself
      rcases loadOrBuild_eq_ok hanswer with ⟨fingerprint, hfingerprint, hload, _⟩ | ⟨hfresh, _⟩
      · exact (timeless_of_load hkept hfaithful hfits hfingerprint hload).symm
      · have hfresh : Moment.fresh root ⟨call, tree⟩ = .ok loaded.snapshot := hfresh
        rw [hfresh]
        rfl

/-- Every call of a run answers as if there were no cache, but for the time when the snapshot was
built: with the same documents, index, settings and fingerprint, or with the same error. No call runs out of
room, however little there is. -/
theorem answers_eq_fresh (run : Run room directory root met tree) (hfaithful : Faithful root met)
    (hfits : ∀ moment ∈ met, moment.Fits directory root) :
    ∀ moment ∈ met,
      (moment.answer room directory root).map (·.map fun loaded => timeless loaded.snapshot) =
        .ok ((moment.fresh root).map timeless) := by
  induction run with
  | start _ => exact fun moment hmem => absurd hmem List.not_mem_nil
  | edit _ _ _ ih => exact ih hfaithful hfits
  | @call met tree call run ih =>
    have hbefore : Faithful root met := fun a ha b hb =>
      hfaithful a (List.mem_cons_of_mem _ ha) b (List.mem_cons_of_mem _ hb)
    intro moment hmem
    rcases List.mem_cons.1 hmem with rfl | hmem
    · exact answer_eq_fresh (kept_of_run run) call hfaithful (hfits _ List.mem_cons_self)
    · exact ih hbefore (fun m hm => hfits m (List.mem_cons_of_mem _ hm)) moment hmem

end Concordance.Cache

/-! ### A run that uses the cache -/

namespace Concordance.Cache

open Text

/-- A directory with one article, which is a heading. -/
def sampleTree : FileTree :=
  ⟨.directory [("docs", .directory [("a.md", .file ⟨encode "# !", 0⟩)])], []⟩

def sampleCall : Call :=
  ⟨["md"], ⟨false, false⟩, .standard, true, 0⟩

/-- A later call with another limit. -/
def laterCall : Call :=
  { sampleCall with config := { Config.standard with defaultLimit := 5 }, now := 1 }

def firstMoment : Moment := ⟨sampleCall, sampleTree⟩

/-- The second call, before which the article was changed. -/
def secondMoment : Moment :=
  ⟨laterCall, (firstMoment.after 0 "/cache" "/docs").plant "/docs/a.md" (.file ⟨encode "# ?!", 1⟩)⟩

/-- The third one, which finds the cache file of the second. -/
def thirdMoment : Moment := ⟨laterCall, secondMoment.after 0 "/cache" "/docs"⟩

/-- All three, with the last one first. -/
def sampleMoments : List Moment := [thirdMoment, secondMoment, firstMoment]

/-- Whether the snapshot that a call gives comes from the cache. -/
def Moment.isCached (moment : Moment) : Option Bool :=
  (moment.answer 0 "/cache" "/docs").toOption.bind fun result => (result.map Loaded.fromCache).toOption

set_option maxRecDepth 100000 in
/-- What can be seen by running the calls: the change leaves the cache file alone, with the article the
fingerprint changes, the cache files are short, and of the last two calls only the later one is answered
from the cache. -/
theorem checks_sample :
    file? "/cache" "/docs" sampleTree = none ∧
      (secondMoment.tree.workingDirectory = (firstMoment.after 0 "/cache" "/docs").workingDirectory ∧
        file? "/cache" "/docs" secondMoment.tree =
          file? "/cache" "/docs" (firstMoment.after 0 "/cache" "/docs")) ∧
      ((thirdMoment.view "/docs").documents = (secondMoment.view "/docs").documents ∧
        (secondMoment.view "/docs").documents ≠ (firstMoment.view "/docs").documents ∧
        (secondMoment.view "/docs").fingerprint ≠ (firstMoment.view "/docs").fingerprint ∧
        (thirdMoment.view "/docs").fingerprint ≠ (firstMoment.view "/docs").fingerprint) ∧
      (∀ moment ∈ sampleMoments,
        ∀ file ∈ file? "/cache" "/docs" moment.tree, file.content.length < 2 ^ 64) ∧
      secondMoment.isCached = some false ∧ thirdMoment.isCached = some true := by
  decide +kernel

theorem run_sample : Run 0 "/cache" "/docs" sampleMoments (thirdMoment.after 0 "/cache" "/docs") := by
  obtain ⟨hempty, ⟨hworking, hfile⟩, -⟩ := checks_sample
  refine .call laterCall (.call laterCall (.edit (.call sampleCall (.start hempty)) hworking ?_))
  intro file h
  exact hfile.symm.trans h

/-- Calls that meet the same fingerprint meet the same documents: only the edit changes both. -/
theorem faithful_sample : Faithful "/docs" sampleMoments := by
  obtain ⟨-, -, ⟨hsame, -, hsecond, hthird⟩, -⟩ := checks_sample
  intro a ha b hb f hf hg
  simp only [sampleMoments, List.mem_cons, List.not_mem_nil, or_false] at ha hb
  -- the last two moments find one article, the first one found another
  rcases ha with rfl | rfl | rfl <;> rcases hb with rfl | rfl | rfl
  · rfl
  · exact hsame
  · exact absurd (hf.trans hg.symm) hthird
  · exact hsame.symm
  · rfl
  · exact absurd (hf.trans hg.symm) hsecond
  · exact absurd (hg.trans hf.symm) hthird
  · exact absurd (hg.trans hf.symm) hsecond
  · rfl

/-- After a change of the article a call builds its snapshot anew, the next call is answered from the cache,
and all answer as if there were none. -/
theorem answers_eq_fresh_sample :
    Run 0 "/cache" "/docs" sampleMoments (thirdMoment.after 0 "/cache" "/docs") ∧
      Faithful "/docs" sampleMoments ∧
      (∀ moment ∈ sampleMoments, moment.Fits "/cache" "/docs") ∧
      (secondMoment.view "/docs").documents ≠ (firstMoment.view "/docs").documents ∧
      secondMoment.isCached = some false ∧ thirdMoment.isCached = some true ∧
      ∀ moment ∈ sampleMoments,
        (moment.answer 0 "/cache" "/docs").map (·.map fun loaded => timeless loaded.snapshot) =
          .ok ((moment.fresh "/docs").map timeless) := by
  obtain ⟨-, -, ⟨-, hchanged, -⟩, hfits, hbuilt, hcached⟩ := checks_sample
  exact ⟨run_sample, faithful_sample, hfits, hchanged, hbuilt, hcached,
    answers_eq_fresh run_sample faithful_sample hfits⟩

end Concordance.Cache
