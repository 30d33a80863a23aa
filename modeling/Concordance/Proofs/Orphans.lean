import Concordance.Proofs.CacheRepairs
import Concordance.Proofs.LostFiles
import Concordance.Proofs.SnapshotRoots

/-!
# Orphans

Cleanup removes the cache files whose directory is gone (`IsOrphan`), and nothing else. What is read of a file
and whether its directory is there stay the same while other files are lost, so each step of the loop decides
as the first state does (`cleanupStep_of_lost`), and the whole loop loses exactly the orphans
(`foldl_cleanupStep`). After that there are none, so a second cleanup does nothing.
-/

namespace Concordance.Cache

open Text FileTree

variable {tree : FileTree} {directory name root : String}

/-! ### Cache files and their directories -/

def unsortedNames (tree : FileTree) (directory : String) : List String :=
  ((((tree.find? directory).map FileNode.entries).getD []).map Prod.fst).filter fun name =>
    Path.extension? name == some fileExtension

def fileNames (tree : FileTree) (directory : String) : List String :=
  (unsortedNames tree directory).mergeSort fun a b => decide (a ≤ b)

def entryOf (tree : FileTree) (directory name : String) : CacheEntry :=
  entryAt tree (Path.join directory name)

theorem list_eq_map (tree : FileTree) (directory : String) :
    list tree directory = (fileNames tree directory).map (entryOf tree directory) :=
  rfl

theorem mem_fileNames_iff :
    name ∈ fileNames tree directory ↔
      (∃ entries, tree.find directory = .ok (.directory entries) ∧ name ∈ entries.map Prod.fst) ∧
        Path.extension? name = some "handbook-index" := by
  rw [fileNames, List.mem_mergeSort, unsortedNames, List.mem_filter, beq_iff_eq, fileExtension]
  refine and_congr_left fun _ => ?_
  rw [find?]
  rcases tree.find directory with fault | file | entries <;> simp [Except.toOption, FileNode.entries]

/-- The file of this name in the directory is a cache file from which the directory `root` of its corpus can be
read: it begins with its mark and with this directory, which has at most 4096 bytes. -/
structure Records (tree : FileTree) (directory name root : String) : Prop where
  listed : ∃ entries, tree.find directory = .ok (.directory entries) ∧ name ∈ entries.map Prod.fst
  extension : Path.extension? name = some "handbook-index"
  readable : ∃ file, tree.file? (Path.join directory name) = some file ∧
    CacheFile.BeginsWith file.content root ∧ (encode root).length ≤ 4096

/-- The file of this name is a cache file whose directory is gone. -/
def IsOrphan (tree : FileTree) (directory name : String) : Prop :=
  ∃ root, Records tree directory name root ∧ tree.exists? root = false

/-- No cache file says that its corpus is a file in the cache directory. -/
def RootsOutside (tree : FileTree) (directory : String) : Prop :=
  ∀ name root, Records tree directory name root → (tree.file? root).isSome →
    ∀ inner, landing tree.workingDirectory root ≠ landing tree.workingDirectory directory ++ [inner]

/-- A directory is listed exactly if it can be read. -/
theorem records_iff :
    Records tree directory name root ↔
      name ∈ fileNames tree directory ∧ (entryOf tree directory name).root = some root := by
  rw [mem_fileNames_iff, entryOf, entryAt, Option.bind_eq_some_iff]
  constructor
  · rintro ⟨hlisted, hextension, file, hfile, hreadable⟩
    exact ⟨⟨hlisted, hextension⟩, file, hfile, CacheFile.root?_eq_some_iff.2 hreadable⟩
  · rintro ⟨⟨hlisted, hextension⟩, file, hfile, hroot⟩
    exact ⟨hlisted, hextension, file, hfile, CacheFile.root?_eq_some_iff.1 hroot⟩

/-- A file records one directory. -/
theorem Records.unique {other : String} (h : Records tree directory name root)
    (hother : Records tree directory name other) : root = other := by
  have hroot := (records_iff.1 h).2
  rw [(records_iff.1 hother).2] at hroot
  exact (Option.some.inj hroot).symm

def place (tree : FileTree) (directory name : String) : List String :=
  landing tree.workingDirectory directory ++ [name]

/-- A cache file that can be read is in the place of its name. -/
theorem Records.located (h : Records tree directory name root) (hnamed : tree.root.WellNamed) :
    tree.locate (Path.join directory name) = .ok (place tree directory name) ∧
      ∃ file, tree.root.follow? (place tree directory name) = some (.file file) ∧
        CacheFile.root? file.content = some root := by
  obtain ⟨⟨entries, hdirectory, hname⟩, -, file, hfile, hreadable⟩ := h
  obtain ⟨hfault, -, hfollow⟩ := find_eq_ok_iff.1 hdirectory
  obtain ⟨entry, hentry, rfl⟩ := List.mem_map.1 hname
  have hproper := (hnamed.of_follow? hfollow).proper hentry
  have hne : directory.toList ≠ [] := by
    intro hnil
    obtain rfl := String.toList_eq_nil_iff.1 hnil
    cases hfault
  obtain ⟨-, hlocate, hlook⟩ := seen_eq_some_iff.1 (FileTree.file?_eq_some_iff.1 hfile)
  rw [landing_join hproper hne] at hlocate hlook
  exact ⟨hlocate, file, FileNode.look_eq_some_some_iff.1 hlook, CacheFile.root?_eq_some_iff.2 hreadable⟩

/-! ### While files are lost -/

variable {after : FileTree} {gone : List String}

/-- The directories that cache files record are not lost with other cache files. -/
theorem exists?_of_lost (hlost : tree.Lost after (gone.map (place tree directory)))
    (houtside : RootsOutside tree directory) (h : Records tree directory name root) :
    after.exists? root = tree.exists? root := by
  rw [Bool.eq_iff_iff, hlost.exists?_iff, and_iff_left_iff_imp]
  intro hexists hgone
  obtain ⟨inner, -, hplace⟩ := List.mem_map.1 hgone
  obtain ⟨file, hfile⟩ := hlost.files _ hgone
  obtain ⟨found, hseen⟩ := Option.isSome_iff_exists.1 (exists?_eq_isSome_seen ▸ hexists)
  have hlook := (seen_eq_some_iff.1 hseen).2.2
  rw [FileNode.look_eq_some_some_iff.2 hfile] at hlook
  obtain rfl := Option.some.inj hlook
  have hthere : (tree.file? root).isSome := by
    rw [FileTree.file?_eq_some_iff.2 hseen]
    rfl
  exact houtside name root h hthere inner hplace.symm

/-- The cache file of this name is an orphan, as far as what is listed of it tells. -/
def orphaned (tree : FileTree) (directory name : String) : Bool :=
  (entryOf tree directory name).root.any fun root => !tree.exists? root

theorem orphaned_iff (h : name ∈ fileNames tree directory) :
    orphaned tree directory name = true ↔ IsOrphan tree directory name := by
  simp only [orphaned, IsOrphan, Option.any_eq_true, Bool.not_eq_true', records_iff, h, true_and]

/-- However many files were lost before, a step removes an orphan and leaves every other file. -/
theorem cleanupStep_of_lost {count : Nat} (hlost : tree.Lost after (gone.map (place tree directory)))
    (houtside : RootsOutside tree directory) (h : name ∈ fileNames tree directory) :
    cleanupStep (after, count) (entryOf tree directory name) =
      if orphaned tree directory name then (after.remove (Path.join directory name), count + 1)
      else (after, count) := by
  rw [cleanupStep, orphaned]
  rcases hroot : (entryOf tree directory name).root with _ | root
  · rw [Option.any_none, if_neg Bool.false_ne_true]
  · have hexists := exists?_of_lost hlost houtside (records_iff.2 ⟨h, hroot⟩)
    have hpath : (entryOf tree directory name).path = Path.join directory name := rfl
    by_cases hthere : tree.exists? root = true <;> simp [hexists, hthere, hpath]

/-! ### The whole run -/

/-- The loop loses the orphans among the files that it goes through. -/
theorem foldl_cleanupStep (hnamed : tree.root.WellNamed) (houtside : RootsOutside tree directory)
    {todo : List String} (count : Nat) (htodo : ∀ name ∈ todo, name ∈ fileNames tree directory)
    (hnodup : todo.Nodup) (hkept : ∀ name ∈ todo, name ∉ gone)
    (hlost : tree.Lost after (gone.map (place tree directory))) (hafter : after.root.WellNamed) :
    ∃ last, (todo.map (entryOf tree directory)).foldl cleanupStep (after, count) =
        (last, count + (todo.filter (orphaned tree directory)).length) ∧
      tree.Lost last ((gone ++ todo.filter (orphaned tree directory)).map (place tree directory)) ∧
      last.root.WellNamed ∧ (todo.filter (orphaned tree directory) = [] → last = after) := by
  -- what is gone is recorded by its names, and the trees differ nowhere else
  induction todo generalizing after gone count with
  | nil => exact ⟨after, rfl, by rwa [List.filter_nil, List.append_nil], hafter, fun _ => rfl⟩
  | cons name todo ih =>
      obtain ⟨hname, hnodup⟩ := List.nodup_cons.1 hnodup
      have hlisted := htodo name List.mem_cons_self
      have hrest : ∀ other ∈ todo, other ∈ fileNames tree directory :=
        fun other hother => htodo other (List.mem_cons_of_mem _ hother)
      have hothers : ∀ other ∈ todo, other ∉ gone :=
        fun other hother => hkept other (List.mem_cons_of_mem _ hother)
      rw [List.map_cons, List.foldl_cons, cleanupStep_of_lost hlost houtside hlisted, List.filter_cons]
      by_cases horphan : orphaned tree directory name = true
      · obtain ⟨root, hrecords, -⟩ := (orphaned_iff hlisted).1 horphan
        obtain ⟨hlocate, file, hfile, -⟩ := hrecords.located hnamed
        -- names do not repeat, so the file is still there when its turn comes
        have hthere : place tree directory name ∉ gone.map (place tree directory) := by
          simpa [place] using hkept name List.mem_cons_self
        have hremoved := hlost.remove hafter hlocate (by simp [place]) hfile hthere
        rw [← List.map_singleton, ← List.map_append] at hremoved
        have hnew : ∀ other ∈ todo, other ∉ gone ++ [name] := by
          intro other hother
          have hne : other ≠ name := fun heq => hname (heq ▸ hother)
          simp [hothers other hother, hne]
        have hremain : (after.remove (Path.join directory name)).root.WellNamed := by
          rw [FileTree.remove]
          split
          · exact hafter.remove _
          · exact hafter
        obtain ⟨last, hfold, hlast, hwell, -⟩ := ih _ hrest hnodup hnew hremoved hremain
        refine ⟨last, ?_, ?_, hwell, ?_⟩
        · rw [if_pos horphan, if_pos horphan, hfold, List.length_cons]
          rw [Nat.add_assoc, Nat.add_comm 1]
        · rwa [if_pos horphan, List.append_cons]
        · rw [if_pos horphan]
          exact fun hnil => absurd hnil (List.cons_ne_nil _ _)
      · rw [if_neg horphan, if_neg horphan]
        exact ih _ hrest hnodup hothers hlost hafter

def orphans (tree : FileTree) (directory : String) : List String :=
  (fileNames tree directory).filter (orphaned tree directory)

/-- What the sweep takes for an orphan is one. -/
theorem mem_orphans_iff : name ∈ orphans tree directory ↔ IsOrphan tree directory name := by
  rw [orphans, List.mem_filter]
  constructor
  · rintro ⟨hlisted, horphan⟩
    exact (orphaned_iff hlisted).1 horphan
  · rintro ⟨root, hrecords, hgone⟩
    have hlisted := (records_iff.1 hrecords).1
    exact ⟨hlisted, (orphaned_iff hlisted).2 ⟨root, hrecords, hgone⟩⟩

/-- No file is listed twice. -/
theorem nodup_fileNames (hnamed : tree.root.WellNamed) : (fileNames tree directory).Nodup := by
  rw [fileNames, (List.mergeSort_perm _ _).nodup_iff, unsortedNames]
  refine List.Nodup.filter _ ?_
  rw [find?]
  cases hfind : tree.find directory with
  | error fault => exact List.nodup_nil
  | ok node => exact (hnamed.of_follow? (find_eq_ok_iff.1 hfind).2.2).nodup

/-- Cleanup loses the orphans and counts them. -/
theorem cleanup_eq (hnamed : tree.root.WellNamed) (houtside : RootsOutside tree directory) :
    ∃ after, cleanup tree directory = (after, (orphans tree directory).length) ∧
      tree.Lost after ((orphans tree directory).map (place tree directory)) ∧ after.root.WellNamed ∧
      (orphans tree directory = [] → after = tree) := by
  obtain ⟨after, hfold, hlost, hwell, hnone⟩ := foldl_cleanupStep hnamed houtside 0
    (fun _ => id) (nodup_fileNames hnamed) (fun _ _ => List.not_mem_nil) (Lost.refl tree) hnamed
  refine ⟨after, ?_, by rwa [List.nil_append] at hlost, hwell, hnone⟩
  rw [cleanup, list_eq_map, hfold, Nat.zero_add, orphans]

/-! ### After a cleanup -/

section After

variable (hnamed : tree.root.WellNamed) (houtside : RootsOutside tree directory)
  (hlost : tree.Lost after ((orphans tree directory).map (place tree directory)))

include hlost

/-- A file that records a directory afterwards did so before. -/
theorem Records.of_lost (h : Records after directory name root) : Records tree directory name root := by
  obtain ⟨⟨entries, hdirectory, hname⟩, hextension, file, hfile, hreadable⟩ := h
  refine ⟨?_, hextension, file, (hlost.file?_eq_some_iff.1 hfile).1, hreadable⟩
  obtain ⟨hfault, hlocate, hfollow⟩ := find_eq_ok_iff.1 hdirectory
  rw [hlost.workingDirectory] at hlocate hfollow
  obtain ⟨more, hmore⟩ := hlost.retains.directory hfollow
  refine ⟨more, find_eq_ok_iff.2 ⟨hfault, ?_, hmore⟩, ?_⟩
  · exact locate_of_retains hlost.retains hlost.workingDirectory.symm hlocate
  · obtain ⟨entry, hentry, rfl⟩ := List.mem_map.1 hname
    have hthere : (after.root.follow? (landing tree.workingDirectory directory ++ [entry.1])).isSome := by
      rw [FileNode.follow?_concat hfollow, List.lookup_isSome_iff]
      exact ⟨entry, hentry, beq_self_eq_true _⟩
    have hbefore := hlost.retains.isSome _ hthere
    rw [FileNode.follow?_concat hmore, List.lookup_isSome_iff] at hbefore
    obtain ⟨old, hold, heq⟩ := hbefore
    rw [beq_iff_eq.1 heq]
    exact List.mem_map_of_mem hold

theorem rootsOutside_of_lost (houtside : RootsOutside tree directory) : RootsOutside after directory := by
  intro name root hrecords hfile inner
  obtain ⟨file, hfile⟩ := Option.isSome_iff_exists.1 hfile
  rw [hlost.workingDirectory]
  refine houtside name root (hrecords.of_lost hlost) ?_ inner
  rw [(hlost.file?_eq_some_iff.1 hfile).1]
  rfl

include hnamed houtside

/-- There are no orphans any more. -/
theorem not_isOrphan_of_lost (name : String) : ¬IsOrphan after directory name := by
  rintro ⟨root, hrecords, hgone⟩
  have hbefore := hrecords.of_lost hlost
  rw [exists?_of_lost hlost houtside hbefore] at hgone
  -- the file was an orphan already, so it is not there any more
  have hplace := List.mem_map_of_mem (f := place tree directory)
    (mem_orphans_iff.2 ⟨root, hbefore, hgone⟩)
  obtain ⟨-, -, file, hfile, -⟩ := hrecords
  have hkept := (hlost.file?_eq_some_iff.1 hfile).2
  rw [← eq_landing_of_locate (hbefore.located hnamed).1] at hkept
  exact hkept hplace

/-- What is still listed afterwards has a corpus that exists. -/
theorem exists?_of_mem_list {entry : CacheEntry} (hentry : entry ∈ list after directory)
    (hroot : entry.root = some root) : after.exists? root = true := by
  rw [list_eq_map] at hentry
  obtain ⟨name, hname, rfl⟩ := List.mem_map.1 hentry
  by_contra hgone
  exact not_isOrphan_of_lost hnamed houtside hlost name
    ⟨root, records_iff.2 ⟨hname, hroot⟩, Bool.eq_false_iff.2 hgone⟩

/-- A second cleanup removes nothing. -/
theorem cleanup_of_lost (hafter : after.root.WellNamed) : cleanup after directory = (after, 0) := by
  have hnone : orphans after directory = [] := by
    apply List.eq_nil_iff_forall_not_mem.2
    intro name hname
    exact not_isOrphan_of_lost hnamed houtside hlost name (mem_orphans_iff.1 hname)
  obtain ⟨last, hlast, -, -, heq⟩ := cleanup_eq hafter (rootsOutside_of_lost hlost houtside)
  rw [hlast, heq hnone, hnone, List.length_nil]

omit houtside

/-- A file from which a directory can be read that is there is not lost. -/
theorem file?_of_exists? {path : String} {file : File} (hfile : tree.file? path = some file)
    (hroot : CacheFile.root? file.content = some root) (hexists : tree.exists? root = true) :
    after.file? path = some file := by
  refine hlost.file?_eq_some_iff.2 ⟨hfile, ?_⟩
  intro hgone
  obtain ⟨name, hname, hplace⟩ := List.mem_map.1 hgone
  obtain ⟨other, hrecords, hother⟩ := mem_orphans_iff.1 hname
  obtain ⟨-, found, hfound, hread⟩ := hrecords.located hnamed
  have hlook := (seen_eq_some_iff.1 (FileTree.file?_eq_some_iff.1 hfile)).2.2
  rw [← hplace, FileNode.look_eq_some_some_iff, hfound] at hlook
  cases hlook
  rw [hroot] at hread
  cases hread
  rw [hexists] at hother
  cases hother

end After

/-! ### Files that were kept -/

/-- No path that leads somewhere is longer than a path can be. -/
theorem length_encode_of_exists? (h : tree.exists? root = true) :
    (encode root).length ≤ Path.maxLength := by
  obtain ⟨found, hseen⟩ := Option.isSome_iff_exists.1 (exists?_eq_isSome_seen ▸ h)
  have hfault := (seen_eq_some_iff.1 hseen).1
  rw [length_encode]
  by_contra hlong
  rw [PathFault.ofText?] at hfault
  split at hfault
  · cases hfault
  · split at hfault
    · cases hfault
    · rw [if_pos (Nat.not_le.1 hlong)] at hfault
      cases hfault

variable [CharacterTable]

/-- From a file that was kept of a corpus that was there, its directory is read. -/
theorem root?_of_save {snapshot : Snapshot Float} {now : UInt64} {path : String} {file : File}
    (hroot : tree.exists? root = true) (hsave : (save tree directory root snapshot now).result = .ok path)
    (hfile : (save tree directory root snapshot now).tree.file? path = some file)
    (hlength : (encode (canonicalRoot tree root)).length ≤ 4096) :
    CacheFile.root? file.content = some (canonicalRoot tree root) := by
  have hcanonical : (tree.canonical? root).isSome := by
    obtain ⟨found, hseen⟩ := Option.isSome_iff_exists.1 (exists?_eq_isSome_seen ▸ hroot)
    rw [canonical?, (seen_eq_some_iff.1 hseen).2.1]
    rfl
  have hmade := canonicalRoot_of_retains (tree.grows_makeDirectory directory).retains
    (tree.workingDirectory_makeDirectory directory) hcanonical
  have hfound := find_of_write (save_eq_ok hsave).2
  rw [FileTree.file?, find?, hfound] at hfile
  cases hfile
  rw [hmade]
  exact CacheFile.root?_of_payload_write (CacheFile.payload_pack _ _) hlength

/-- In a tree of proper names, where no cache file says that its corpus is a file in the cache directory,
cleanup

- removes the cache files whose directory can be read and leads to nothing, and gives their number;
- leaves every other file and every directory as it was;
- removes nothing when it is called again, and leaves no file listed whose directory leads to nothing;
- leaves every file that was kept of a corpus that was there, if the directory that was kept of it leads to
  something. That is so if the corpus itself is still there, unless the canonical path of it has more bytes than
  a path can have.
-/
theorem cleanup_removes_orphans (tree : FileTree) (directory : String) (hnamed : tree.root.WellNamed)
    (houtside : RootsOutside tree directory) :
    ∃ (after : FileTree) (gone : List String), cleanup tree directory = (after, gone.length) ∧
      gone.Nodup ∧ (∀ name, name ∈ gone ↔ IsOrphan tree directory name) ∧
      tree.Lost after (gone.map fun name => landing tree.workingDirectory directory ++ [name]) ∧
      cleanup after directory = (after, 0) ∧
      (∀ entry ∈ list after directory, ∀ root, entry.root = some root → after.exists? root = true) ∧
      (∀ before root snapshot now path file, before.exists? root = true →
        (save before directory root snapshot now).result = .ok path →
        (save before directory root snapshot now).tree.file? path = some file →
        tree.file? path = some file → tree.exists? (canonicalRoot before root) = true →
        after.file? path = some file) ∧
      ∀ root, tree.exists? root = true → (canonicalRoot tree root).utf8ByteSize ≤ 4095 →
        tree.exists? (canonicalRoot tree root) = true := by
  obtain ⟨after, hcleanup, hlost, hafter, -⟩ := cleanup_eq hnamed houtside
  refine ⟨after, orphans tree directory, hcleanup, (nodup_fileNames hnamed).filter _,
    fun name => mem_orphans_iff, hlost, cleanup_of_lost hnamed houtside hlost hafter, ?_, ?_,
    fun root => exists?_canonicalRoot hnamed⟩
  · intro entry hentry root hroot
    exact exists?_of_mem_list hnamed houtside hlost hentry hroot
  · intro before root snapshot now path file hbefore hsave hsaved hfile hroot
    have hlength := length_encode_of_exists? hroot
    exact file?_of_exists? hnamed hlost hfile
      (root?_of_save hbefore hsave hsaved (Nat.le_succ_of_le hlength)) hroot

end Concordance.Cache

/-! ### A directory of all kinds of files -/

namespace Concordance.Cache

/-- The cache file that is kept of `/docs`. -/
def keptFile : File :=
  ⟨CacheFile.pack StoredSnapshot.codec (.ofSnapshot "/docs" StoredSnapshot.sample), 0⟩

/-- A cache file of a corpus that is gone. -/
def orphanFile : File :=
  ⟨CacheFile.pack StoredSnapshot.codec (.ofSnapshot "/gone" StoredSnapshot.sample), 0⟩

def keptPath : String :=
  Path.join "/cache" (Path.cacheName "/docs")

/-- A cache with an orphan, a file of a corpus that is there, a damaged file and one that is no cache file. -/
def mixedTree : FileTree where
  root := .directory
    [("cache", .directory
      [("broken.handbook-index", .file ⟨Text.encode "LZ", 0⟩), ("gone.handbook-index", .file orphanFile),
        (Path.cacheName "/docs", .file keptFile), ("notes.txt", .file ⟨Text.encode "notes", 0⟩)]),
      ("docs", .empty)]
  workingDirectory := []

theorem wellNamed_mixedTree : mixedTree.root.WellNamed := by
  refine .directory (by decide) (by decide) ?_
  refine List.forall_mem_cons.2 ⟨.directory (by decide +kernel) (by decide +kernel) ?_, ?_⟩
  · simp [FileNode.WellNamed.file]
  · refine List.forall_mem_singleton.2 (.directory List.nodup_nil (by simp) (by simp))

set_option maxRecDepth 100000 in
/-- What can be seen of the cache by looking at it: which file is an orphan, and that no directory that a file
records lies in it. -/
theorem unsortedNames_mixedTree :
    "gone.handbook-index" ∈ unsortedNames mixedTree "/cache" ∧
      ∀ name ∈ unsortedNames mixedTree "/cache",
        (orphaned mixedTree "/cache" name = true ↔ name = "gone.handbook-index") ∧
          ∀ root ∈ (entryOf mixedTree "/cache" name).root, (FileTree.landing [] root).length = 1 := by
  decide +kernel

/-- Of the files there only the one whose corpus is gone is an orphan. -/
theorem isOrphan_mixedTree (name : String) :
    IsOrphan mixedTree "/cache" name ↔ name = "gone.handbook-index" := by
  obtain ⟨hgone, hall⟩ := unsortedNames_mixedTree
  rw [← mem_orphans_iff, orphans, List.mem_filter, fileNames, List.mem_mergeSort]
  constructor
  · rintro ⟨hname, horphan⟩
    exact (hall name hname).1.1 horphan
  · rintro rfl
    exact ⟨hgone, (hall _ hgone).1.2 rfl⟩

theorem rootsOutside_mixedTree : RootsOutside mixedTree "/cache" := by
  intro name root hrecords _ inner hlanding
  obtain ⟨hname, hroot⟩ := records_iff.1 hrecords
  rw [fileNames, List.mem_mergeSort] at hname
  have hlength := (unsortedNames_mixedTree.2 name hname).2 root hroot
  have hcache : FileTree.landing mixedTree.workingDirectory "/cache" = ["cache"] := by decide
  rw [hcache] at hlanding
  change FileTree.landing [] root = _ at hlanding
  rw [hlanding] at hlength
  cases hlength

def docsTree : FileTree :=
  ⟨.directory [("docs", .empty)], []⟩

set_option maxRecDepth 100000 in
/-- What can be seen by keeping the sample: the file that is written is the one in the cache. -/
theorem save_docsTree :
    docsTree.exists? "/docs" = true ∧
      (save docsTree "/cache" "/docs" StoredSnapshot.sample 0).result.toOption = some keptPath ∧
      (save docsTree "/cache" "/docs" StoredSnapshot.sample 0).tree.file? keptPath = some keptFile ∧
      mixedTree.file? keptPath = some keptFile ∧
      mixedTree.exists? (canonicalRoot docsTree "/docs") = true := by
  decide +kernel

/-- Cleanup removes the one orphan, and the file that was kept of `/docs` stays. -/
theorem cleanup_removes_orphans_mixedTree :
    mixedTree.root.WellNamed ∧ RootsOutside mixedTree "/cache" ∧
      ∃ (after : FileTree) (gone : List String), cleanup mixedTree "/cache" = (after, gone.length) ∧
        (∀ name, name ∈ gone ↔ name = "gone.handbook-index") ∧
        mixedTree.Lost after (gone.map fun name => ["cache"] ++ [name]) ∧
        after.file? keptPath = some keptFile := by
  obtain ⟨after, gone, hcleanup, -, hgone, hlost, -, -, hkept, -⟩ :=
    cleanup_removes_orphans mixedTree "/cache" wellNamed_mixedTree rootsOutside_mixedTree
  obtain ⟨hroot, hsave, hsaved, hfile, hexists⟩ := save_docsTree
  refine ⟨wellNamed_mixedTree, rootsOutside_mixedTree, after, gone, hcleanup, ?_, hlost, ?_⟩
  · exact fun name => (hgone name).trans (isOrphan_mixedTree name)
  · exact hkept docsTree "/docs" StoredSnapshot.sample 0 keptPath keptFile hroot
      (toOption_eq_some.1 hsave) hsaved hfile hexists

end Concordance.Cache
