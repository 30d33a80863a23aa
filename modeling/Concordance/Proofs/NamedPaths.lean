import Concordance.Cache
import Concordance.Proofs.FileTrees

/-!
# Paths of proper names

The path of a proper name in a directory leads one name further than that of the directory
(`landing_join`). In a tree whose files all have proper names, what is found by names is found by the
canonical path that they make (`exists_writeNames`), unless that is too long to be looked up. So the directory
that is kept of a corpus is there if the corpus is.
-/

namespace Concordance

/-- A name that a file can have: not empty, no dots that stand for a directory, no slash and no NUL in it, and
not too long. -/
structure ProperName (name : String) : Prop where
  isName : Path.piece name.toList = .name name
  slash : '/' ∉ name.toList
  zero : '\x00' ∉ name.toList
  short : name.utf8ByteSize ≤ Path.maxNameLength

instance (name : String) : Decidable (ProperName name) :=
  decidable_of_iff (Path.piece name.toList = .name name ∧ '/' ∉ name.toList ∧ '\x00' ∉ name.toList ∧
      name.utf8ByteSize ≤ Path.maxNameLength)
    ⟨fun ⟨hname, hslash, hzero, hshort⟩ => ⟨hname, hslash, hzero, hshort⟩,
      fun ⟨hname, hslash, hzero, hshort⟩ => ⟨hname, hslash, hzero, hshort⟩⟩

namespace Path

variable {directory name : String}

/-! ### Steps -/

theorem piece_ne_root (text : List Char) : Path.piece text ≠ .root := by
  rw [Path.piece]
  split
  · simp
  · split <;> simp

/-- A slash at the end is a step that stays. -/
theorem steps_append_slash (hne : directory.toList ≠ []) :
    steps (String.ofList (directory.toList ++ ['/'])) = steps directory ++ [.here] := by
  have habsolute : isAbsolute (String.ofList (directory.toList ++ ['/'])) = isAbsolute directory := by
    rw [isAbsolute, isAbsolute, String.toList_ofList, List.head?_append_of_ne_nil _ hne]
  have hpieces : Text.splitBy (· == '/') (directory.toList ++ ['/']) =
      Text.splitBy (· == '/') directory.toList ++ [[]] :=
    Text.splitBy_append_cons rfl directory.toList []
  have hhere : piece [] = .here := rfl
  rw [steps, steps, habsolute, pieces, pieces, Text.splitAt, Text.splitAt, String.toList_ofList, hpieces,
    List.map_append, ← List.append_assoc, List.map_singleton, hhere]

/-- The path of a name in a directory takes the steps of the directory, but for one that stays, and one
more. -/
theorem steps_join (hname : ProperName name) (hne : directory.toList ≠ []) :
    ∃ first, steps (join directory name) = first ++ [.name name] ∧
      (steps directory = first ∨ steps directory = first ++ [.here]) := by
  have hrelative : isAbsolute name = false := by
    rw [isAbsolute, beq_eq_false_iff_ne]
    exact fun hhead => hname.slash (List.mem_of_mem_head? hhead)
  have hnonempty : directory.isEmpty = false := by
    simpa using hne
  rw [join, hrelative, hnonempty]
  simp only [Bool.or_self, Bool.false_eq_true, if_false]
  split
  · -- the directory ends in a slash, so no separator is put between
    next hlast =>
    obtain ⟨before, hbefore⟩ := List.getLast?_eq_some_iff.1 (beq_iff_eq.1 hlast)
    have hsplit : Text.splitLast? '/' (directory ++ name).toList = some (before, name.toList) := by
      rw [Text.splitLast?_eq_some_iff, String.toList_append, hbefore, List.append_assoc]
      exact ⟨rfl, hname.slash⟩
    obtain ⟨first, hsteps, hfirst⟩ := FileTree.steps_of_splitLast? hsplit
    rw [← hbefore, String.ofList_toList] at hfirst
    exact ⟨first, by rw [hsteps, hname.isName], .inr hfirst⟩
  · have hsplit : Text.splitLast? '/' (directory ++ "/" ++ name).toList =
        some (directory.toList, name.toList) := by
      rw [Text.splitLast?_eq_some_iff, String.toList_append, String.toList_append, List.append_assoc]
      exact ⟨rfl, hname.slash⟩
    obtain ⟨first, hsteps, hfirst⟩ := FileTree.steps_of_splitLast? hsplit
    rw [steps_append_slash hne] at hfirst
    exact ⟨first, by rw [hsteps, hname.isName], .inl (List.append_cancel_right hfirst)⟩

end Path

/-- The path of a name in a directory leads one name further than that of the directory. -/
theorem FileTree.landing_join {working : List String} {directory name : String} (hname : ProperName name)
    (hne : directory.toList ≠ []) :
    landing working (Path.join directory name) = landing working directory ++ [name] := by
  obtain ⟨first, hjoin, hdirectory | hdirectory⟩ := Path.steps_join hname hne
  · rw [landing, landing, hjoin, hdirectory, List.foldl_concat]
    rfl
  · rw [landing, landing, hjoin, hdirectory, List.foldl_concat, List.foldl_concat]
    rfl

/-! ### Trees of proper names -/

namespace FileNode

/-- The entries of each directory have different names, and names that files can have. -/
inductive WellNamed : FileNode → Prop
  | file (file : File) : WellNamed (.file file)
  | directory {entries : List (String × FileNode)} : (entries.map Prod.fst).Nodup →
      (∀ entry ∈ entries, ProperName entry.1) → (∀ entry ∈ entries, WellNamed entry.2) →
      WellNamed (.directory entries)

namespace WellNamed

variable {node found : FileNode} {names : List String} {entry : String × FileNode}

theorem nodup (h : node.WellNamed) : (node.entries.map Prod.fst).Nodup := by
  cases h with
  | file file => exact List.nodup_nil
  | directory hnodup _ _ => exact hnodup

theorem proper (h : node.WellNamed) (hentry : entry ∈ node.entries) : ProperName entry.1 := by
  cases h with
  | file file => cases hentry
  | directory _ hall _ => exact hall entry hentry

theorem child (h : node.WellNamed) (hentry : entry ∈ node.entries) : entry.2.WellNamed := by
  cases h with
  | file file => cases hentry
  | directory _ _ hall => exact hall entry hentry

theorem of_follow? (h : node.WellNamed) (hfollow : node.follow? names = some found) : found.WellNamed := by
  induction names generalizing node with
  | nil =>
      cases hfollow
      exact h
  | cons name names ih =>
      obtain ⟨next, hnext, hfollow⟩ := Option.bind_eq_some_iff.1 hfollow
      exact ih (h.child (SortedMap.mem_of_lookup_eq_some hnext)) hfollow

end WellNamed

/-- Names that lead to something are names that a file can have. -/
theorem WellNamed.proper_of_follow? {node : FileNode} {names : List String} (h : node.WellNamed)
    (hsome : (node.follow? names).isSome) : ∀ name ∈ names, ProperName name := by
  induction names generalizing node with
  | nil => simp
  | cons name names ih =>
      obtain ⟨found, hfound⟩ := Option.isSome_iff_exists.1 hsome
      obtain ⟨child, hchild, hfound⟩ := Option.bind_eq_some_iff.1 hfound
      have hentry := SortedMap.mem_of_lookup_eq_some hchild
      intro other hother
      rcases List.mem_cons.1 hother with rfl | hother
      · exact h.proper hentry
      · exact ih (h.child hentry) (by rw [hfound]; rfl) other hother

/-- On the way to what is there are directories. -/
theorem isDirectory_of_follow?_append {node : FileNode} {before behind : List String} {name : String}
    (hsome : (node.follow? (before ++ name :: behind)).isSome) :
    (node.follow? before).map FileNode.isDirectory = some true ∧
      (node.follow? (before ++ [name])).isSome := by
  obtain ⟨found, hfound⟩ := Option.isSome_iff_exists.1 hsome
  rw [follow?_append] at hfound
  obtain ⟨directory, hbefore, hbehind⟩ := Option.bind_eq_some_iff.1 hfound
  obtain ⟨child, hchild, -⟩ := Option.bind_eq_some_iff.1 hbehind
  cases directory with
  | file file => cases hchild
  | directory entries =>
      rw [follow?_concat hbefore, hbefore]
      exact ⟨rfl, Option.isSome_iff_exists.2 ⟨child, hchild⟩⟩

end FileNode

/-! ### Canonical paths -/

namespace FileTree

variable {tree : FileTree} {names : List String}

/-- Names lead to what they are followed to. -/
theorem foldlM_step_names {root : FileNode} {before : List String} (h : root.WellNamed)
    (hsome : (root.follow? (before ++ names)).isSome) :
    (names.map PathPart.name).foldlM (step root) before = .ok (before ++ names) := by
  have hproper := h.proper_of_follow? hsome
  induction names generalizing before with
  | nil =>
      rw [List.append_nil]
      rfl
  | cons name names ih =>
      obtain ⟨hdirectory, hname⟩ := FileNode.isDirectory_of_follow?_append hsome
      have hstep : step root before (.name name) = .ok (before ++ [name]) := by
        refine step_eq_ok_iff.2 ⟨rfl, fun _ => hdirectory, ?_⟩
        rintro _ ⟨⟩
        exact ⟨(hproper name (by simp)).short, hname⟩
      rw [List.append_cons] at hsome hproper ⊢
      rw [List.map_cons, List.foldlM_cons]
      exact bind_eq_ok.2 ⟨_, hstep, ih hsome hproper⟩

/-- A directory is where its dots lead. -/
theorem foldlM_step_here {root : FileNode} {stay : List PathPart}
    (hdirectory : (root.follow? names).map FileNode.isDirectory = some true)
    (hstay : ∀ part ∈ stay, part = .here) : stay.foldlM (step root) names = .ok names := by
  induction stay with
  | nil => rfl
  | cons part stay ih =>
      obtain rfl := hstay part List.mem_cons_self
      have hhere : step root names .here = .ok names :=
        step_eq_ok_iff.2 ⟨rfl, fun _ => hdirectory, by simp⟩
      rw [List.foldlM_cons]
      exact bind_eq_ok.2 ⟨names, hhere, ih fun p hp => hstay p (List.mem_cons_of_mem _ hp)⟩

/-- The canonical path begins at the root and takes the names one by one. -/
theorem steps_writeNames (h : ∀ name ∈ names, ProperName name) :
    ∃ stay, Path.steps (writeNames names) = .root :: (stay ++ names.map PathPart.name) ∧
      ∀ part ∈ stay, part = .here := by
  cases names with
  | nil => exact ⟨[.here, .here], by decide, by simp⟩
  | cons name names =>
    have hplain : ∀ piece ∈ (name :: names).map String.toList, ∀ c ∈ piece, (c == '/') = false := by
      intro piece hpiece c hc
      obtain ⟨name, hname, rfl⟩ := List.mem_map.1 hpiece
      rw [beq_eq_false_iff_ne]
      rintro rfl
      exact (h name hname).slash hc
    -- the slash in front gives an empty first piece, the names are the others
    have hpieces : Path.pieces (writeNames (name :: names)) =
        [] :: (name :: names).map String.toList := by
      have hsplit : Text.splitBy (· == '/') (['/'].intercalate ((name :: names).map String.toList)) =
          (name :: names).map String.toList :=
        Text.splitBy_intercalate rfl (List.cons_ne_nil _ _) hplain
      rw [Path.pieces, writeNames, String.toList_append, String.toList_intercalate, Text.splitAt]
      show Text.splitBy (· == '/') ([] ++ '/' :: ['/'].intercalate _) = _
      rw [Text.splitBy_append_cons (q := (· == '/')) rfl, hsplit]
      rfl
    have hnames : ((name :: names).map String.toList).map Path.piece =
        (name :: names).map PathPart.name := by
      rw [List.map_map]
      exact List.map_congr_left fun name hname => (h name hname).isName
    refine ⟨[.here], ?_, by simp⟩
    have habsolute : Path.isAbsolute (writeNames (name :: names)) = true := by
      rw [Path.isAbsolute, writeNames, String.toList_append]
      rfl
    rw [Path.steps, hpieces, List.map_cons, hnames, if_pos habsolute]
    rfl

/-- A tree in which a path leads somewhere is a directory. -/
theorem isDirectory_of_locate {path : String} (h : tree.locate path = .ok names) :
    tree.root.isDirectory = true := by
  cases hroot : tree.root with
  | directory entries => rfl
  | file file =>
    -- from a file no step leads anywhere, and no path is without a step
    have hnone (working found : List String) (text : List Char) :
        step (.file file) working (Path.piece text) ≠ .ok found := by
      intro hstep
      have hdirectory := (step_eq_ok_iff.1 hstep).2.1 (Path.piece_ne_root text)
      cases working <;> cases hdirectory
    rw [locate, hroot] at h
    split at h
    · cases h
    · cases hpieces : Path.pieces path with
      | nil => exact absurd hpieces (Text.splitBy_ne_nil _ _)
      | cons text rest =>
        rw [Path.steps, hpieces, List.map_cons, List.foldlM_append] at h
        obtain ⟨working, -, h⟩ := bind_eq_ok.1 h
        obtain ⟨found, hstep, -⟩ := bind_eq_ok.1 h
        exact absurd hstep (hnone working found text)

/-- What names lead to is found by the path that they make, unless it is too long to be looked up. -/
theorem exists?_writeNames (h : tree.root.WellNamed) (hdirectory : tree.root.isDirectory = true)
    (hsome : (tree.root.follow? names).isSome)
    (hlength : (writeNames names).utf8ByteSize ≤ Path.maxLength) : tree.exists? (writeNames names) = true := by
  have hproper := h.proper_of_follow? hsome
  have hne : (writeNames names).isEmpty = false := by
    simp [writeNames]
  have hfault : PathFault.ofText? (writeNames names) = none := by
    have hzero : '\x00' ∉ (writeNames names).toList := by
      rw [writeNames, String.toList_append, String.toList_intercalate]
      refine List.not_mem_append (by decide) (Text.not_mem_intercalate (by decide) ?_)
      intro piece hpiece
      obtain ⟨name, hname, rfl⟩ := List.mem_map.1 hpiece
      exact (hproper name hname).zero
    rw [PathFault.ofText?, hne]
    simp [hzero, Nat.not_lt.2 hlength]
  -- from the root, staying there for the pieces without a name, then down the names
  have hlocate : tree.locate (writeNames names) = .ok names := by
    obtain ⟨stay, hsteps, hstay⟩ := steps_writeNames hproper
    rw [locate, hne, hsteps, if_neg Bool.false_ne_true, List.foldlM_cons]
    refine bind_eq_ok.2 ⟨[], rfl, ?_⟩
    rw [List.foldlM_append]
    exact bind_eq_ok.2 ⟨[], foldlM_step_here (congrArg some hdirectory) hstay, foldlM_step_names h hsome⟩
  obtain ⟨node, hnode⟩ := Option.isSome_iff_exists.1 hsome
  have hlanding := eq_landing_of_locate hlocate
  have hfind : tree.find (writeNames names) = .ok node :=
    find_eq_ok_iff.2 ⟨hfault, hlanding ▸ hlocate, hlanding ▸ hnode⟩
  rw [exists?, find?, hfind]
  rfl

/-- The canonical path has no mark of a long path before it. -/
theorem clean_writeNames (names : List String) : Path.clean (writeNames names) = writeNames names := by
  have hstrip : Text.stripStart? "\\\\?\\".toList (writeNames names).toList = none := by
    rw [writeNames, String.toList_append]
    rfl
  rw [Path.clean, hstrip, Option.getD_none, String.ofList_toList]

end FileTree

/-- The directory that is kept of a corpus is there if the corpus is, unless its path is too long to be looked
up. -/
theorem Cache.exists?_canonicalRoot {tree : FileTree} {root : String} (h : tree.root.WellNamed)
    (hroot : tree.exists? root = true)
    (hlength : (canonicalRoot tree root).utf8ByteSize ≤ Path.maxLength) :
    tree.exists? (canonicalRoot tree root) = true := by
  obtain ⟨node, hnode⟩ := Option.isSome_iff_exists.1 hroot
  obtain ⟨-, hlocate, hfollow⟩ := FileTree.find_eq_ok_iff.1 (toOption_eq_some.1 hnode)
  have hcanonical : canonicalRoot tree root =
      FileTree.writeNames (FileTree.landing tree.workingDirectory root) := by
    rw [canonicalRoot, FileTree.canonical?, hlocate]
    exact FileTree.clean_writeNames _
  rw [hcanonical] at hlength ⊢
  exact FileTree.exists?_writeNames h (FileTree.isDirectory_of_locate hlocate) (by rw [hfollow]; rfl) hlength

end Concordance
