import Concordance.FileTree
import Concordance.Proofs.Outcomes
import Concordance.Proofs.SortedMaps
import Concordance.Proofs.Trimming

/-!
# Where paths lead

What a path asks for is told by the path and the working directory alone (`landing`): whenever it leads
to something, or something can be put there, that is where. Making directories takes nothing away and
adds no files (`Grows`).
-/

namespace Concordance

namespace FileNode

/-! ### Entries -/

@[simp] theorem lookup_alterEntry_self (name : String) (change : Option FileNode → FileNode)
    (entries : List (String × FileNode)) :
    (alterEntry name (fun old => some (change old)) entries).lookup name =
      some (change (entries.lookup name)) := by
  induction entries with
  | nil => exact List.lookup_cons_self
  | cons entry rest ih =>
      obtain ⟨n, node⟩ := entry
      rw [alterEntry]
      split
      · next heq =>
        subst heq
        rw [List.lookup_cons_self]
        exact List.lookup_cons_self
      · next hne =>
        rw [SortedMap.lookup_cons_of_ne (Ne.symm hne), SortedMap.lookup_cons_of_ne (Ne.symm hne), ih]

/-- The other entries of a directory stay as they are. -/
theorem lookup_alterEntry_of_ne {name other : String} (h : other ≠ name)
    (change : Option FileNode → Option FileNode) (entries : List (String × FileNode)) :
    (alterEntry name change entries).lookup other = entries.lookup other := by
  -- whatever the change makes of the entry, it is not looked up under another name
  have hchanged (node : Option FileNode) (rest : List (String × FileNode)) :
      ((node.map fun node => (name, node)).toList ++ rest).lookup other = rest.lookup other := by
    cases node with
    | none => rfl
    | some node => exact SortedMap.lookup_cons_of_ne h node rest
  induction entries with
  | nil =>
      have hnil := hchanged (change none) []
      rwa [List.append_nil] at hnil
  | cons entry rest ih =>
      obtain ⟨n, node⟩ := entry
      rw [alterEntry]
      split
      · next heq =>
        subst heq
        rw [hchanged, SortedMap.lookup_cons_of_ne h]
      · by_cases hn : other = n
        · subst hn
          rw [List.lookup_cons_self, List.lookup_cons_self]
        · rw [SortedMap.lookup_cons_of_ne hn, SortedMap.lookup_cons_of_ne hn, ih]

@[simp] theorem entries_directory (entries : List (String × FileNode)) :
    (FileNode.directory entries).entries = entries :=
  rfl

/-! ### Following names -/

/-- Names are followed one after the other. -/
theorem follow?_append (names more : List String) (node : FileNode) :
    node.follow? (names ++ more) = (node.follow? names).bind fun found => found.follow? more := by
  induction names generalizing node with
  | nil => rfl
  | cons name rest ih =>
      rw [List.cons_append, follow?, follow?]
      cases node.entry? name with
      | none => rfl
      | some child => exact ih child

/-- One name more is an entry of the directory that is there. -/
theorem follow?_concat {names : List String} {node : FileNode} {entries : List (String × FileNode)}
    (h : node.follow? names = some (.directory entries)) (name : String) :
    node.follow? (names ++ [name]) = entries.lookup name := by
  rw [follow?_append, h, Option.bind_some, follow?, entry?, entries_directory]
  cases entries.lookup name <;> rfl

/-- Something that was put is found there. -/
@[simp] theorem follow?_put_self (new : FileNode) (names : List String) (node : FileNode) :
    (put new names node).follow? names = some new := by
  induction names generalizing node with
  | nil => rfl
  | cons name rest ih =>
      rw [put, follow?, entry?, entries, lookup_alterEntry_self]
      exact ih _

/-! ### Growing -/

/-- What is found afterwards for what was found before: something for something, a directory for a
directory, and no file that was not there. -/
structure Covers (before after : Option FileNode) : Prop where
  isSome : before.isSome → after.isSome
  isDirectory : before.map FileNode.isDirectory = some true → after.map FileNode.isDirectory = some true
  file : ∀ file, after = some (.file file) → before = some (.file file)

/-- `after` has everything that `before` has, and no file that `before` has not. -/
def Grows (before after : FileNode) : Prop :=
  ∀ names, Covers (before.follow? names) (after.follow? names)

theorem Covers.refl (found : Option FileNode) : Covers found found :=
  ⟨id, id, fun _ => id⟩

/-- A directory covers everything. -/
theorem covers_directory (before : Option FileNode) (entries : List (String × FileNode)) :
    Covers before (some (.directory entries)) where
  isSome _ := rfl
  isDirectory _ := rfl
  file _ h := by cases h

theorem Grows.refl (node : FileNode) : Grows node node :=
  fun names => .refl (node.follow? names)

theorem Grows.trans {a b c : FileNode} (hab : Grows a b) (hbc : Grows b c) : Grows a c := fun names =>
  ⟨(hbc names).isSome ∘ (hab names).isSome, (hbc names).isDirectory ∘ (hab names).isDirectory,
    fun file h => (hab names).file file ((hbc names).file file h)⟩

/-- `after` has something wherever `before` has, and a directory wherever `before` has one. -/
structure Retains (before after : FileNode) : Prop where
  isSome : ∀ names, (before.follow? names).isSome → (after.follow? names).isSome
  isDirectory : ∀ names, (before.follow? names).map FileNode.isDirectory = some true →
    (after.follow? names).map FileNode.isDirectory = some true

theorem Grows.retains {before after : FileNode} (h : Grows before after) : Retains before after :=
  ⟨fun names => (h names).isSome, fun names => (h names).isDirectory⟩

/-- A directory stays one. -/
theorem Retains.directory {before after : FileNode} (h : Retains before after) {names : List String}
    {entries : List (String × FileNode)} (hfollow : before.follow? names = some (.directory entries)) :
    ∃ more, after.follow? names = some (.directory more) := by
  have hafter := h.isDirectory names (by rw [hfollow]; rfl)
  obtain ⟨node, hnode, hkind⟩ := Option.map_eq_some_iff.1 hafter
  cases node with
  | file file => cases hkind
  | directory more => exact ⟨more, hnode⟩

/-- There is no file in an empty directory. -/
theorem follow?_empty_ne_file (names : List String) (file : File) :
    FileNode.empty.follow? names ≠ some (.file file) := by
  cases names with
  | nil => exact fun h => by cases h
  | cons name rest => exact fun h => by cases h

/-- A tree grows by a change of an entry if the entry grows; one that was missing may become anything
without files. -/
theorem grows_alterEntry {name : String} {node : FileNode} {change : Option FileNode → FileNode}
    (hnone : node.entry? name = none → ∀ names file, (change none).follow? names ≠ some (.file file))
    (hsome : ∀ child, node.entry? name = some child → Grows child (change (some child))) :
    Grows node (.directory (alterEntry name (fun old => some (change old)) node.entries)) := by
  rintro (_ | ⟨n, rest⟩)
  · exact covers_directory _ _
  · by_cases hn : n = name
    · subst hn
      simp only [follow?, entry?, entries_directory, lookup_alterEntry_self, Option.bind_some]
      cases hentry : node.entries.lookup n with
      | none =>
        refine ⟨fun h => (by cases h), fun h => (by cases h), fun file hfile => ?_⟩
        exact absurd hfile (hnone hentry rest file)
      | some child => exact hsome child hentry rest
    · simp only [follow?, entry?, entries_directory, lookup_alterEntry_of_ne hn]
      exact .refl _

/-- An empty directory where nothing was. -/
theorem grows_put_empty {names : List String} {node : FileNode} (h : node.follow? names = none) :
    Grows node (put .empty names node) := by
  induction names generalizing node with
  | nil => cases h
  | cons name rest ih =>
      rw [put]
      refine grows_alterEntry ?_ ?_
      · -- what is put there holds nothing but directories
        intro _ names file hfile
        cases rest with
        | nil => exact follow?_empty_ne_file names file hfile
        | cons n rest => exact follow?_empty_ne_file names file ((ih rfl names).file file hfile)
      · intro child hchild
        rw [follow?, hchild] at h
        exact ih h

/-- A file may take the place of anything but a directory. -/
theorem retains_put_file {file : File} {names : List String} {node : FileNode}
    (h : (node.follow? names).map FileNode.isDirectory ≠ some true) :
    Retains node (put (.file file) names node) := by
  induction names generalizing node with
  | nil =>
      cases node with
      | directory entries => exact absurd rfl h
      | file old =>
          -- nothing lies below a file
          constructor <;> rintro (_ | ⟨name, rest⟩) <;> simp [follow?, entry?, entries, put, isDirectory]
  | cons name rest ih =>
      have hplace : ∀ more, ((node.follow? more).isSome →
            ((put (.file file) (name :: rest) node).follow? more).isSome) ∧
          ((node.follow? more).map isDirectory = some true →
            ((put (.file file) (name :: rest) node).follow? more).map isDirectory = some true) := by
        rintro (_ | ⟨n, more⟩)
        · exact ⟨fun _ => rfl, fun _ => rfl⟩
        · by_cases hn : n = name
          · subst hn
            simp only [put, follow?, entry?, entries_directory, lookup_alterEntry_self,
              Option.bind_some]
            cases hentry : node.entries.lookup n with
            | none => simp
            | some child =>
                have hchild := @ih child (by simpa [follow?, entry?, hentry] using h)
                exact ⟨hchild.isSome more, hchild.isDirectory more⟩
          · simp only [put, follow?, entry?, entries_directory, lookup_alterEntry_of_ne hn]
            exact ⟨id, id⟩
      exact ⟨fun more => (hplace more).1, fun more => (hplace more).2⟩

/-- What was put lies in a directory. -/
theorem follow?_put_concat (new : FileNode) (names : List String) (name : String) (node : FileNode) :
    ∃ entries, (put new (names ++ [name]) node).follow? names = some (.directory entries) := by
  induction names generalizing node with
  | nil => exact ⟨_, rfl⟩
  | cons n rest ih =>
      obtain ⟨entries, hentries⟩ := ih ((node.entries.lookup n).getD empty)
      exact ⟨entries, by
        rw [List.cons_append, put, follow?, entry?, entries_directory, lookup_alterEntry_self]
        exact hentries⟩

end FileNode

namespace FileTree

variable {tree : FileTree} {root : FileNode} {names found : List String}

/-! ### Where paths lead -/

/-- Where a part of a path leads if nothing is in the way. -/
def move (names : List String) : PathPart → List String
  | .root => []
  | .here => names
  | .up => names.dropLast
  | .name name => names ++ [name]

/-- Where a path leads if nothing is in the way. -/
def landing (working : List String) (path : String) : List String :=
  (Path.steps path).foldl move working

/-- All that a part of a path asks for: a directory to start from, unless it begins at the root, and the
entry of a name in it. -/
theorem step_eq_ok_iff {part : PathPart} :
    step root names part = .ok found ↔ found = move names part ∧
      (part ≠ .root → (root.follow? names).map FileNode.isDirectory = some true) ∧
      ∀ name, part = .name name →
        name.utf8ByteSize ≤ Path.maxNameLength ∧ (root.follow? (names ++ [name])).isSome := by
  cases part with
  | root => simp [step, move]
  | here =>
    rcases hfollow : root.follow? names with _ | file | entries <;>
      simp [step, move, hfollow, FileNode.isDirectory, eq_comm (a := found)]
  | up =>
    rcases hfollow : root.follow? names with _ | file | entries <;>
      simp [step, move, hfollow, FileNode.isDirectory, eq_comm (a := found)]
  | name name =>
    rcases hfollow : root.follow? names with _ | file | entries
    · simp [step, hfollow]
    · simp [step, hfollow, FileNode.isDirectory]
    · have hplace := FileNode.follow?_concat hfollow name
      by_cases hshort : name.utf8ByteSize ≤ Path.maxNameLength
      · cases hentry : entries.lookup name <;> rw [hentry] at hplace <;>
          simp [step, hfollow, hplace, hshort, Nat.not_lt.2 hshort, move, FileNode.isDirectory, hentry,
            eq_comm (a := found)]
      · simp [step, hfollow, hshort, Nat.not_le.1 hshort]

theorem eq_move_of_step {part : PathPart} (h : step root names part = .ok found) :
    found = move names part :=
  (step_eq_ok_iff.1 h).1

/-- A way that can be gone leads where its parts lead when nothing is in the way. -/
theorem eq_foldl_move_of_foldlM {parts : List PathPart} (h : parts.foldlM (step root) names = .ok found) :
    found = parts.foldl move names := by
  induction parts generalizing names with
  | nil =>
    cases h
    rfl
  | cons part parts ih =>
      rw [List.foldlM_cons] at h
      obtain ⟨next, hstep, hrest⟩ := bind_eq_ok.1 h
      rw [List.foldl_cons, ← eq_move_of_step hstep]
      exact ih hrest

/-- What a path leads to is where it leads. -/
theorem eq_landing_of_locate {path : String} (h : tree.locate path = .ok names) :
    names = landing tree.workingDirectory path := by
  rw [locate] at h
  split at h
  · cases h
  · exact eq_foldl_move_of_foldlM h

/-- A path with a slash in it takes the steps of its parent, and one more. -/
theorem steps_of_splitLast? {path : String} {before name : List Char}
    (h : Text.splitLast? '/' path.toList = some (before, name)) :
    ∃ first, Path.steps path = first ++ [Path.piece name] ∧
      Path.steps (String.ofList (before ++ ['/'])) = first ++ [.here] := by
  obtain ⟨hpath, hname⟩ := Text.splitLast?_eq_some_iff.1 h
  have hpieces : Text.splitBy (· == '/') name = [name] := by
    apply Text.splitBy_of_none
    intro c hc
    rw [beq_eq_false_iff_ne]
    exact fun heq => hname (heq ▸ hc)
  have habsolute : Path.isAbsolute path = Path.isAbsolute (String.ofList (before ++ ['/'])) := by
    rw [Path.isAbsolute, Path.isAbsolute, hpath, String.toList_ofList]
    cases before <;> rfl
  have hsplit : ∀ after, Text.splitBy (· == '/') (before ++ '/' :: after) =
      Text.splitBy (· == '/') before ++ Text.splitBy (· == '/') after :=
    Text.splitBy_append_cons rfl before
  -- The piece behind the last slash of the parent is empty and leads nowhere else.
  have hhere : Path.piece [] = .here := rfl
  rw [Path.steps, Path.steps, habsolute, Path.pieces, Path.pieces, Text.splitAt, Text.splitAt, hpath,
    String.toList_ofList, hsplit, hsplit, hpieces, Text.splitBy, List.map_append, List.map_append,
    ← List.append_assoc, ← List.append_assoc]
  exact ⟨_, rfl, by rw [List.map_singleton, hhere]⟩

/-- A path without a slash is one step. -/
theorem steps_of_splitLast?_eq_none {path : String} (h : Text.splitLast? '/' path.toList = none) :
    Path.steps path = [Path.piece path.toList] := by
  have hnone := Text.not_mem_of_splitLast?_eq_none h
  have hpieces : Text.splitBy (· == '/') path.toList = [path.toList] := by
    apply Text.splitBy_of_none
    intro c hc
    rw [beq_eq_false_iff_ne]
    exact fun heq => hnone (heq ▸ hc)
  have habsolute : Path.isAbsolute path = false := by
    rw [Path.isAbsolute]
    cases hpath : path.toList with
    | nil => rfl
    | cons c rest =>
      rw [hpath] at hnone
      simpa using (List.ne_and_not_mem_of_not_mem_cons hnone).1.symm
  rw [Path.steps, habsolute, Path.pieces, Text.splitAt, hpieces]
  rfl

/-- A place that a path asks for is one name below what its other steps lead to. -/
theorem place_eq_ok {path : String} (h : tree.place path = .ok names) :
    PathFault.ofText? path = none ∧ ∃ first above name, Path.steps path = first ++ [.name name] ∧
      first.foldlM (step tree.root) tree.workingDirectory = .ok above ∧
      name.utf8ByteSize ≤ Path.maxNameLength ∧ names = above ++ [name] := by
  rw [place] at h
  split at h
  · cases h
  · next name hfault hpiece =>
    refine ⟨hfault, ?_⟩
    split at h
    · cases h
    · next hshort =>
      cases hsplit : Text.splitLast? '/' path.toList with
      | none =>
        rw [Path.splitName, hsplit] at hpiece
        rw [Path.parent, Path.splitName, hsplit] at h
        cases h
        exact ⟨[], _, name, by rw [steps_of_splitLast?_eq_none hsplit, hpiece]; rfl, rfl,
          Nat.not_lt.1 hshort, rfl⟩
      | some parts =>
        obtain ⟨before, last⟩ := parts
        rw [Path.splitName, hsplit] at hpiece
        rw [Path.parent, Path.splitName, hsplit] at h
        obtain ⟨first, hsteps, hfirst⟩ := steps_of_splitLast? hsplit
        have hne : ¬(String.ofList (before ++ ['/'])).isEmpty = true := by simp
        change (if (String.ofList (before ++ ['/'])).isEmpty = true then _ else _) = _ at h
        rw [if_neg hne] at h
        obtain ⟨above, hlocate, rfl⟩ := map_eq_ok.1 h
        change tree.locate (String.ofList (before ++ ['/'])) = _ at hlocate
        rw [locate, if_neg hne, hfirst, List.foldlM_append] at hlocate
        -- the last step of the parent stays where it is
        obtain ⟨reached, hreached, hhere⟩ := bind_eq_ok.1 hlocate
        obtain ⟨stayed, hstay, hnil⟩ := bind_eq_ok.1 hhere
        cases hnil
        have hstayed : above = reached := eq_move_of_step hstay
        exact ⟨first, above, name, by rw [hsteps, hpiece], by rw [hreached, hstayed],
          Nat.not_lt.1 hshort, rfl⟩
  · cases h

/-- The place that a path asks for is where it leads. -/
theorem eq_landing_of_place {path : String} (h : tree.place path = .ok names) :
    names = landing tree.workingDirectory path := by
  obtain ⟨-, first, above, name, hsteps, hfirst, -, rfl⟩ := place_eq_ok h
  rw [landing, hsteps, List.foldl_concat, eq_foldl_move_of_foldlM hfirst]
  rfl

/-- Something is found at a path that serves, if it is where the path leads. -/
theorem find_eq_ok_iff {path : String} {node : FileNode} :
    tree.find path = .ok node ↔ PathFault.ofText? path = none ∧
      tree.locate path = .ok (landing tree.workingDirectory path) ∧
      tree.root.follow? (landing tree.workingDirectory path) = some node := by
  rw [find]
  cases PathFault.ofText? path with
  | some fault => simp
  | none =>
    constructor
    · intro h
      obtain ⟨names, hlocate, h⟩ := bind_eq_ok.1 h
      rw [← eq_landing_of_locate hlocate]
      split at h
      · next hfollow =>
        cases h
        exact ⟨rfl, hlocate, hfollow⟩
      · cases h
    · rintro ⟨-, hlocate, hfollow⟩
      refine bind_eq_ok.2 ⟨_, hlocate, ?_⟩
      simp only [hfollow]

/-- A path that leads to a directory leads there whatever grows around it. -/
theorem locate_of_isDirectory {path : String} (h : tree.isDirectory path = true) :
    tree.locate path = .ok (landing tree.workingDirectory path) := by
  cases hfind : tree.find path with
  | ok node => exact (find_eq_ok_iff.1 hfind).2.1
  | error fault =>
    rw [isDirectory, find?, hfind] at h
    cases h

/-- What is found at a path is at the place that the path leads to. -/
theorem follow?_of_find {path : String} {node : FileNode} (h : tree.find path = .ok node) :
    tree.root.follow? (landing tree.workingDirectory path) = some node :=
  (find_eq_ok_iff.1 h).2.2

/-- A file that was written is at the place that its path leads to. -/
theorem follow?_of_write {path : String} {file : File} {after : FileTree}
    (h : tree.write path file = .ok after) :
    after.workingDirectory = tree.workingDirectory ∧
      after.root.follow? (landing tree.workingDirectory path) = some (.file file) := by
  rw [write] at h
  obtain ⟨names, hplace, h⟩ := bind_eq_ok.1 h
  rw [← eq_landing_of_place hplace]
  split at h
  · cases h
  · cases h
    exact ⟨rfl, FileNode.follow?_put_self _ _ _⟩

/-! ### Where nothing is taken away -/

/-- A step can still be taken where everything that led on is still there. -/
theorem step_of_retains {after : FileNode} (hretains : root.Retains after) {part : PathPart}
    (h : step root names part = .ok found) : step after names part = .ok found := by
  obtain ⟨hfound, hstart, hname⟩ := step_eq_ok_iff.1 h
  refine step_eq_ok_iff.2 ⟨hfound, fun hpart => hretains.isDirectory names (hstart hpart), ?_⟩
  intro name hpart
  obtain ⟨hshort, hentry⟩ := hname name hpart
  -- the entry is still there, whatever it has become
  exact ⟨hshort, hretains.isSome _ hentry⟩

/-- A way that could be gone before something was added can be gone afterwards, and leads to the same place. -/
theorem foldlM_step_of_retains {after : FileNode} (hretains : root.Retains after)
    {parts : List PathPart}
    (h : parts.foldlM (step root) names = .ok found) : parts.foldlM (step after) names = .ok found := by
  induction parts generalizing names with
  | nil => exact h
  | cons part parts ih =>
      rw [List.foldlM_cons] at h ⊢
      obtain ⟨next, hstep, hrest⟩ := bind_eq_ok.1 h
      rw [step_of_retains hretains hstep]
      exact ih hrest

/-- What a path leads to stays where it is while nothing is taken away. -/
theorem locate_of_retains {after : FileTree} (hretains : tree.root.Retains after.root)
    (hworking : after.workingDirectory = tree.workingDirectory) {path : String}
    (h : tree.locate path = .ok names) : after.locate path = .ok names := by
  rw [locate] at h ⊢
  split at h
  · cases h
  · next hne =>
    rw [if_neg hne, hworking]
    exact foldlM_step_of_retains hretains h

/-! ### Writing files -/

/-- A file is written where a path leads, and not in the place of a directory. -/
theorem write_eq_ok {path : String} {file : File} {after : FileTree}
    (h : tree.write path file = .ok after) :
    ∃ names, tree.place path = .ok names ∧
      (tree.root.follow? names).map FileNode.isDirectory ≠ some true ∧
      after = { tree with root := FileNode.put (.file file) names tree.root } := by
  rw [write] at h
  obtain ⟨names, hplace, h⟩ := bind_eq_ok.1 h
  split at h
  · cases h
  · next hdirectory =>
    cases h
    refine ⟨names, hplace, fun hsome => hdirectory ?_, rfl⟩
    rw [hsome, Option.getD_some]

/-- Writing a file takes nothing else away. -/
theorem retains_write {path : String} {file : File} {after : FileTree}
    (h : tree.write path file = .ok after) : tree.root.Retains after.root := by
  obtain ⟨names, -, hdirectory, rfl⟩ := write_eq_ok h
  exact FileNode.retains_put_file hdirectory

/-- A file that was written is found where it was written. -/
theorem find_of_write {path : String} {file : File} {after : FileTree}
    (h : tree.write path file = .ok after) : after.find path = .ok (.file file) := by
  have hretains := retains_write h
  obtain ⟨names, hplace, -, rfl⟩ := write_eq_ok h
  obtain ⟨hfault, first, above, name, hsteps, hfirst, hshort, rfl⟩ := place_eq_ok hplace
  have hfollow := FileNode.follow?_put_self (.file file) (above ++ [name]) tree.root
  obtain ⟨entries, hentries⟩ := FileNode.follow?_put_concat (.file file) above name tree.root
  have hentry := FileNode.follow?_concat hentries name
  rw [hfollow] at hentry
  -- the directory above the file is still there, and the last part leads from it to the file
  have hlast : step (FileNode.put (.file file) (above ++ [name]) tree.root) above (.name name) =
      .ok (above ++ [name]) := by
    simp only [step, hentries]
    rw [if_neg (Nat.not_lt.2 hshort), ← hentry]
    rfl
  have hlocate : FileTree.locate { tree with
      root := FileNode.put (.file file) (above ++ [name]) tree.root } path = .ok (above ++ [name]) := by
    have hne : ¬path.isEmpty = true := by
      intro hempty
      rw [PathFault.ofText?, if_pos hempty] at hfault
      cases hfault
    rw [locate, if_neg hne, hsteps, List.foldlM_append]
    exact bind_eq_ok.2 ⟨above, foldlM_step_of_retains hretains hfirst, by
      rw [List.foldlM_cons, hlast]
      rfl⟩
  rw [find, hfault]
  refine bind_eq_ok.2 ⟨above ++ [name], hlocate, ?_⟩
  simp only [hfollow]

/-! ### Making directories -/

/-- What a missing name asks for is nowhere. -/
theorem follow?_eq_none_of_step {name : String} (h : step root names (.name name) = .error .missing) :
    root.follow? (names ++ [name]) = none := by
  cases hfollow : root.follow? names with
  | none =>
    rw [FileNode.follow?_append, hfollow]
    rfl
  | some node =>
    simp only [step, hfollow] at h
    cases node with
    | file file => cases h
    | directory entries =>
      rw [FileNode.follow?_concat hfollow]
      simp only at h
      split at h
      · cases h
      · split at h
        · cases h
        · next hentry => exact Option.not_isSome_iff_eq_none.1 hentry

/-- Making a directory on the way adds to the files and takes nothing away. -/
theorem grows_makeStep (state : FileNode × Option (List String)) (part : PathPart) :
    state.1.Grows (makeStep state part).1 := by
  obtain ⟨root, names⟩ := state
  cases names with
  | none => exact .refl root
  | some names =>
    unfold makeStep
    simp only
    split
    · exact .refl root
    · next hmissing => exact FileNode.grows_put_empty (follow?_eq_none_of_step hmissing)
    · exact .refl root

theorem grows_foldl_makeStep (parts : List PathPart) (state : FileNode × Option (List String)) :
    state.1.Grows (parts.foldl makeStep state).1 := by
  induction parts generalizing state with
  | nil => exact .refl state.1
  | cons part parts ih => exact (grows_makeStep state part).trans (ih (makeStep state part))

/-- Making a directory takes nothing away and adds no file. -/
theorem grows_makeDirectory (tree : FileTree) (path : String) :
    tree.root.Grows (tree.makeDirectory path).root := by
  rw [makeDirectory]
  split
  · exact .refl tree.root
  · exact grows_foldl_makeStep _ (tree.root, some tree.workingDirectory)

@[simp] theorem workingDirectory_makeDirectory (tree : FileTree) (path : String) :
    (tree.makeDirectory path).workingDirectory = tree.workingDirectory := by
  rw [makeDirectory]
  split <;> rfl

end FileTree

end Concordance
