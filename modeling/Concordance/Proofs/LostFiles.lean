import Concordance.Proofs.NamedPaths

/-!
# Trees that lost files

What a tree holds is told by what is at each place: nothing, a directory, or a file (`FileNode.look`). A tree
that lost files has nothing in their places and all the rest as it was (`FileTree.Lost`), so every path that
does not lead to one of them leads to the same as before. To remove a file is to lose it and nothing else, as
the entries of a directory have different names (`FileNode.WellNamed`).
-/

namespace Concordance

namespace FileNode

/-! ### Changed entries -/

section Entries

variable {name : String} {change : Option FileNode → Option FileNode} {entries : List (String × FileNode)}

/-- At the name itself stands what the entry was changed to. -/
theorem lookup_alterEntry (hnodup : (entries.map Prod.fst).Nodup) :
    (alterEntry name change entries).lookup name = change (entries.lookup name) := by
  induction entries with
  | nil =>
      rw [alterEntry, List.lookup_nil]
      cases change none with
      | none => rfl
      | some node => exact List.lookup_cons_self
  | cons entry rest ih =>
      obtain ⟨n, node⟩ := entry
      obtain ⟨hfirst, hrest⟩ := List.nodup_cons.1 hnodup
      rw [alterEntry]
      split
      · next heq =>
        subst heq
        rw [List.lookup_cons_self]
        cases change (some node) with
        | some new => exact List.lookup_cons_self
        | none =>
          -- no other entry has this name
          show rest.lookup n = none
          refine List.lookup_eq_none_iff.2 fun entry hentry => ?_
          rw [bne_iff_ne]
          rintro rfl
          exact hfirst (List.mem_map.2 ⟨entry, hentry, rfl⟩)
      · next hne =>
        rw [SortedMap.lookup_cons_of_ne (Ne.symm hne), SortedMap.lookup_cons_of_ne (Ne.symm hne), ih hrest]

/-- A change that adds nothing keeps the names or leaves one out. -/
theorem map_fst_alterEntry_sublist (hnone : change none = none) :
    ((alterEntry name change entries).map Prod.fst).Sublist (entries.map Prod.fst) := by
  induction entries with
  | nil =>
      rw [alterEntry, hnone]
      exact List.Sublist.refl _
  | cons entry rest ih =>
      obtain ⟨n, node⟩ := entry
      rw [alterEntry]
      split
      · next heq =>
        subst heq
        cases change (some node) with
        | none => exact List.sublist_cons_self _ _
        | some new => exact List.Sublist.refl _
      · exact ih.cons_cons n

/-- The entries after a change that adds nothing are those before, or what one of them was changed to. -/
theorem mem_alterEntry (hnone : change none = none) {entry : String × FileNode}
    (h : entry ∈ alterEntry name change entries) :
    entry ∈ entries ∨ ∃ old, (name, old) ∈ entries ∧ entry.1 = name ∧ change (some old) = some entry.2 := by
  induction entries with
  | nil =>
      rw [alterEntry, hnone] at h
      cases h
  | cons first rest ih =>
      obtain ⟨n, node⟩ := first
      rw [alterEntry] at h
      split at h
      · -- the entry that is changed: it stays under its name or goes
        next heq =>
        subst heq
        rcases List.mem_append.1 h with hchanged | hrest
        · obtain ⟨new, hnew, rfl⟩ := Option.map_eq_some_iff.1 (Option.mem_toList.1 hchanged)
          exact .inr ⟨node, List.mem_cons_self, rfl, hnew⟩
        · exact .inl (List.mem_cons_of_mem _ hrest)
      · rcases List.mem_cons.1 h with rfl | hrest
        · exact .inl List.mem_cons_self
        · rcases ih hrest with hentry | ⟨old, hold, hchanged⟩
          · exact .inl (List.mem_cons_of_mem _ hentry)
          · exact .inr ⟨old, List.mem_cons_of_mem _ hold, hchanged⟩

end Entries

/-! ### Removing a file -/

variable {node : FileNode} {names : List String} {file : File}

/-- What is in a place: nothing, a directory, or a file. -/
def look (names : List String) (node : FileNode) : Option (Option File) :=
  (node.follow? names).map FileNode.file?

theorem look_cons (name : String) (names : List String) (node : FileNode) :
    node.look (name :: names) = (node.entries.lookup name).bind (look names) :=
  Option.map_bind

theorem look_eq_some_none_iff :
    node.look names = some none ↔ (node.follow? names).map FileNode.isDirectory = some true := by
  rw [look]
  rcases node.follow? names with _ | file | entries <;> simp [file?, isDirectory]

theorem look_eq_some_some_iff :
    node.look names = some (some file) ↔ node.follow? names = some (.file file) := by
  rw [look]
  rcases node.follow? names with _ | file | entries <;> simp [file?]

theorem isSome_look : (node.look names).isSome = (node.follow? names).isSome :=
  Option.isSome_map

/-- Nothing lies below a file. -/
theorem look_file (file : File) (names : List String) :
    (FileNode.file file).look names = if names = [] then some (some file) else none := by
  cases names <;> rfl

/-- What becomes of the entry that the way of a removal begins with, where `names` are left to go. -/
def pruned (names : List String) (entry : Option FileNode) : Option FileNode :=
  if names = [] then none else entry.map (remove names)

@[simp] theorem pruned_none (names : List String) : pruned names none = none := by
  rw [pruned]
  split <;> rfl

theorem remove_cons (name : String) (names : List String) (node : FileNode) :
    remove (name :: names) node = .directory (alterEntry name (pruned names) node.entries) := by
  cases names <;> rfl

/-- A file that is removed is gone, and nothing else is. -/
theorem look_remove (h : node.WellNamed) (hne : names ≠ []) (hfile : node.follow? names = some (.file file))
    (place : List String) :
    (remove names node).look place = if place = names then none else node.look place := by
  induction names generalizing node place with
  | nil => exact absurd rfl hne
  | cons name names ih =>
      obtain ⟨child, hchild, hfound⟩ := Option.bind_eq_some_iff.1 hfile
      cases place with
      | nil =>
          -- only directories have entries
          cases node with
          | file file => cases hchild
          | directory entries =>
              rw [remove_cons]
              rfl
      | cons n place =>
          rw [remove_cons, look_cons, look_cons, entries_directory]
          by_cases hn : n = name
          · subst hn
            rw [lookup_alterEntry h.nodup, show node.entries.lookup n = some child from hchild]
            by_cases hlast : names = []
            · subst hlast
              obtain rfl : child = .file file := Option.some.inj hfound
              by_cases hplace : place = [] <;> simp [pruned, look_file, hplace]
            · have hbelow := ih (h.child (SortedMap.mem_of_lookup_eq_some hchild)) hlast hfound place
              simp [pruned, hlast, hbelow]
          · rw [lookup_alterEntry_of_ne hn, if_neg (by simp [hn])]

/-- A removal leaves every entry its name. -/
theorem WellNamed.remove (h : node.WellNamed) (names : List String) : (node.remove names).WellNamed := by
  induction names generalizing node with
  | nil => exact h
  | cons name names ih =>
      have hnone := pruned_none names
      rw [remove_cons]
      refine .directory (h.nodup.sublist (map_fst_alterEntry_sublist hnone)) ?_ ?_
      · intro entry hentry
        rcases mem_alterEntry hnone hentry with hold | ⟨old, hold, hname, -⟩
        · exact h.proper hold
        · rw [hname]
          exact h.proper hold
      · intro entry hentry
        -- an entry that is left is as it was, or has lost something further down
        rcases mem_alterEntry hnone hentry with hold | ⟨old, hold, -, hnew⟩
        · exact h.child hold
        · rw [pruned] at hnew
          split at hnew
          · cases hnew
          · rw [← Option.some.inj hnew]
            exact ih (h.child hold)

end FileNode

namespace FileTree

variable {tree before after : FileTree} {gone : List (List String)} {names found : List String} {path : String}

/-! ### What is seen along a path -/

/-- What a path leads to: nothing, a directory, or a file. -/
def seen (tree : FileTree) (path : String) : Option (Option File) :=
  (tree.find? path).map FileNode.file?

/-- Something is seen at a path if the path is in order and leads to its landing, and something is there. -/
theorem seen_eq_some_iff {found : Option File} :
    tree.seen path = some found ↔ PathFault.ofText? path = none ∧
      tree.locate path = .ok (landing tree.workingDirectory path) ∧
      tree.root.look (landing tree.workingDirectory path) = some found := by
  rw [seen, Option.map_eq_some_iff, FileNode.look]
  constructor
  · rintro ⟨node, hnode, rfl⟩
    obtain ⟨hfault, hlocate, hfollow⟩ := find_eq_ok_iff.1 (toOption_eq_some.1 hnode)
    exact ⟨hfault, hlocate, by rw [hfollow]; rfl⟩
  · rintro ⟨hfault, hlocate, hlook⟩
    obtain ⟨node, hnode, hfile⟩ := Option.map_eq_some_iff.1 hlook
    exact ⟨node, toOption_eq_some.2 (find_eq_ok_iff.2 ⟨hfault, hlocate, hnode⟩), hfile⟩

theorem exists?_eq_isSome_seen : tree.exists? path = (tree.seen path).isSome :=
  Option.isSome_map.symm

theorem file?_eq_some_iff {file : File} :
    tree.file? path = some file ↔ tree.seen path = some (some file) := by
  rw [file?, seen]
  cases tree.find? path <;> simp

/-! ### Losing files -/

/-- What remains if there is nothing any more in the places of some files. -/
structure Lost (before after : FileTree) (gone : List (List String)) : Prop where
  workingDirectory : after.workingDirectory = before.workingDirectory
  files : ∀ names ∈ gone, ∃ file, before.root.follow? names = some (.file file)
  look : ∀ names, after.root.look names = if names ∈ gone then none else before.root.look names

namespace Lost

theorem refl (tree : FileTree) : Lost tree tree [] :=
  ⟨rfl, by simp, by simp⟩

theorem look_of_not_mem (h : Lost before after gone) (hnames : names ∉ gone) :
    after.root.look names = before.root.look names :=
  (h.look names).trans (if_neg hnames)

/-- No directory is lost. -/
theorem not_mem_of_isDirectory (h : Lost before after gone)
    (hdirectory : (before.root.follow? names).map FileNode.isDirectory = some true) : names ∉ gone := by
  intro hgone
  obtain ⟨file, hfile⟩ := h.files names hgone
  rw [hfile] at hdirectory
  cases hdirectory

/-- Nothing is there that was not there before. -/
theorem retains (h : Lost before after gone) : after.root.Retains before.root where
  isSome names hsome := by
    rw [← FileNode.isSome_look, h.look] at hsome
    rw [← FileNode.isSome_look]
    split at hsome
    · cases hsome
    · exact hsome
  isDirectory names hdirectory := by
    rw [← FileNode.look_eq_some_none_iff, h.look] at hdirectory
    rw [← FileNode.look_eq_some_none_iff]
    split at hdirectory
    · cases hdirectory
    · exact hdirectory

/-- A step that did not lead to one of the lost files can still be taken. -/
theorem step (h : Lost before after gone) {part : PathPart}
    (hstep : FileTree.step before.root names part = .ok found) (hkept : found ∉ gone) :
    FileTree.step after.root names part = .ok found := by
  obtain ⟨hfound, hstart, hname⟩ := step_eq_ok_iff.1 hstep
  refine step_eq_ok_iff.2 ⟨hfound, ?_, ?_⟩
  · intro hpart
    -- the way only starts at directories, and only files were lost
    have hdirectory := hstart hpart
    rw [← FileNode.look_eq_some_none_iff, h.look_of_not_mem (h.not_mem_of_isDirectory hdirectory),
      FileNode.look_eq_some_none_iff]
    exact hdirectory
  · rintro name rfl
    obtain ⟨hshort, hentry⟩ := hname name rfl
    refine ⟨hshort, ?_⟩
    rw [hfound, move] at hkept
    rw [← FileNode.isSome_look, h.look_of_not_mem hkept, FileNode.isSome_look]
    exact hentry

/-- Parts that do not begin at the root again lead on only from directories, so no way to what is still there
went through a file that is gone. -/
theorem foldlM_step (h : Lost before after gone) {parts : List PathPart} (hparts : .root ∉ parts)
    (hway : parts.foldlM (FileTree.step before.root) names = .ok found) (hkept : found ∉ gone) :
    parts.foldlM (FileTree.step after.root) names = .ok found := by
  induction parts generalizing names with
  | nil => exact hway
  | cons part parts ih =>
      rw [List.foldlM_cons] at hway ⊢
      obtain ⟨next, hnext, hway⟩ := bind_eq_ok.1 hway
      have hrest := List.not_mem_of_not_mem_cons hparts
      have hthere : next ∉ gone := by
        cases parts with
        | nil =>
            cases hway
            exact hkept
        | cons further parts =>
            obtain ⟨_, hfurther, -⟩ := bind_eq_ok.1 hway
            have hne : further ≠ .root := fun heq => hrest (heq ▸ List.mem_cons_self)
            exact h.not_mem_of_isDirectory ((step_eq_ok_iff.1 hfurther).2.1 hne)
      exact bind_eq_ok.2 ⟨next, h.step hnext hthere, ih hrest hway⟩

/-- A path that did not lead to one of the lost files still leads where it led. -/
theorem locate (h : Lost before after gone) (hlocate : before.locate path = .ok names)
    (hkept : names ∉ gone) : after.locate path = .ok names := by
  rw [FileTree.locate] at hlocate ⊢
  split at hlocate
  · cases hlocate
  · next hne =>
    have hpieces : .root ∉ (Path.pieces path).map Path.piece := by
      simp [Path.piece_ne_root]
    rw [if_neg hne, h.workingDirectory]
    rw [Path.steps] at hlocate ⊢
    split at hlocate
    · next habsolute =>
      have hway : ((Path.pieces path).map Path.piece).foldlM (FileTree.step before.root) [] = .ok names :=
        hlocate
      rw [if_pos habsolute, List.singleton_append, List.foldlM_cons]
      exact bind_eq_ok.2 ⟨[], rfl, h.foldlM_step hpieces hway hkept⟩
    · next hrelative =>
      rw [if_neg hrelative]
      exact h.foldlM_step hpieces hlocate hkept

/-- A path that leads to a file that is gone leads to nothing, and every other one to what it led to. -/
theorem seen (h : Lost before after gone) (path : String) :
    after.seen path =
      if landing before.workingDirectory path ∈ gone then none else before.seen path := by
  apply Option.ext
  intro found
  rw [seen_eq_some_iff, h.workingDirectory, h.look]
  split
  · simp
  · next hkept =>
    rw [seen_eq_some_iff]
    have hlocate : after.locate path = .ok (landing before.workingDirectory path) ↔
        before.locate path = .ok (landing before.workingDirectory path) :=
      ⟨locate_of_retains h.retains h.workingDirectory.symm, fun hlocate => h.locate hlocate hkept⟩
    rw [hlocate]

theorem file?_eq_some_iff (h : Lost before after gone) {file : File} :
    after.file? path = some file ↔
      before.file? path = some file ∧ landing before.workingDirectory path ∉ gone := by
  rw [FileTree.file?_eq_some_iff, FileTree.file?_eq_some_iff, h.seen]
  split <;> simp_all

theorem exists?_iff (h : Lost before after gone) :
    after.exists? path ↔ before.exists? path ∧ landing before.workingDirectory path ∉ gone := by
  rw [exists?_eq_isSome_seen, exists?_eq_isSome_seen, h.seen]
  split <;> simp_all

/-- To remove a file that is still there is to lose one file more. -/
theorem remove (h : Lost before after gone) (hnamed : after.root.WellNamed) {file : File}
    (hlocate : before.locate path = .ok names) (hne : names ≠ [])
    (hfile : before.root.follow? names = some (.file file)) (hkept : names ∉ gone) :
    Lost before (after.remove path) (gone ++ [names]) := by
  have hremove : after.remove path = { after with root := after.root.remove names } := by
    rw [FileTree.remove, canonical?, h.locate hlocate hkept]
    rfl
  have hthere : after.root.follow? names = some (.file file) := by
    rw [← FileNode.look_eq_some_some_iff] at hfile ⊢
    rw [h.look_of_not_mem hkept, hfile]
  rw [hremove]
  refine ⟨h.workingDirectory, ?_, ?_⟩
  · intro place hplace
    rcases List.mem_append.1 hplace with hplace | hplace
    · exact h.files place hplace
    · obtain rfl := List.mem_singleton.1 hplace
      exact ⟨file, hfile⟩
  · intro place
    rw [FileNode.look_remove hnamed hne hthere, h.look]
    -- the one place that is now empty, and all others as before
    by_cases hplace : place = names <;> simp [hplace]

end Lost

end FileTree

end Concordance
