import Concordance.SortedMap
import Mathlib.Algebra.Ring.Nat
import Mathlib.Data.List.Perm.Basic

/-!
# What is found in a map

A changed map gives the changed value at the key that was changed and the old one elsewhere, and a map
into which another one was worked gives, at each key, what the two values at this key combine to. Two
lists in ascending order with the same content are the same list.
-/

namespace Concordance.SortedMap

variable {α β : Type}

/-! ### Looking up in a list of entries -/

/-- Below the first entry there is nothing to be found. -/
theorem lookup_eq_none_of_lt {key : String} {entries : List (String × α)}
    (h : ∀ entry ∈ entries, key < entry.1) : entries.lookup key = none := by
  rw [List.lookup_eq_none_iff]
  intro entry hmem
  have hlt := h entry hmem
  rw [bne_iff_ne]
  rintro rfl
  exact String.lt_irrefl _ hlt

/-- What a key leads to is among the entries. -/
theorem mem_of_lookup_eq_some {key : String} {value : α} {entries : List (String × α)}
    (h : entries.lookup key = some value) : (key, value) ∈ entries := by
  obtain ⟨before, behind, rfl, -⟩ := List.lookup_eq_some_iff.1 h
  exact List.mem_append_right _ List.mem_cons_self

theorem lookup_cons_of_ne {key k : String} (h : key ≠ k) (value : α) (rest : List (String × α)) :
    ((k, value) :: rest).lookup key = rest.lookup key := by
  rw [List.lookup_cons, beq_eq_false_iff_ne.2 h]

/-- The changed key has the new value, whether it was there before or not. -/
theorem lookup_alterEntries_self {key : String} {change : Option α → α}
    {entries : List (String × α)} (h : entries.Pairwise fun a b => a.1 < b.1) :
    (alterEntries key change entries).lookup key = some (change (entries.lookup key)) := by
  induction entries with
  | nil => exact List.lookup_cons_self
  | cons entry rest ih =>
      obtain ⟨k, v⟩ := entry
      rw [alterEntries]
      split
      · next hlt =>
          rw [lookup_eq_none_of_lt (lt_of_lt_head h hlt)]
          exact List.lookup_cons_self
      · split
        · next heq =>
            subst heq
            rw [List.lookup_cons_self, List.lookup_cons_self]
        · next hne =>
            rw [lookup_cons_of_ne hne, lookup_cons_of_ne hne]
            exact ih (List.pairwise_cons.1 h).2

/-- Other keys keep their values. -/
theorem lookup_alterEntries_of_ne {key other : String} (hne : other ≠ key)
    (change : Option α → α) (entries : List (String × α)) :
    (alterEntries key change entries).lookup other = entries.lookup other := by
  induction entries with
  | nil => exact lookup_cons_of_ne hne _ []
  | cons entry rest ih =>
      obtain ⟨k, v⟩ := entry
      rw [alterEntries]
      split
      · exact lookup_cons_of_ne hne _ _
      · split
        · next heq =>
            subst heq
            rw [lookup_cons_of_ne hne, lookup_cons_of_ne hne]
        · rw [List.lookup_cons, List.lookup_cons, ih]

/-- What two maps give together at a key. -/
def combined (combine : Option α → β → α) (old : Option α) : Option β → Option α
  | none => old
  | some value => some (combine old value)

/-- What is found after two maps were merged is told by what is found in each of them. -/
theorem lookup_mergeEntries {combine : Option α → β → α} {xs : List (String × α)}
    {ys : List (String × β)} (hx : xs.Pairwise fun a b => a.1 < b.1)
    (hy : ys.Pairwise fun a b => a.1 < b.1) (key : String) :
    (mergeEntries combine xs ys).lookup key =
      combined combine (xs.lookup key) (ys.lookup key) := by
  fun_induction mergeEntries combine xs ys with
  | case1 ys =>
      -- nothing is left of the first map, so every key is new
      clear hx hy
      induction ys with
      | nil => rfl
      | cons y rest ih =>
          rw [List.map_cons, List.lookup_cons, List.lookup_cons, ih]
          split
          · rfl
          · rfl
  | case2 xs => rfl
  | case3 k a xs l b ys hlt ih =>
      by_cases hkey : key = k
      · -- the second map has no key so small
        subst hkey
        rw [List.lookup_cons_self, List.lookup_cons_self, lookup_eq_none_of_lt (lt_of_lt_head hy hlt)]
        rfl
      · rw [lookup_cons_of_ne hkey, lookup_cons_of_ne hkey,
          ih (List.pairwise_cons.1 hx).2 hy]
  | case4 a xs k b ys _ ih =>
      by_cases hkey : key = k
      · subst hkey
        rw [List.lookup_cons_self, List.lookup_cons_self, List.lookup_cons_self]
        rfl
      · rw [lookup_cons_of_ne hkey, lookup_cons_of_ne hkey, lookup_cons_of_ne hkey,
          ih (List.pairwise_cons.1 hx).2 (List.pairwise_cons.1 hy).2]
  | case5 k a xs l b ys hnlt hne ih =>
      have hlt : l < k :=
        String.not_le.1 fun hle => hne (String.le_antisymm hle (String.not_lt.1 hnlt))
      by_cases hkey : key = l
      · -- the first map has no key so small
        subst hkey
        rw [List.lookup_cons_self, List.lookup_cons_self, lookup_eq_none_of_lt (lt_of_lt_head hx hlt)]
        rfl
      · rw [lookup_cons_of_ne hkey, lookup_cons_of_ne hkey b ys,
          ih hx (List.pairwise_cons.1 hy).2]

/-! ### Looking up in a map -/

@[simp] theorem find?_empty (key : String) : (empty : SortedMap α).find? key = none :=
  rfl

@[simp] theorem find?_alter_self (map : SortedMap α) (key : String) (change : Option α → α) :
    (map.alter key change).find? key = some (change (map.find? key)) :=
  lookup_alterEntries_self map.ascending

theorem find?_alter_of_ne (map : SortedMap α) {key other : String} (h : other ≠ key)
    (change : Option α → α) : (map.alter key change).find? other = map.find? other :=
  lookup_alterEntries_of_ne h change map.entries

@[simp] theorem find?_absorb (map : SortedMap α) (other : SortedMap β) (combine : Option α → β → α)
    (key : String) :
    (map.absorb other combine).find? key =
      combined combine (map.find? key) (other.find? key) :=
  lookup_mergeEntries map.ascending other.ascending key

/-- A sum over the values of a map grows by what the change of a value adds. -/
theorem sum_alterEntries (key : String) {change : Option α → α} (weight : α → Nat) {added : Nat}
    (hnone : weight (change none) = added)
    (hsome : ∀ value, weight (change (some value)) = weight value + added)
    (entries : List (String × α)) :
    ((alterEntries key change entries).map fun entry => weight entry.2).sum =
      (entries.map fun entry => weight entry.2).sum + added := by
  induction entries with
  | nil => simp [alterEntries, hnone]
  | cons entry rest ih =>
      obtain ⟨k, v⟩ := entry
      rw [alterEntries]
      split
      · simp only [List.map_cons, List.sum_cons, hnone]
        omega
      · split
        · simp only [List.map_cons, List.sum_cons, hsome]
          omega
        · simp only [List.map_cons, List.sum_cons, ih]
          omega

/-! ### The entries of a map -/

/-- A value among the entries of a map is what is found at its key. -/
theorem find?_of_mem {map : SortedMap α} {key : String} {value : α}
    (h : (key, value) ∈ map.entries) : map.find? key = some value := by
  obtain ⟨before, behind, hentries⟩ := List.append_of_mem h
  have hascending := hentries ▸ map.ascending
  rw [find?, List.lookup_eq_some_iff]
  refine ⟨before, behind, hentries, fun entry hmem => ?_⟩
  have hlt := (List.pairwise_append.1 hascending).2.2 entry hmem (key, value) List.mem_cons_self
  rw [bne_iff_ne]
  rintro rfl
  exact String.lt_irrefl _ hlt

theorem mem_entries_iff {map : SortedMap α} {key : String} {value : α} :
    (key, value) ∈ map.entries ↔ map.find? key = some value := by
  constructor
  · exact find?_of_mem
  · intro h
    rw [find?, List.lookup_eq_some_iff] at h
    obtain ⟨before, behind, hentries, -⟩ := h
    rw [hentries]
    exact List.mem_append_right _ List.mem_cons_self

@[ext] theorem ext_entries {a b : SortedMap α} (h : a.entries = b.entries) : a = b := by
  cases a
  cases b
  cases h
  rfl

/-- Maps in which the same is found at every key are the same map. -/
theorem ext_find? {a b : SortedMap α} (h : ∀ key, a.find? key = b.find? key) : a = b := by
  apply ext_entries
  have hnodup (map : SortedMap α) : map.entries.Nodup := by
    refine map.ascending.imp ?_
    rintro x y hlt rfl
    exact String.lt_irrefl _ hlt
  have hperm : a.entries.Perm b.entries := by
    rw [List.perm_ext_iff_of_nodup (hnodup a) (hnodup b)]
    rintro ⟨key, value⟩
    rw [mem_entries_iff, mem_entries_iff, h key]
  refine hperm.eq_of_pairwise ?_ a.ascending b.ascending
  intro x y _ _ hxy hyx
  exact absurd (String.lt_trans hxy hyx) (String.lt_irrefl _)

/-- A key behind all the others is put at the end. -/
theorem alterEntries_eq_append {key : String} {entries : List (String × α)}
    (h : ∀ entry ∈ entries, entry.1 < key) (change : Option α → α) :
    alterEntries key change entries = entries ++ [(key, change none)] := by
  induction entries with
  | nil => rfl
  | cons entry rest ih =>
      obtain ⟨k, v⟩ := entry
      have hlt : k < key := h (k, v) List.mem_cons_self
      have hne : ¬key = k := fun heq => String.lt_irrefl k (heq ▸ hlt)
      rw [alterEntries, if_neg (fun hgt => String.lt_irrefl k (String.lt_trans hlt hgt)), if_neg hne,
        ih fun e he => h e (List.mem_cons_of_mem _ he), List.cons_append]

/-- Entries that come in ascending order are put one behind the other. -/
theorem entries_foldl_insert (pairs : List (String × α)) (map : SortedMap α)
    (h : (map.entries ++ pairs).Pairwise fun a b => a.1 < b.1) :
    (pairs.foldl (fun map (key, value) => map.insert key value) map).entries = map.entries ++ pairs := by
  induction pairs generalizing map with
  | nil => simp
  | cons pair rest ih =>
      obtain ⟨key, value⟩ := pair
      have hbefore : ∀ entry ∈ map.entries, entry.1 < key := fun entry hmem =>
        (List.pairwise_append.1 h).2.2 entry hmem (key, value) List.mem_cons_self
      have hinsert : (map.insert key value).entries = map.entries ++ [(key, value)] :=
        alterEntries_eq_append hbefore fun _ => value
      have hrest := ih (map.insert key value) (by rw [hinsert]; simpa using h)
      rw [List.foldl_cons, hrest, hinsert, List.append_assoc, List.singleton_append]

/-- A map is the map of its entries. -/
@[simp] theorem ofList_entries (map : SortedMap α) : ofList map.entries = map :=
  ext_entries (entries_foldl_insert map.entries empty map.ascending)

end Concordance.SortedMap
