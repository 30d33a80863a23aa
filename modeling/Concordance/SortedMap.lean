/-!
# Maps in key order

A map from texts to values, held as its entries in strictly ascending order of the keys. Equal maps have
equal entries, so two maps with the same content are the same map, and what is written out of a map
comes in a fixed order.
-/

namespace Concordance

/-- The entry comes before all of `entries`. -/
theorem pairwise_cons_of_lt {α : Type} {key k : String} {value v : α} {rest : List (String × α)}
    (h : ((k, v) :: rest).Pairwise (fun a b => a.1 < b.1)) (hlt : key < k) :
    ((key, value) :: (k, v) :: rest).Pairwise (fun a b => a.1 < b.1) := by
  refine List.pairwise_cons.2 ⟨?_, h⟩
  intro entry hmem
  rcases List.mem_cons.1 hmem with rfl | hmem
  · exact hlt
  · exact String.lt_trans hlt (List.rel_of_pairwise_cons h hmem)

/-- A map whose entries stand in ascending order of their keys. -/
structure SortedMap (α : Type) where
  entries : List (String × α)
  ascending : entries.Pairwise fun a b => a.1 < b.1

namespace SortedMap

variable {α : Type}

def empty : SortedMap α := ⟨[], .nil⟩

instance : Inhabited (SortedMap α) := ⟨empty⟩

def find? (map : SortedMap α) (key : String) : Option α :=
  map.entries.lookup key

def size (map : SortedMap α) : Nat :=
  map.entries.length

/-- Changes the value of a key in a list of entries, or puts it where it belongs. -/
def alterEntries (key : String) (change : Option α → α) : List (String × α) → List (String × α)
  | [] => [(key, change none)]
  | (k, v) :: rest =>
    if key < k then (key, change none) :: (k, v) :: rest
    else if key = k then (key, change (some v)) :: rest
    else (k, v) :: alterEntries key change rest

/-- A change brings in no key but the one that is changed. -/
theorem fst_mem_alterEntries {key : String} {change : Option α → α} {entries : List (String × α)}
    {entry : String × α} (h : entry ∈ alterEntries key change entries) :
    entry.1 = key ∨ ∃ old ∈ entries, old.1 = entry.1 := by
  induction entries with
  | nil =>
    simp only [alterEntries, List.mem_singleton] at h
    exact .inl (h ▸ rfl)
  | cons e rest ih =>
    obtain ⟨k, v⟩ := e
    simp only [alterEntries] at h
    split at h
    · rcases List.mem_cons.1 h with rfl | h
      · exact .inl rfl
      · exact .inr ⟨entry, h, rfl⟩
    · split at h
      · rcases List.mem_cons.1 h with rfl | h
        · exact .inl rfl
        · exact .inr ⟨entry, List.mem_cons_of_mem _ h, rfl⟩
      · rcases List.mem_cons.1 h with rfl | h
        · exact .inr ⟨_, List.mem_cons_self, rfl⟩
        · rcases ih h with h | ⟨old, hm, he⟩
          · exact .inl h
          · exact .inr ⟨old, List.mem_cons_of_mem _ hm, he⟩

/-- A change keeps the order of the keys. -/
theorem pairwise_alterEntries {key : String} {change : Option α → α} {entries : List (String × α)}
    (h : entries.Pairwise fun a b => a.1 < b.1) :
    (alterEntries key change entries).Pairwise fun a b => a.1 < b.1 := by
  induction entries with
  | nil => exact List.pairwise_singleton _ _
  | cons e rest ih =>
    obtain ⟨k, v⟩ := e
    simp only [alterEntries]
    split
    · next hlt => exact pairwise_cons_of_lt h hlt
    · next hnlt =>
      split
      · next heq =>
        subst heq
        exact List.pairwise_cons.2 ⟨(List.pairwise_cons.1 h).1, (List.pairwise_cons.1 h).2⟩
      · next hne =>
        refine List.pairwise_cons.2 ⟨?_, ih (List.pairwise_cons.1 h).2⟩
        -- an entry behind e has the new key, which is larger, or the key of an old entry
        intro entry hmem
        rcases fst_mem_alterEntries hmem with hk | ⟨old, hm, he⟩
        · rcases String.le_total key k with hle | hle
          · exact absurd (String.le_antisymm hle (String.not_lt.1 hnlt)) hne
          · rw [hk]
            exact String.not_le.1 fun hle' => hne (String.le_antisymm hle' (String.not_lt.1 hnlt))
        · rw [← he]
          exact (List.pairwise_cons.1 h).1 old hm

def alter (map : SortedMap α) (key : String) (change : Option α → α) : SortedMap α :=
  ⟨alterEntries key change map.entries, pairwise_alterEntries map.ascending⟩

/-- The entries of two lists in ascending order, in ascending order: `combine` gives the value of every
key of the second list, from its value there and the one in the first list, if there is one. -/
def mergeEntries {β : Type} (combine : Option α → β → α) :
    List (String × α) → List (String × β) → List (String × α)
  | [], ys => ys.map fun (l, b) => (l, combine none b)
  | xs, [] => xs
  | (k, a) :: xs, (l, b) :: ys =>
    if k < l then (k, a) :: mergeEntries combine xs ((l, b) :: ys)
    else if k = l then (k, combine (some a) b) :: mergeEntries combine xs ys
    else (l, combine none b) :: mergeEntries combine ((k, a) :: xs) ys
termination_by xs ys => xs.length + ys.length

/-- A merge brings in no key that neither map has. -/
theorem fst_mem_mergeEntries {β : Type} {combine : Option α → β → α} {xs : List (String × α)}
    {ys : List (String × β)} {entry : String × α} (h : entry ∈ mergeEntries combine xs ys) :
    (∃ x ∈ xs, x.1 = entry.1) ∨ ∃ y ∈ ys, y.1 = entry.1 := by
  -- the cases of the merge: a list is used up, or the next key comes from one side or both
  fun_induction mergeEntries combine xs ys with
  | case1 ys =>
    obtain ⟨y, hy, rfl⟩ := List.mem_map.1 h
    exact .inr ⟨y, hy, rfl⟩
  | case2 xs => exact .inl ⟨entry, h, rfl⟩
  | case3 k a xs l b ys _ ih =>
    rcases List.mem_cons.1 h with rfl | h
    · exact .inl ⟨_, List.mem_cons_self, rfl⟩
    · rcases ih h with ⟨x, hx, he⟩ | hy
      · exact .inl ⟨x, List.mem_cons_of_mem _ hx, he⟩
      · exact .inr hy
  | case4 k a xs b ys _ ih =>
    rcases List.mem_cons.1 h with rfl | h
    · exact .inl ⟨_, List.mem_cons_self, rfl⟩
    · rcases ih h with ⟨x, hx, he⟩ | ⟨y, hy, he⟩
      · exact .inl ⟨x, List.mem_cons_of_mem _ hx, he⟩
      · exact .inr ⟨y, List.mem_cons_of_mem _ hy, he⟩
  | case5 k a xs l b ys _ _ ih =>
    rcases List.mem_cons.1 h with rfl | h
    · exact .inr ⟨_, List.mem_cons_self, rfl⟩
    · rcases ih h with hx | ⟨y, hy, he⟩
      · exact .inl hx
      · exact .inr ⟨y, List.mem_cons_of_mem _ hy, he⟩

/-- What comes before the first entry of a list in ascending order comes before all of them. -/
theorem lt_of_lt_head {γ : Type} {k l : String} {c : γ} {rest : List (String × γ)}
    (h : ((l, c) :: rest).Pairwise fun a b => a.1 < b.1) (hlt : k < l) :
    ∀ entry ∈ (l, c) :: rest, k < entry.1 := by
  intro entry hmem
  rcases List.mem_cons.1 hmem with rfl | hmem
  · exact hlt
  · exact String.lt_trans hlt ((List.pairwise_cons.1 h).1 entry hmem)

/-- A merge keeps the order of the keys. -/
theorem pairwise_mergeEntries {β : Type} {combine : Option α → β → α} {xs : List (String × α)}
    {ys : List (String × β)} (hx : xs.Pairwise fun a b => a.1 < b.1)
    (hy : ys.Pairwise fun a b => a.1 < b.1) :
    (mergeEntries combine xs ys).Pairwise fun a b => a.1 < b.1 := by
  fun_induction mergeEntries combine xs ys with
  | case1 ys => exact List.pairwise_map.2 hy
  | case2 xs => exact hx
  | case3 k a xs l b ys hlt ih =>
    refine List.pairwise_cons.2 ⟨?_, ih (List.pairwise_cons.1 hx).2 hy⟩
    intro entry hmem
    rcases fst_mem_mergeEntries hmem with ⟨x, hm, he⟩ | ⟨y, hm, he⟩
    · exact he ▸ (List.pairwise_cons.1 hx).1 x hm
    · exact he ▸ lt_of_lt_head hy hlt y hm
  | case4 k a xs b ys _ ih =>
    refine List.pairwise_cons.2 ⟨?_, ih (List.pairwise_cons.1 hx).2 (List.pairwise_cons.1 hy).2⟩
    intro entry hmem
    rcases fst_mem_mergeEntries hmem with ⟨x, hm, he⟩ | ⟨y, hm, he⟩
    · exact he ▸ (List.pairwise_cons.1 hx).1 x hm
    · exact he ▸ (List.pairwise_cons.1 hy).1 y hm
  | case5 k a xs l b ys hnlt hne ih =>
    have hlt : l < k := String.not_le.1 fun hle => hne (String.le_antisymm hle (String.not_lt.1 hnlt))
    refine List.pairwise_cons.2 ⟨?_, ih hx (List.pairwise_cons.1 hy).2⟩
    intro entry hmem
    rcases fst_mem_mergeEntries hmem with ⟨x, hm, he⟩ | ⟨y, hm, he⟩
    · exact he ▸ lt_of_lt_head hx hlt x hm
    · exact he ▸ (List.pairwise_cons.1 hy).1 y hm

/-- The map with the entries of another one worked in; see `mergeEntries`. -/
def absorb {β : Type} (map : SortedMap α) (other : SortedMap β) (combine : Option α → β → α) :
    SortedMap α :=
  ⟨mergeEntries combine map.entries other.entries, pairwise_mergeEntries map.ascending other.ascending⟩

def insert (map : SortedMap α) (key : String) (value : α) : SortedMap α :=
  map.alter key fun _ => value

/-- The map of a list of pairs; the last of equal keys counts. -/
def ofList (pairs : List (String × α)) : SortedMap α :=
  pairs.foldl (fun map (key, value) => map.insert key value) empty

end SortedMap

end Concordance
