import Concordance.Json.Reader
import Concordance.Proofs.JsonTexts
import Concordance.Proofs.SortedMaps
import Mathlib.Data.String.Basic

/-!
# Fields

A key leads to the last field of that key that an object was made of. When the object was written and is read
back, the key leads to the same value, read back as well (`get?_value?`).
-/

namespace Concordance.Json

/-! ### Fields of objects -/

theorem lookup_cons_ite (key k : String) (value : Json) (pairs : List (String × Json)) :
    ((k, value) :: pairs).lookup key = if key = k then some value else pairs.lookup key := by
  rw [List.lookup_cons]
  by_cases h : key = k
  · rw [if_pos h, beq_iff_eq.2 h]
  · rw [if_neg h, beq_eq_false_iff_ne.2 h]

section Insert

variable {key k : String} (value v : Json) (rest : List (String × Json))

theorem insertField_of_lt (h : key < k) :
    insertField key value ((k, v) :: rest) = (key, value) :: (k, v) :: rest := by
  rw [insertField, if_pos h]

theorem insertField_self : insertField k value ((k, v) :: rest) = (k, value) :: rest := by
  rw [insertField, if_neg (String.lt_irrefl k), if_pos rfl]

theorem insertField_of_gt (h : k < key) :
    insertField key value ((k, v) :: rest) = (k, v) :: insertField key value rest := by
  rw [insertField, if_neg (String.lt_asymm h), if_neg (String.ne_of_lt h).symm]

end Insert

/-- What a lookup finds after a field was put among others. -/
theorem lookup_insertField (key other : String) (value : Json) (pairs : List (String × Json)) :
    (insertField key value pairs).lookup other =
      if other = key then some value else pairs.lookup other := by
  induction pairs with
  | nil => exact lookup_cons_ite other key value []
  | cons pair pairs ih =>
    obtain ⟨k, v⟩ := pair
    rcases lt_trichotomy key k with hlt | rfl | hgt
    · rw [insertField_of_lt value v pairs hlt]
      exact lookup_cons_ite other key value _
    · rw [insertField_self, lookup_cons_ite, lookup_cons_ite]
      split <;> rfl
    · rw [insertField_of_gt value v pairs hgt, lookup_cons_ite, ih, lookup_cons_ite]
      by_cases hother : other = k
      · subst hother
        rw [if_pos rfl, if_neg (String.ne_of_lt hgt), if_pos rfl]
      · rw [if_neg hother, if_neg hother]

/-- Of equal keys the last one counts, so a lookup begins at the end of the pairs. -/
theorem lookup_foldl_insertField (pairs sorted : List (String × Json)) (key : String) :
    (pairs.foldl (fun sorted (k, v) => insertField k v sorted) sorted).lookup key =
      (pairs.reverse.lookup key).or (sorted.lookup key) := by
  induction pairs generalizing sorted with
  | nil => rfl
  | cons pair pairs ih =>
    obtain ⟨k, v⟩ := pair
    rw [List.foldl_cons, ih, List.reverse_cons, List.lookup_append, Option.or_assoc, lookup_insertField,
      lookup_cons_ite]
    split <;> rfl

/-- Of equal keys the last one counts. -/
theorem get?_object (key : String) (pairs : List (String × Json)) :
    (object pairs).get? key = pairs.reverse.lookup key := by
  rw [object, get?, sortFields, lookup_foldl_insertField]
  exact Option.or_none

theorem mem_of_get?_object {key : String} {value : Json} {pairs : List (String × Json)}
    (h : (object pairs).get? key = some value) : (key, value) ∈ pairs := by
  rw [get?_object] at h
  exact List.mem_reverse.1 (SortedMap.mem_of_lookup_eq_some h)

/-! ### Keys -/

/-- The keys are in order, so no two are equal. -/
def Ordered (pairs : List (String × Json)) : Prop :=
  (pairs.map Prod.fst).Pairwise (· < ·)

/-- A field is the new one or an old one. -/
theorem mem_insertField {field : String × Json} {key : String} {value : Json} {pairs : List (String × Json)}
    (h : field ∈ insertField key value pairs) : field = (key, value) ∨ field ∈ pairs := by
  induction pairs with
  | nil => exact .inl (List.mem_singleton.1 h)
  | cons pair pairs ih =>
    rw [insertField] at h
    split at h
    · exact List.mem_cons.1 h
    split at h
    · exact (List.mem_cons.1 h).imp_right (List.mem_cons_of_mem _)
    · rcases List.mem_cons.1 h with hfield | hfield
      · exact .inr (hfield ▸ List.mem_cons_self)
      · exact (ih hfield).imp_right (List.mem_cons_of_mem _)

theorem mem_keys_insertField {key k : String} {value : Json} {pairs : List (String × Json)}
    (h : k ∈ (insertField key value pairs).map Prod.fst) : k = key ∨ k ∈ pairs.map Prod.fst := by
  obtain ⟨field, hfield, rfl⟩ := List.mem_map.1 h
  rcases mem_insertField hfield with rfl | hold
  · exact .inl rfl
  · exact .inr (List.mem_map_of_mem hold)

/-- Putting fields in order brings in no other. -/
theorem mem_of_mem_sortFields {field : String × Json} {pairs : List (String × Json)}
    (h : field ∈ sortFields pairs) : field ∈ pairs := by
  revert h
  refine List.foldlRecOn (motive := fun sorted => field ∈ sorted → field ∈ pairs) pairs _ nofun ?_
  intro sorted hsorted pair hpair h
  rcases mem_insertField h with rfl | hold
  · exact hpair
  · exact hsorted hold

/-- The order of the keys stays when a field is put among others. -/
theorem ordered_insertField (key : String) (value : Json) {pairs : List (String × Json)}
    (h : Ordered pairs) : Ordered (insertField key value pairs) := by
  induction pairs with
  | nil => exact List.pairwise_singleton _ _
  | cons pair pairs ih =>
    obtain ⟨k, v⟩ := pair
    obtain ⟨hfirst, hpairs⟩ := List.pairwise_cons.1 h
    rcases lt_trichotomy key k with hlt | rfl | hgt
    · rw [insertField_of_lt value v pairs hlt]
      refine List.pairwise_cons.2 ⟨fun other hother => ?_, h⟩
      rcases List.mem_cons.1 hother with rfl | hother
      · exact hlt
      · exact String.lt_trans hlt (hfirst other hother)
    · rw [insertField_self]
      exact h
    · rw [insertField_of_gt value v pairs hgt]
      refine List.pairwise_cons.2 ⟨fun other hother => ?_, ih hpairs⟩
      rcases mem_keys_insertField hother with rfl | hother
      · exact hgt
      · exact hfirst other hother

theorem ordered_sortFields (pairs : List (String × Json)) : Ordered (sortFields pairs) :=
  List.foldlRecOn pairs _ List.Pairwise.nil fun _ h pair _ => ordered_insertField pair.1 pair.2 h

/-- Fields in order that lead to the same values are the same. -/
theorem Ordered.ext {a b : List (String × Json)} (ha : Ordered a) (hb : Ordered b)
    (h : ∀ key, a.lookup key = b.lookup key) : a = b := by
  have hmaps : (⟨a, List.pairwise_map.1 ha⟩ : SortedMap Json) = ⟨b, List.pairwise_map.1 hb⟩ :=
    SortedMap.ext_find? h
  exact congrArg SortedMap.entries hmaps

/-! ### Changing fields -/

/-- The last of two changes of a field counts. -/
theorem insertField_insertField (key : String) (value old : Json) (pairs : List (String × Json)) :
    insertField key value (insertField key old pairs) = insertField key value pairs := by
  induction pairs with
  | nil => exact insertField_self value old []
  | cons pair pairs ih =>
    obtain ⟨k, v⟩ := pair
    rcases lt_trichotomy key k with h | rfl | h
    · rw [insertField_of_lt old v pairs h, insertField_self, insertField_of_lt value v pairs h]
    · rw [insertField_self, insertField_self, insertField_self]
    · rw [insertField_of_gt old v pairs h, insertField_of_gt value v _ h, ih,
        insertField_of_gt value v pairs h]

/-- The order in which two fields are put among others makes no difference. The smaller key goes before the
greater one, wherever both go. -/
theorem insertField_comm_of_lt {key other : String} (h : key < other) (value value' : Json)
    (pairs : List (String × Json)) :
    insertField key value (insertField other value' pairs) =
      insertField other value' (insertField key value pairs) := by
  induction pairs with
  | nil => exact (insertField_of_lt value value' [] h).trans (insertField_of_gt value' value [] h).symm
  | cons pair pairs ih =>
    obtain ⟨k, v⟩ := pair
    -- where the greater key goes decides the case, and behind it where the smaller one does
    rcases lt_trichotomy other k with hk | rfl | hk
    · rw [insertField_of_lt value' v pairs hk, insertField_of_lt value value' _ h,
        insertField_of_lt value v pairs (String.lt_trans h hk), insertField_of_gt value' value _ h,
        insertField_of_lt value' v pairs hk]
    · rw [insertField_self, insertField_of_lt value value' pairs h, insertField_of_lt value v pairs h,
        insertField_of_gt value' value _ h, insertField_self]
    · rw [insertField_of_gt value' v pairs hk]
      rcases lt_trichotomy key k with hkey | rfl | hkey
      · rw [insertField_of_lt value v _ hkey, insertField_of_lt value v pairs hkey,
          insertField_of_gt value' value _ h, insertField_of_gt value' v pairs hk]
      · rw [insertField_self, insertField_self, insertField_of_gt value' value pairs h]
      · rw [insertField_of_gt value v _ hkey, ih, insertField_of_gt value v pairs hkey,
          insertField_of_gt value' v _ hk]

/-- Changes of two fields do not depend on their order. -/
theorem insertField_comm {key other : String} (h : key ≠ other) (value value' : Json)
    (pairs : List (String × Json)) :
    insertField key value (insertField other value' pairs) =
      insertField other value' (insertField key value pairs) := by
  rcases lt_trichotomy key other with hlt | heq | hgt
  · exact insertField_comm_of_lt hlt value value' pairs
  · exact absurd heq h
  · exact (insertField_comm_of_lt hgt value' value pairs).symm

/-- A field that is set to what it is stays as it is. -/
theorem insertField_eq_self {key : String} {value : Json} {pairs : List (String × Json)}
    (hordered : Ordered pairs) (h : pairs.lookup key = some value) :
    insertField key value pairs = pairs := by
  induction pairs with
  | nil => cases h
  | cons pair pairs ih =>
    obtain ⟨k, v⟩ := pair
    obtain ⟨hfirst, hrest⟩ := List.pairwise_cons.1 hordered
    rw [lookup_cons_ite] at h
    split at h
    · next heq =>
      subst heq
      cases h
      exact insertField_self value value pairs
    · have hmem := SortedMap.mem_of_lookup_eq_some h
      have hlt : k < key := hfirst key (List.mem_map_of_mem (f := Prod.fst) hmem)
      rw [insertField_of_gt value v pairs hlt, ih hrest h]

/-- With different keys it does not matter where a lookup begins. -/
theorem lookup_reverse {pairs : List (String × Json)} (h : (pairs.map Prod.fst).Nodup) (key : String) :
    pairs.reverse.lookup key = pairs.lookup key := by
  induction pairs with
  | nil => rfl
  | cons pair pairs ih =>
    obtain ⟨k, v⟩ := pair
    obtain ⟨hk, hpairs⟩ := List.nodup_cons.1 h
    rw [List.reverse_cons, List.lookup_append, ih hpairs, lookup_cons_ite, lookup_cons_ite]
    by_cases hkey : key = k
    · subst hkey
      -- keys that do not repeat: behind this pair its key is not found again
      have hnone : pairs.lookup key = none := by
        rw [List.lookup_eq_none_iff]
        rintro p hp
        rw [bne_iff_ne]
        rintro rfl
        exact hk (List.mem_map.2 ⟨p, hp, rfl⟩)
      rw [hnone, if_pos rfl, if_pos rfl]
      rfl
    · rw [if_neg hkey, if_neg hkey]
      exact Option.or_none

/-! ### Values that are read back -/

/-- A character that was written is read back. -/
theorem characters?_unitOf (c : Char) (units : List Unit16) :
    characters? (unitOf c :: units) = (characters? units).map (c :: ·) := by
  rw [unitOf]
  split
  · next hc =>
    -- the number of a control is no surrogate
    have hsmall : c.toNat < 0x20 := by
      simp only [isNumbered, Bool.and_eq_true, decide_eq_true_eq] at hc
      omega
    have hsurrogate : ¬(0xD800 ≤ c.toNat ∧ c.toNat ≤ 0xDFFF) := by omega
    have hpair (m : Nat) : ¬(0xD800 ≤ c.toNat ∧ c.toNat ≤ 0xDBFF ∧ 0xDC00 ≤ m ∧ m ≤ 0xDFFF) := by omega
    cases units with
    | nil => simp [characters?, hsurrogate, Char.ofNat_toNat]
    | cons unit units =>
      cases unit with
      | char d =>
        rw [characters?.eq_4, if_neg hsurrogate, characters?.eq_2, Char.ofNat_toNat]
        cases characters? units <;> rfl
      | unit m => rw [characters?, if_neg (hpair m), if_neg hsurrogate, Char.ofNat_toNat]
  · rw [characters?]

theorem characters?_map_unitOf (cs : List Char) : characters? (cs.map unitOf) = some cs := by
  induction cs with
  | nil => rfl
  | cons c cs ih => rw [List.map_cons, characters?_unitOf, ih, Option.map_some]

/-- A text that was written is read back. -/
theorem textOfUnits?_unitsOf (s : String) : textOfUnits? (unitsOf s) = some s := by
  rw [textOfUnits?, unitsOf, characters?_map_unitOf, Option.map_some, String.ofList_toList]

theorem value?_string (depth : Nat) (s : String) : (Json.string s).tree.value? depth = some (.string s) := by
  rw [tree, Tree.value?, textOfUnits?_unitsOf, Option.map_some]

/-- A natural number that was written is read back. -/
theorem value?_ofNat (depth n : Nat) : (ofNat n).tree.value? depth = some (ofNat n) := by
  have hfits : (UInt64.ofNat n).toNat < 0x10000000000000000 := (UInt64.ofNat n).toNat_lt
  rw [ofNat, tree, Number.tree, Number.text?, Tree.value?, NumberText.value?, NumberText.integer?]
  simp only [Decimal.digitsValue_toDigits, if_pos hfits, UInt64.ofNat_toNat]
  rfl

/-! ### Fields that are read back -/

/-- The fields of an object are values of trees. -/
theorem exists_value?_of_mem {depth : Nat} {pairs : List (List Unit16 × Tree)}
    {fields : List (String × Json)} (h : fieldsOf? depth pairs = some fields) {field : String × Json}
    (hmem : field ∈ fields) : ∃ tree : Tree, tree.value? depth = some field.2 := by
  induction pairs generalizing fields with
  | nil =>
    cases h
    cases hmem
  | cons pair pairs ih =>
    obtain ⟨units, tree⟩ := pair
    rw [fieldsOf?] at h
    obtain ⟨key, -, h⟩ := Option.bind_eq_some_iff.1 h
    obtain ⟨value, hvalue, h⟩ := Option.bind_eq_some_iff.1 h
    obtain ⟨rest, hrest, h⟩ := Option.bind_eq_some_iff.1 h
    cases h
    rcases List.mem_cons.1 hmem with rfl | hmem
    · exact ⟨tree, hvalue⟩
    · exact ih hrest hmem

/-- Only the tree of an object has an object as its value. -/
theorem value?_eq_fields {depth : Nat} {tree : Tree} {pairs : List (String × Json)}
    (h : tree.value? depth = some (.fields pairs)) :
    ∃ members depth' fields, depth = depth' + 1 ∧ fieldsOf? depth' members = some fields ∧
      sortFields fields = pairs := by
  cases tree with
  | object members =>
    rw [Tree.value?] at h
    split at h
    · cases h
    · next hdepth =>
      obtain ⟨fields, hfields, heq⟩ := Option.map_eq_some_iff.1 h
      cases heq
      exact ⟨members, _, fields, by omega, hfields, rfl⟩
  | array items =>
    rw [Tree.value?] at h
    split at h
    · cases h
    · obtain ⟨values, -, heq⟩ := Option.map_eq_some_iff.1 h
      cases heq
  | _ => simp [Tree.value?] at h

/-- The keys of an object that is read are in order. -/
theorem ordered_of_value? {depth : Nat} {tree : Tree} {pairs : List (String × Json)}
    (h : tree.value? depth = some (.fields pairs)) : Ordered pairs := by
  obtain ⟨_, _, fields, -, -, rfl⟩ := value?_eq_fields h
  exact ordered_sortFields fields

/-- A field of a value that is read is a value that is read as well. -/
theorem exists_value?_of_get? {depth : Nat} {tree : Tree} {v value : Json} {key : String}
    (h : tree.value? depth = some v) (hget : v.get? key = some value) :
    ∃ (item : Tree) (depth' : Nat), item.value? depth' = some value := by
  cases v with
  | fields pairs =>
    obtain ⟨_, depth', fields, -, hfields, rfl⟩ := value?_eq_fields h
    obtain ⟨item, hitem⟩ := exists_value?_of_mem hfields (mem_of_get?_object hget)
    exact ⟨item, depth', hitem⟩
  | _ => cases hget

variable {depth : Nat} {pairs : List (String × Json)} {value : Json} {key : String}

theorem unitsOf_injective : Function.Injective unitsOf := by
  intro s t h
  have hread := congrArg textOfUnits? h
  rw [textOfUnits?_unitsOf, textOfUnits?_unitsOf] at hread
  exact Option.some.inj hread

/-- The tree of an object is that of its fields, one by one. -/
theorem pairsOf_eq_map (pairs : List (String × Json)) :
    pairsOf pairs = pairs.map fun pair => (unitsOf pair.1, pair.2.tree) := by
  induction pairs with
  | nil => rfl
  | cons pair pairs ih =>
    rw [pairsOf, ih]
    rfl

theorem map_fst_pairsOf (pairs : List (String × Json)) :
    (pairsOf pairs).map Prod.fst = (pairs.map Prod.fst).map unitsOf := by
  rw [pairsOf_eq_map, List.map_map, List.map_map]
  rfl

theorem tree_eq_of_render_eq {a b : Json} (h : a.render = b.render) : a.tree = b.tree := by
  have htext := congrArg (fun text : String => Tree.ofText? text.toList) h
  simp only [render, String.toList_ofList, ofText?_write] at htext
  exact Option.some.inj htext

/-- Objects that are written the same have the same keys. -/
theorem keys_eq_of_render_eq {a b : List (String × Json)}
    (h : (Json.fields a).render = (Json.fields b).render) : a.map Prod.fst = b.map Prod.fst := by
  have htree := tree_eq_of_render_eq h
  rw [tree, tree, Tree.object.injEq] at htree
  have hunits := congrArg (List.map Prod.fst) htree
  rw [map_fst_pairsOf, map_fst_pairsOf] at hunits
  exact List.map_injective_iff.2 unitsOf_injective hunits

/-- Fields that are written alike have values that are written alike. -/
theorem map_tree_lookup_eq {a b : List (String × Json)} (h : pairsOf a = pairsOf b) (key : String) :
    (a.lookup key).map tree = (b.lookup key).map tree := by
  induction a generalizing b with
  | nil =>
    cases b with
    | nil => rfl
    | cons pair b => cases h
  | cons pair a ih =>
    cases b with
    | nil => cases h
    | cons pair' b =>
      obtain ⟨k, v⟩ := pair
      obtain ⟨k', v'⟩ := pair'
      rw [pairsOf, pairsOf, List.cons.injEq, Prod.mk.injEq] at h
      obtain ⟨⟨hkey, hvalue⟩, hrest⟩ := h
      -- keys that are written alike are equal, so both lookups take the same turn
      cases unitsOf_injective hkey
      rw [lookup_cons_ite, lookup_cons_ite]
      split
      · exact congrArg some hvalue
      · exact ih hrest

/-- In values that are written the same, a key leads to values that are written the same. -/
theorem map_tree_get?_eq {a b : Json} (h : a.tree = b.tree) (key : String) :
    (a.get? key).map tree = (b.get? key).map tree := by
  -- only an object has an object's tree, so both sides have fields or neither has
  have hobject (pairs : List (String × Json)) (c : Json) (hc : (Json.fields pairs).tree = c.tree) :
      ∃ fields, c = .fields fields := by
    cases c with
    | fields fields => exact ⟨fields, rfl⟩
    | number n =>
      rw [tree, tree, Number.tree] at hc
      split at hc <;> cases hc
    | _ => cases hc
  cases a with
  | fields pairs =>
    obtain ⟨fields, rfl⟩ := hobject pairs b h
    rw [tree, tree, Tree.object.injEq] at h
    exact map_tree_lookup_eq h key
  | _ =>
    cases b with
    | fields fields =>
      obtain ⟨pairs, heq⟩ := hobject fields _ h.symm
      cases heq
    | _ => rfl

/-- What is read back from a value that was written. -/
theorem read?_render (v : Json) : read? v.render = v.tree.value? maxDepth := by
  rw [read?, render, String.toList_ofList, ofText?_write, Option.bind_some]

end Concordance.Json
