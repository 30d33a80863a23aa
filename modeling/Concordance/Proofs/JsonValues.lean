import Concordance.Proofs.JsonFields

/-!
# Values that come back

A value that was read from a text can be written again. From the new text the same value is read, if it holds no
floating-point number: texts keep their characters, integers their digits, and the fields of an object are in
order already (`value?_tree`).
-/

namespace Concordance.Json

/-! ### Values of trees -/

/-- The value of a tree that is nested at most `depth` deep. -/
def IsValue (depth : Nat) (v : Json) : Prop :=
  ∃ tree : Tree, tree.value? depth = some v

/-- The items of an array are values that are nested as deep as the array allows. -/
theorem isValue_of_mem_valuesOf? {depth : Nat} {trees : List Tree} {items : List Json}
    (h : valuesOf? depth trees = some items) : ∀ item ∈ items, IsValue depth item := by
  induction trees generalizing items with
  | nil =>
    cases h
    exact List.forall_mem_nil _
  | cons tree trees ih =>
    rw [valuesOf?] at h
    obtain ⟨value, hvalue, h⟩ := Option.bind_eq_some_iff.1 h
    obtain ⟨rest, hrest, h⟩ := Option.bind_eq_some_iff.1 h
    cases h
    exact List.forall_mem_cons.2 ⟨⟨tree, hvalue⟩, ih hrest⟩

namespace IsValue

variable {depth : Nat}

/-- An array is nested one level deeper than its items. -/
theorem items {items : List Json} (h : IsValue depth (.array items)) :
    depth ≠ 0 ∧ ∀ item ∈ items, IsValue (depth - 1) item := by
  obtain ⟨tree, h⟩ := h
  cases tree with
  | array trees =>
    rw [Tree.value?] at h
    split at h
    · cases h
    · next hdepth =>
      obtain ⟨values, hvalues, heq⟩ := Option.map_eq_some_iff.1 h
      cases heq
      exact ⟨hdepth, isValue_of_mem_valuesOf? hvalues⟩
  | object members =>
    rw [Tree.value?] at h
    split at h
    · cases h
    · obtain ⟨fields, -, heq⟩ := Option.map_eq_some_iff.1 h
      cases heq
  | _ => simp [Tree.value?] at h

theorem fields {pairs : List (String × Json)} (h : IsValue depth (.fields pairs)) :
    depth ≠ 0 ∧ Ordered pairs ∧ ∀ pair ∈ pairs, IsValue (depth - 1) pair.2 := by
  obtain ⟨tree, h⟩ := h
  obtain ⟨members, depth, fields, rfl, hfields, rfl⟩ := value?_eq_fields h
  exact ⟨Nat.succ_ne_zero depth, ordered_sortFields fields, fun pair hpair =>
    exists_value?_of_mem hfields (mem_of_mem_sortFields hpair)⟩

/-- A negative integer that is read fits 64 bits. -/
theorem negative {n : Int} (h : IsValue depth (.number (.negative n))) :
    0 < n.natAbs ∧ n.natAbs ≤ 0x8000000000000000 ∧ n = -(n.natAbs : Int) := by
  obtain ⟨tree, h⟩ := h
  cases tree with
  | number text =>
    obtain ⟨m, hm, heq⟩ := Option.map_eq_some_iff.1 h
    cases heq
    rw [NumberText.value?] at hm
    split at hm
    · next whole hwhole =>
      cases hm
      unfold NumberText.integer? at hwhole
      split at hwhole
      · cases hwhole
      · dsimp only at hwhole
        split at hwhole
        · split at hwhole
          · next hrange =>
            cases hwhole
            omega
          · cases hwhole
        · split at hwhole <;> cases hwhole
    · obtain ⟨x, -, heq⟩ := Option.map_eq_some_iff.1 hm
      cases heq
  | _ => simp [Tree.value?, object] at h

end IsValue

/-! ### Reading again -/

theorem sortFields_eq_self {pairs : List (String × Json)} (h : Ordered pairs) : sortFields pairs = pairs := by
  refine (ordered_sortFields pairs).ext h fun key => ?_
  rw [sortFields, lookup_foldl_insertField, lookup_reverse (h.imp String.ne_of_lt)]
  exact Option.or_none

theorem value?_negative {n : Int} (hpos : 0 < n.natAbs) (hle : n.natAbs ≤ 0x8000000000000000)
    (heq : n = -(n.natAbs : Int)) (depth : Nat) :
    (Json.number (.negative n)).tree.value? depth = some (.number (.negative n)) := by
  rw [tree, Number.tree, Number.text?, Tree.value?, NumberText.value?, NumberText.integer?]
  simp only [Decimal.digitsValue_toDigits]
  rw [if_neg (by decide), if_pos trivial, if_pos ⟨hpos, hle⟩, ← heq]
  rfl

mutual

/-- The value holds no floating-point number. -/
def Floatless : Json → Prop
  | .number (.float _) => False
  | .array items => FloatlessItems items
  | .fields pairs => FloatlessPairs pairs
  | _ => True

def FloatlessItems : List Json → Prop
  | [] => True
  | item :: items => item.Floatless ∧ FloatlessItems items

def FloatlessPairs : List (String × Json) → Prop
  | [] => True
  | (_, value) :: pairs => value.Floatless ∧ FloatlessPairs pairs

end

mutual

/-- A value that was read is read again from what it is written as. -/
theorem value?_tree : ∀ (v : Json) {depth : Nat}, IsValue depth v → v.Floatless → v.tree.value? depth = some v
  | .null, _, _, _ => by rw [tree, Tree.value?]
  | .bool b, _, _, _ => by rw [tree, Tree.value?]
  | .string s, depth, _, _ => value?_string depth s
  | .number (.natural n), depth, _, _ => by
    have h := value?_ofNat depth n.toNat
    rwa [ofNat, UInt64.ofNat_toNat] at h
  | .number (.negative n), depth, h, _ => by
    obtain ⟨hpos, hle, heq⟩ := h.negative
    exact value?_negative hpos hle heq depth
  | .number (.float x), _, _, hfloat => by
    rw [Floatless] at hfloat
    exact hfloat.elim
  | .array items, depth, h, hfloat => by
    rw [Floatless] at hfloat
    obtain ⟨hdepth, hitems⟩ := h.items
    rw [tree, Tree.value?, if_neg hdepth, valuesOf?_treesOf items hitems hfloat]
    rfl
  | .fields pairs, depth, h, hfloat => by
    rw [Floatless] at hfloat
    obtain ⟨hdepth, hordered, hpairs⟩ := h.fields
    rw [tree, Tree.value?, if_neg hdepth, fieldsOf?_pairsOf pairs hpairs hfloat, Option.map_some, object,
      sortFields_eq_self hordered]

theorem valuesOf?_treesOf : ∀ (items : List Json) {depth : Nat}, (∀ item ∈ items, IsValue depth item) →
    FloatlessItems items → valuesOf? depth (treesOf items) = some items
  | [], _, _, _ => by rw [treesOf, valuesOf?]
  | item :: items, depth, h, hfloat => by
    rw [FloatlessItems] at hfloat
    obtain ⟨hitem, hitems⟩ := List.forall_mem_cons.1 h
    rw [treesOf, valuesOf?, value?_tree item hitem hfloat.1, valuesOf?_treesOf items hitems hfloat.2]
    rfl

/-- Fields that were written are read again if none of their values holds a floating-point number. -/
theorem fieldsOf?_pairsOf : ∀ (pairs : List (String × Json)) {depth : Nat},
    (∀ pair ∈ pairs, IsValue depth pair.2) → FloatlessPairs pairs →
    fieldsOf? depth (pairsOf pairs) = some pairs
  | [], _, _, _ => by rw [pairsOf, fieldsOf?]
  | (key, value) :: pairs, depth, h, hfloat => by
    rw [FloatlessPairs] at hfloat
    obtain ⟨hvalue, hpairs⟩ := List.forall_mem_cons.1 h
    rw [pairsOf, fieldsOf?, textOfUnits?_unitsOf, value?_tree value hvalue hfloat.1,
      fieldsOf?_pairsOf pairs hpairs hfloat.2]
    rfl

end

end Concordance.Json
