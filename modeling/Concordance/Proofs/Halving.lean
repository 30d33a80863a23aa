import Concordance.Halving

/-!
# Halving finds what is there

The place that halving reaches is the last one that does not lie above what is looked for, provided
that what lies behind a place above lies above as well. In a list in ascending order of its keys an
item is found if and only if it has the key.
-/

namespace Concordance

/-- The place that halving reaches is one of those where it began. -/
theorem halve_bounds (isAbove : Nat → Bool) (base : Nat) {size : Nat} (hpos : 0 < size) :
    base ≤ halve isAbove base size ∧ halve isAbove base size < base + size := by
  fun_induction halve isAbove base size with
  | case1 base size hsmall => omega
  | case2 base size hlarge half ih =>
      simp only [dite_eq_ite] at ih
      have hstep := ih (by omega)
      by_cases habove : isAbove (base + half) = true
      · rw [if_pos habove] at hstep ⊢
        omega
      · rw [if_neg habove] at hstep ⊢
        omega

/-- The place that is reached does not lie above, unless it is the first. -/
theorem isAbove_halve (isAbove : Nat → Bool) (base size : Nat) :
    halve isAbove base size = base ∨ isAbove (halve isAbove base size) = false := by
  fun_induction halve isAbove base size with
  | case1 base size hsmall => exact .inl rfl
  | case2 base size hlarge half ih =>
      simp only [dite_eq_ite] at ih
      rcases ih with hplace | hbelow
      · rw [hplace]
        cases habove : isAbove (base + half) with
        | true => exact .inl (by simp)
        | false => exact .inr (by simpa using habove)
      · exact .inr hbelow

/-- All places behind the one that is reached lie above. -/
theorem isAbove_of_halve_lt {isAbove : Nat → Bool} {base size : Nat}
    (hmono : ∀ i j, i ≤ j → j < base + size → isAbove i = true → isAbove j = true) {place : Nat}
    (hlt : halve isAbove base size < place) (hplace : place < base + size) :
    isAbove place = true := by
  fun_induction halve isAbove base size with
  | case1 base size hsmall => omega
  | case2 base size hlarge half ih =>
      simp only [dite_eq_ite] at ih
      cases habove : isAbove (base + half) with
      | true =>
          simp only [habove, if_true] at ih hlt
          -- the places that are dropped lie behind the middle, which is above
          by_cases hin : place < base + (size - half)
          · exact ih (fun i j hij hj => hmono i j hij (by omega)) hlt hin
          · exact hmono (base + half) place (by omega) hplace habove
      | false =>
          simp only [habove, Bool.false_eq_true, if_false] at ih hlt
          exact ih (fun i j hij hj => hmono i j hij (by omega)) hlt (by omega)

/-- If exactly the places behind one lie above, that one is reached. -/
theorem halve_eq {isAbove : Nat → Bool} {place size : Nat} (hplace : place < size)
    (habove : ∀ i, i < size → (isAbove i = true ↔ place < i)) : halve isAbove 0 size = place := by
  have hbounds := halve_bounds isAbove 0 (show 0 < size by omega)
  have hmono (i j : Nat) (hij : i ≤ j) (hj : j < 0 + size) (hi : isAbove i = true) :
      isAbove j = true := by
    rw [habove _ (by omega)] at hi ⊢
    omega
  rcases Nat.lt_trichotomy (halve isAbove 0 size) place with hless | heq | hmore
  · have hself := (habove place hplace).1 (isAbove_of_halve_lt hmono hless (by omega))
    omega
  · exact heq
  · rcases isAbove_halve isAbove 0 size with hzero | hnot
    · omega
    · rw [(habove _ (by omega)).2 hmore] at hnot
      cases hnot

/-- In a list in ascending order of the keys, what is found is what has the key. -/
theorem findByKey?_eq_some_iff {α : Type} {key : α → UInt32} {wanted : UInt32} {items : List α}
    {item : α} (h : items.Pairwise fun a b => key a < key b) :
    findByKey? key wanted items = some item ↔ item ∈ items ∧ key item = wanted := by
  rw [findByKey?]
  simp only [List.size_toArray, List.getElem?_toArray]
  constructor
  · intro hfound
    split at hfound
    · next found hplace =>
        split at hfound
        · next hkey =>
            cases hfound
            exact ⟨List.mem_of_getElem? hplace, hkey⟩
        · cases hfound
    · cases hfound
  · rintro ⟨hmem, rfl⟩
    obtain ⟨place, hlt, rfl⟩ := List.getElem_of_mem hmem
    have hkeys := List.pairwise_iff_getElem.1 h
    rw [halve_eq hlt, List.getElem?_eq_getElem hlt]
    · simp
    · intro i hi
      rw [List.getElem?_eq_getElem hi, Option.map_some, Option.getD_some, decide_eq_true_eq]
      -- the test is true exactly at the places before the item, as the search requires
      rcases Nat.lt_trichotomy i place with hbefore | rfl | hbehind
      · have hkey := hkeys i place hi hlt hbefore
        exact ⟨fun hless => absurd (UInt32.lt_trans hless hkey) (UInt32.lt_irrefl _), by omega⟩
      · exact ⟨fun hless => absurd hless (UInt32.lt_irrefl _), by omega⟩
      · exact ⟨fun _ => hbehind, fun _ => hkeys place i hlt hi hbehind⟩

end Concordance
