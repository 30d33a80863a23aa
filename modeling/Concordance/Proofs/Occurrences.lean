import Mathlib.Data.List.Infix

/-!
# Where a pattern occurs

The places of a list at which a pattern begins, overlaps counted. A separator that is not in the pattern
keeps the occurrences before it and behind it apart.
-/

namespace Concordance

variable {β γ : Type} [BEq β] [BEq γ]

/-- The number of places at which the items of a pattern stand one after the other. -/
def occurrences (pattern items : List β) : Nat :=
  items.tails.countP fun rest => pattern.isPrefixOf rest

variable {pattern items rest : List β}

theorem occurrences_nil (h : pattern ≠ []) : occurrences pattern [] = 0 := by
  obtain ⟨x, pattern, rfl⟩ := List.exists_cons_of_ne_nil h
  rfl

theorem occurrences_cons (pattern : List β) (x : β) (rest : List β) :
    occurrences pattern (x :: rest) =
      occurrences pattern rest + if pattern.isPrefixOf (x :: rest) then 1 else 0 := by
  rw [occurrences, List.tails_cons, List.countP_cons]
  rfl

theorem occurrences_le_length (hne : pattern ≠ []) (items : List β) :
    occurrences pattern items ≤ items.length := by
  induction items with
  | nil => simp [occurrences_nil hne]
  | cons y items ih =>
      rw [occurrences_cons, List.length_cons]
      split
      · omega
      · omega

/-- The places by their numbers. -/
theorem occurrences_eq_countP_range (hne : pattern ≠ []) (items : List β) :
    occurrences pattern items =
      (List.range items.length).countP fun place => pattern.isPrefixOf (items.drop place) := by
  induction items with
  | nil => exact occurrences_nil hne
  | cons y items ih =>
      rw [occurrences_cons, List.length_cons, List.range_succ_eq_map, List.countP_cons,
        List.countP_map, ih]
      rfl

variable [LawfulBEq β] [LawfulBEq γ]

/-- A pattern without the separator begins before it only if it ends before it. -/
theorem isPrefixOf_append_separator {s : β} (hs : s ∉ pattern) (items rest : List β) :
    pattern.isPrefixOf (items ++ s :: rest) = pattern.isPrefixOf items := by
  induction items generalizing pattern with
  | nil =>
      cases pattern with
      | nil => rfl
      | cons x pattern =>
          have hx : (x == s) = false := beq_eq_false_iff_ne.2 fun h => hs (by simp [h])
          rw [List.nil_append, List.isPrefixOf_cons_cons, hx]
          rfl
  | cons y items ih =>
      cases pattern with
      | nil => rfl
      | cons x pattern =>
          rw [List.cons_append, List.isPrefixOf_cons_cons, List.isPrefixOf_cons_cons,
            ih fun h => hs (List.mem_cons_of_mem _ h)]

/-- No occurrence reaches across an item that the pattern has not. -/
theorem occurrences_append_separator {s : β} (hne : pattern ≠ []) (hs : s ∉ pattern)
    (items rest : List β) :
    occurrences pattern (items ++ s :: rest) =
      occurrences pattern items + occurrences pattern rest := by
  induction items with
  | nil =>
      have hfirst := isPrefixOf_append_separator hs [] rest
      obtain ⟨x, pattern, rfl⟩ := List.exists_cons_of_ne_nil hne
      rw [List.nil_append] at hfirst ⊢
      rw [occurrences_cons, hfirst, occurrences_nil hne]
      simp
  | cons y items ih =>
      rw [List.cons_append, occurrences_cons, occurrences_cons, ih, ← List.cons_append,
        isPrefixOf_append_separator hs]
      omega

/-- Places that hold nothing but separators make no difference. -/
theorem occurrences_replicate_append {s : β} (hne : pattern ≠ []) (hs : s ∉ pattern) (n : Nat)
    (items : List β) :
    occurrences pattern (List.replicate n s ++ items) = occurrences pattern items := by
  induction n with
  | zero => rfl
  | succ n ih =>
      have hstep := occurrences_append_separator hne hs [] (List.replicate n s ++ items)
      rw [List.nil_append, occurrences_nil hne, ih, Nat.zero_add] at hstep
      rw [List.replicate_succ, List.cons_append, hstep]

theorem isPrefixOf_map {f : β → γ} (hf : Function.Injective f) (pattern items : List β) :
    (pattern.map f).isPrefixOf (items.map f) = pattern.isPrefixOf items := by
  rw [Bool.eq_iff_iff, List.isPrefixOf_iff_prefix, List.isPrefixOf_iff_prefix]
  exact List.prefix_map_iff_of_injective hf

/-- A renaming that keeps items apart keeps the number of occurrences. -/
theorem occurrences_map {f : β → γ} (hf : Function.Injective f) (pattern items : List β) :
    occurrences (pattern.map f) (items.map f) = occurrences pattern items := by
  induction items with
  | nil =>
      cases pattern with
      | nil => rfl
      | cons x pattern => rfl
  | cons y items ih =>
      rw [List.map_cons, occurrences_cons, occurrences_cons, ih, ← List.map_cons,
        isPrefixOf_map hf]

/-- A pattern occurs if it is an infix. -/
theorem occurrences_pos_iff : 0 < occurrences pattern items ↔ pattern <:+: items := by
  simp only [occurrences, List.countP_pos_iff, List.mem_tails, List.isPrefixOf_iff_prefix,
    List.infix_iff_prefix_suffix]
  constructor
  · rintro ⟨rest, hsuffix, hfront⟩
    exact ⟨rest, hfront, hsuffix⟩
  · rintro ⟨rest, hfront, hsuffix⟩
    exact ⟨rest, hsuffix, hfront⟩

end Concordance
