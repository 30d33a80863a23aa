import Concordance.Proofs.Collapsing

/-!
# Single-spaced text

A text is single-spaced if its only white space is single spaces between other characters. What is
trimmed and collapsed is single-spaced, and a text that is so already stays as it is.
-/

namespace Concordance.Text

/-- The only white space of the text is single spaces, and it neither begins nor ends with one. -/
structure SingleSpaced (cs : List Char) : Prop where
  spaces : ∀ c ∈ cs, isBlank c = true → c = ' '
  single : ¬[' ', ' '] <:+: cs
  head : ∀ c ∈ cs.head?, isBlank c = false
  last : ∀ c ∈ cs.getLast?, isBlank c = false

variable {cs : List Char} {pending : Bool}

theorem singleSpaced_nil : SingleSpaced [] where
  spaces := by simp
  single := by simp
  head := by simp
  last := by simp

/-- A line feed is white space, so a single-spaced text has none. -/
theorem SingleSpaced.lineFeed_not_mem (h : SingleSpaced cs) : '\n' ∉ cs := fun hmem =>
  absurd (h.spaces _ hmem (by decide)) (by decide)

/-! ### What collapsing leaves -/

/-- The only white space that collapsing leaves is the space. -/
theorem eq_space_of_mem_collapseFrom {c : Char} (h : c ∈ collapseFrom pending cs)
    (hblank : isBlank c = true) : c = ' ' := by
  fun_induction collapseFrom pending cs with
  | case1 => simpa using h
  | case2 => simp at h
  | case3 pending d rest hd ih => exact ih h
  | case4 pending d rest hd ih =>
      rcases List.mem_append.1 h with h | h
      · have hne : c ≠ d := by
          rintro rfl
          exact hd hblank
        split at h
        · simpa [hne] using h
        · simp [hne] at h
      · exact ih h

/-- A space that collapsing leaves is followed by another character. -/
theorem isChain_collapseFrom (pending : Bool) (cs : List Char) :
    (collapseFrom pending cs).IsChain fun c d => ¬(c = ' ' ∧ d = ' ') := by
  fun_induction collapseFrom pending cs with
  | case1 => simp
  | case2 => simp
  | case3 pending d rest hd ih => exact ih
  | case4 pending d rest hd ih =>
      have hne : d ≠ ' ' := by
        rintro rfl
        exact hd (by decide)
      have hbehind : (d :: collapseFrom false rest).IsChain fun c d => ¬(c = ' ' ∧ d = ' ') := by
        rw [List.isChain_cons]
        exact ⟨fun e _ hboth => hne hboth.1, ih⟩
      split
      · rw [List.cons_append, List.singleton_append, List.isChain_cons]
        refine ⟨fun e he hboth => ?_, hbehind⟩
        obtain rfl : d = e := by simpa using he
        exact hne hboth.2
      · exact hbehind

/-- A text that does not end with white space ends alike when it is collapsed. -/
theorem getLast?_collapseFrom (hne : cs ≠ []) (hlast : ∀ c ∈ cs.getLast?, isBlank c = false) :
    (collapseFrom pending cs).getLast? = cs.getLast? := by
  induction cs generalizing pending with
  | nil => exact absurd rfl hne
  | cons c rest ih =>
      cases rest with
      | nil =>
          have hc : isBlank c = false := hlast c (by simp)
          cases pending with
          | true => simp [collapseFrom, hc]
          | false => simp [collapseFrom, hc]
      | cons d rest =>
          have hrest (pending : Bool) : (collapseFrom pending (d :: rest)).getLast? =
              (c :: d :: rest).getLast? := by
            rw [List.getLast?_cons_cons]
            exact ih (List.cons_ne_nil _ _) (by simpa using hlast)
          rw [collapseFrom]
          split
          · exact hrest true
          · rw [List.getLast?_append, hrest false, List.getLast?_cons_cons]
            simp [List.getLast?_cons]

/-- What is trimmed and collapsed is single-spaced. -/
theorem singleSpaced_collapse_trim (cs : List Char) : SingleSpaced (collapse (trim cs)) := by
  by_cases hne : trim cs = []
  · rw [hne]
    exact singleSpaced_nil
  · have hhead : isBlank ((trim cs).head hne) = false := head_trimBy hne
    have hlast : isBlank ((trim cs).getLast hne) = false := getLast_trimBy hne
    refine ⟨fun c => eq_space_of_mem_collapseFrom, ?_, ?_, ?_⟩
    · rintro ⟨front, back, heq⟩
      have hchain := List.isChain_iff_forall_rel_of_append_cons_cons.1
        (isChain_collapseFrom false (trim cs))
      have hpair : collapseFrom false (trim cs) = front ++ ' ' :: ' ' :: back := by
        rw [← collapse, ← heq, List.append_assoc]
        rfl
      exact hchain hpair ⟨rfl, rfl⟩
    · obtain ⟨c, rest, hcons⟩ := List.exists_cons_of_ne_nil hne
      simp only [hcons, List.head_cons] at hhead
      simp [hcons, collapse, collapseFrom, hhead]
    · rw [collapse, getLast?_collapseFrom hne (by simp [List.getLast?_eq_getLast_of_ne_nil hne, hlast])]
      simp [List.getLast?_eq_getLast_of_ne_nil hne, hlast]

/-! ### What collapsing does not change -/

theorem SingleSpaced.trim_eq (h : SingleSpaced cs) : trim cs = cs := by
  by_cases hne : cs = []
  · rw [hne]
    rfl
  · exact trimBy_eq_self hne (h.head _ (List.head_mem_head? hne)) (h.last _ (List.getLast_mem_getLast? hne))

/-- A text whose only white space is single spaces stays as it is. -/
theorem collapse_of_single (hspaces : ∀ c ∈ cs, isBlank c = true → c = ' ')
    (hsingle : ¬[' ', ' '] <:+: cs) : collapse cs = cs := by
  induction cs with
  | nil => rfl
  | cons c rest ih =>
      have hrest : collapse rest = rest :=
        ih (fun d hd => hspaces d (List.mem_cons_of_mem _ hd)) fun h =>
          hsingle (h.trans (List.suffix_cons c rest).isInfix)
      rw [collapse, collapseFrom]
      split
      · next hc =>
          obtain rfl : c = ' ' := hspaces c List.mem_cons_self hc
          cases rest with
          | nil => rfl
          | cons d rest =>
              -- the next character is no space either, so it is no white space
              have hd : isBlank d = false := by
                by_contra hd
                obtain rfl : d = ' ' := hspaces d (by simp) (by simpa using hd)
                exact hsingle ⟨[], rest, rfl⟩
              rw [collapseFrom_true_cons hd, ← collapse, hrest]
      · rw [if_neg Bool.false_ne_true, ← collapse, hrest]
        rfl

theorem SingleSpaced.collapse_eq (h : SingleSpaced cs) : collapse cs = cs :=
  collapse_of_single h.spaces h.single

end Concordance.Text
