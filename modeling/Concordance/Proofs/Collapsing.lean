import Concordance.Proofs.CharacterLaws
import Concordance.Proofs.TextRuns

/-!
# Collapsed white space

A text that neither begins nor ends with white space is its words with one space between each two, and has
the same terms as before, because white space never stands inside a run.
-/

namespace Concordance

open Text

/-! ### Words -/

namespace Text

theorem collapseFrom_append {run : List Char} (h : ∀ c ∈ run, isBlank c = false) (rest : List Char) :
    collapseFrom false (run ++ rest) = run ++ collapseFrom false rest := by
  induction run with
  | nil => rfl
  | cons c run ih =>
      have hc : isBlank c = false := h c List.mem_cons_self
      have hrun : ∀ d ∈ run, isBlank d = false := fun d hd => h d (List.mem_cons_of_mem _ hd)
      rw [List.cons_append, collapseFrom, hc, ih hrun]
      rfl

/-- White space that is being read becomes one space before the next character. -/
theorem collapseFrom_true_cons {c : Char} (h : isBlank c = false) (rest : List Char) :
    collapseFrom true (c :: rest) = ' ' :: collapseFrom false (c :: rest) := by
  rw [collapseFrom, collapseFrom, h]
  rfl

/-- A text with more than white space has a word. -/
theorem words_ne_nil {cs : List Char} {c : Char} (hc : c ∈ cs) (h : isBlank c = false) :
    words cs ≠ [] := by
  induction cs with
  | nil => cases hc
  | cons d rest ih =>
      rw [words, runsOf]
      split
      · exact List.cons_ne_nil _ _
      · next hd =>
          rcases List.mem_cons.1 hc with rfl | hc
          · exact absurd (by simpa using h) hd
          · exact ih hc

/-- With white space before it, a text becomes its words with a space before each. -/
theorem collapseFrom_true_eq {cs : List Char} (hne : cs ≠ [])
    (hlast : isBlank (cs.getLast hne) = false) :
    collapseFrom true cs = ' ' :: joinWith [' '] (words cs) := by
  -- along the first run and the white space behind it
  induction cs using separator_induction (p := fun c => !isBlank c) with
  | run cs h =>
      obtain ⟨c, rest, rfl⟩ := List.exists_cons_of_ne_nil hne
      have hwords : words (c :: rest) = [c :: rest] := runsOf_of_all hne h
      have hplain : ∀ d ∈ c :: rest, isBlank d = false := fun d hd => by simpa using h d hd
      have hstays := collapseFrom_append hplain []
      rw [List.append_nil] at hstays
      rw [collapseFrom_true_cons (hplain c List.mem_cons_self), hstays, hwords]
      simp [collapseFrom, joinWith]
  | separator cs s rest h hs ih =>
      -- what decides how `cs` ends is `rest`
      have hblank : isBlank s = true := by simpa using hs
      have hrest : rest ≠ [] := by
        rintro rfl
        rw [List.getLast_append_of_ne_nil _ (List.cons_ne_nil _ _), List.getLast_singleton, hblank] at hlast
        cases hlast
      have hend : isBlank (rest.getLast hrest) = false := by
        rwa [List.getLast_append_of_ne_nil _ (List.cons_ne_nil _ _), List.getLast_cons hrest] at hlast
      have hwords : words (cs ++ s :: rest) = words cs ++ words rest :=
        runsOf_append_separator hs cs rest
      have hskip : collapseFrom false (s :: rest) = collapseFrom true rest := by
        rw [collapseFrom, if_pos hblank]
      rw [hwords]
      cases cs with
      | nil =>
          have hnone : words [] = [] := by rw [words, runsOf]
          rw [List.nil_append, collapseFrom, if_pos hblank, ih hrest hend, hnone, List.nil_append]
      | cons c cs =>
          have hplain : ∀ d ∈ c :: cs, isBlank d = false := fun d hd => by simpa using h d hd
          have hone : words (c :: cs) = [c :: cs] := runsOf_of_all (List.cons_ne_nil _ _) h
          obtain ⟨word, more, hmore⟩ := List.exists_cons_of_ne_nil
            (words_ne_nil (List.getLast_mem hrest) hend)
          rw [List.cons_append, collapseFrom_true_cons (hplain c List.mem_cons_self),
            ← List.cons_append, collapseFrom_append hplain, hskip, ih hrest hend, hone, hmore]
          simp [joinWith]

/-- Between its first and its last word, collapsing a text is joining its words. -/
theorem joinWith_words_eq_collapse {cs : List Char} (hne : cs ≠ [])
    (hhead : isBlank (cs.head hne) = false) (hlast : isBlank (cs.getLast hne) = false) :
    joinWith [' '] (words cs) = collapse cs := by
  have hspaced := collapseFrom_true_eq hne hlast
  obtain ⟨c, rest, rfl⟩ := List.exists_cons_of_ne_nil hne
  rw [List.head_cons] at hhead
  rw [collapseFrom_true_cons hhead] at hspaced
  exact (List.cons.inj hspaced).2.symm

/-- Collapsing makes no text longer; a space that is pending still has to be written. -/
theorem length_collapseFrom_le (pending : Bool) (cs : List Char) :
    (collapseFrom pending cs).length ≤ cs.length + if pending then 1 else 0 := by
  -- a pending space is put out before the next word only, so it counts once
  induction cs generalizing pending with
  | nil =>
      cases pending with
      | true => exact Nat.le_refl _
      | false => exact Nat.le_refl _
  | cons c rest ih =>
      rw [collapseFrom]
      split
      · have hrest := ih true
        rw [if_pos rfl] at hrest
        rw [List.length_cons]
        omega
      · have hrest := ih false
        rw [if_neg Bool.false_ne_true] at hrest
        rw [List.length_append, List.length_cons]
        cases pending with
        | true =>
            simp only [if_true, List.length_cons, List.length_nil]
            omega
        | false =>
            simp only [Bool.false_eq_true, if_false, List.length_cons, List.length_nil]
            omega

/-- Collapsing does not make a text longer. -/
theorem length_collapse_le (cs : List Char) : (collapse cs).length ≤ cs.length :=
  length_collapseFrom_le false cs

theorem collapse_ne_nil {cs : List Char} (hne : cs ≠ []) (hhead : isBlank (cs.head hne) = false) :
    collapse cs ≠ [] := by
  obtain ⟨c, rest, rfl⟩ := List.exists_cons_of_ne_nil hne
  rw [List.head_cons] at hhead
  rw [collapse, collapseFrom, hhead]
  exact List.cons_ne_nil _ _

end Text

/-! ### Terms -/

section Terms

variable [CharacterTable]

namespace TokenizerConfig

variable {config : TokenizerConfig}

/-- Behind any text, white space that is being read may count as one space, or not be collapsed at all. -/
theorem termsIn_append_collapseFrom (hblank : ∀ c, isBlank c = true → isWordChar c = false)
    (pending : Bool) (front cs : List Char) :
    config.termsIn (front ++ collapseFrom pending cs) =
      config.termsIn (front ++ ((if pending then [' '] else []) ++ cs)) := by
  have hseparates {c : Char} (h : isBlank c = true) (front rest : List Char) :
      config.termsIn (front ++ c :: rest) = config.termsIn front ++ config.termsIn rest :=
    termsIn_append_separator (isRunChar_of_isBlank hblank h) front rest
  have hspace : isBlank ' ' = true := by decide
  induction cs generalizing pending front with
  | nil => rw [collapseFrom, List.append_nil]
  | cons c rest ih =>
      rw [collapseFrom]
      split
      · next hc =>
          -- either way there is only white space between `front` and `rest`
          have hone := ih true front
          rw [if_pos rfl, List.singleton_append, hseparates hspace] at hone
          rw [hone]
          cases pending with
          | true =>
              have hnone := hseparates hc [] rest
              rw [termsIn_nil, List.nil_append, List.nil_append] at hnone
              rw [if_pos rfl, List.singleton_append, hseparates hspace, hnone]
          | false => rw [if_neg Bool.false_ne_true, List.nil_append, hseparates hc]
      · have hkeeps (front : List Char) := ih false front
        simp only [Bool.false_eq_true, if_false, List.nil_append] at hkeeps
        rw [← List.append_assoc, hkeeps]
        cases pending with
        | true => simp
        | false => simp

/-- Collapsing white space changes no terms. -/
theorem termsIn_collapse (hblank : ∀ c, isBlank c = true → isWordChar c = false) (cs : List Char) :
    config.termsIn (collapse cs) = config.termsIn cs :=
  termsIn_append_collapseFrom hblank false [] cs

end TokenizerConfig

end Terms

end Concordance
