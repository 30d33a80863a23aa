import Concordance.Proofs.TextRuns

/-!
# Maximal runs

A run of a text is a stretch of characters with some property that cannot be made longer on either side.
The runs of a text are its maximal stretches: each of them is one, any two have a separator between them,
and every character with the property stands in one of them.
-/

namespace Concordance

open Text

section Ends

variable {α : Type} {x s : α} {before behind : List α}

theorem mem_head?_append_cons (h : x ∈ (before ++ s :: behind).head?) : x ∈ before.head? ∨ x = s := by
  cases before with
  | nil =>
      cases h
      exact .inr rfl
  | cons y before => exact .inl h

theorem mem_getLast?_append_cons (h : x ∈ (before ++ s :: behind).getLast?) :
    x = s ∨ x ∈ behind.getLast? := by
  rw [List.getLast?_append, List.getLast?_cons] at h
  cases hlast : behind.getLast? with
  | none =>
      rw [hlast] at h
      cases h
      exact .inl rfl
  | some y =>
      rw [hlast] at h
      cases h
      exact .inr rfl

end Ends

section Maximal

variable {p : Char → Bool} {before word after : List Char}

/-- In `before ++ word ++ after`, the characters of `word` have the property and those next to it have not. -/
structure IsMaximalRun (p : Char → Bool) (before word after : List Char) : Prop where
  ne_nil : word ≠ []
  all : ∀ c ∈ word, p c = true
  last_before : ∀ c ∈ before.getLast?, p c = false
  head_after : ∀ c ∈ after.head?, p c = false

theorem isMaximalRun_of_all (hne : word ≠ []) (h : ∀ c ∈ word, p c = true) : IsMaximalRun p [] word [] where
  ne_nil := hne
  all := h
  last_before := by simp
  head_after := by simp

namespace IsMaximalRun

variable {s : Char}

/-- A run stays one with a separator behind it and anything behind that. -/
theorem append_separator (hs : p s = false) (h : IsMaximalRun p before word after) (rest : List Char) :
    IsMaximalRun p before word (after ++ s :: rest) where
  ne_nil := h.ne_nil
  all := h.all
  last_before := h.last_before
  head_after c hc := (mem_head?_append_cons hc).elim (h.head_after c) fun heq => heq ▸ hs

/-- A run stays one with a separator before it and anything before that. -/
theorem separator_append (hs : p s = false) (h : IsMaximalRun p before word after) (front : List Char) :
    IsMaximalRun p (front ++ s :: before) word after where
  ne_nil := h.ne_nil
  all := h.all
  last_before c hc := (mem_getLast?_append_cons hc).elim (fun heq => heq ▸ hs) (h.last_before c)
  head_after := h.head_after

end IsMaximalRun

/-- A text without separators is one run. -/
theorem eq_of_mem_runsOf {cs : List Char} (hall : ∀ c ∈ cs, p c = true) (h : word ∈ runsOf p cs) :
    cs ≠ [] ∧ word = cs := by
  by_cases hne : cs = []
  · rw [hne, runsOf] at h
    cases h
  · rw [runsOf_of_all hne hall, List.mem_singleton] at h
    exact ⟨hne, h⟩

/-- The runs that are cut out of a text are maximal. -/
theorem exists_of_mem_runsOf {cs : List Char} (h : word ∈ runsOf p cs) :
    ∃ before after, cs = before ++ word ++ after ∧ IsMaximalRun p before word after := by
  induction cs using separator_induction (p := p) with
  | run cs hall =>
      obtain ⟨hne, rfl⟩ := eq_of_mem_runsOf hall h
      exact ⟨[], [], by simp, isMaximalRun_of_all hne hall⟩
  | separator cs s rest hall hs ih =>
      rw [runsOf_append_separator hs, List.mem_append] at h
      rcases h with h | h
      · obtain ⟨hne, rfl⟩ := eq_of_mem_runsOf hall h
        exact ⟨[], s :: rest, by simp, (isMaximalRun_of_all hne hall).append_separator hs rest⟩
      · obtain ⟨before, after, rfl, hrun⟩ := ih h
        exact ⟨cs ++ s :: before, after, by simp, hrun.separator_append hs cs⟩

end Maximal

/-! ### Runs with their places -/

section Placed

variable [CharacterTable] {place : Place} {cs : List Char} {run : Run}

theorem eq_of_mem_runsFrom (hall : ∀ c ∈ cs, isRunChar c = true) (h : run ∈ runsFrom place cs) :
    cs ≠ [] ∧ run = ⟨place, cs⟩ := by
  by_cases hne : cs = []
  · rw [hne, runsFrom] at h
    cases h
  · rw [runsFrom_of_all hne hall, List.mem_singleton] at h
    exact ⟨hne, h⟩

/-- A run of a text is a maximal one and starts where it stands. -/
theorem exists_of_mem_runsFrom (h : run ∈ runsFrom place cs) :
    ∃ before after, cs = before ++ run.chars ++ after ∧ run.start = place.after before ∧
      IsMaximalRun isRunChar before run.chars after := by
  induction cs using separator_induction (p := isRunChar) generalizing place with
  | run cs hall =>
      obtain ⟨hne, rfl⟩ := eq_of_mem_runsFrom hall h
      exact ⟨[], [], by simp, rfl, isMaximalRun_of_all hne hall⟩
  | separator cs s rest hall hs ih =>
      rw [runsFrom_append_separator hs, List.mem_append] at h
      rcases h with h | h
      · obtain ⟨hne, rfl⟩ := eq_of_mem_runsFrom hall h
        exact ⟨[], s :: rest, by simp, rfl, (isMaximalRun_of_all hne hall).append_separator hs rest⟩
      · obtain ⟨before, after, heq, hstart, hrun⟩ := ih h
        refine ⟨cs ++ s :: before, after, by simp [heq], ?_, hrun.separator_append hs cs⟩
        rw [hstart, Place.after_after]
        simp

/-- A run lies within its text. -/
theorem bounds_of_mem_runsFrom (h : run ∈ runsFrom place cs) :
    place.char ≤ run.start.char ∧ run.stop.char ≤ place.char + cs.length := by
  obtain ⟨before, after, rfl, hstart, -⟩ := exists_of_mem_runsFrom h
  simp only [Run.stop, hstart, Place.char_after, List.length_append]
  omega

/-- Somewhere from the character number `i` on and before the number `j`, the text has a separator. -/
def Separates (cs : List Char) (i j : Nat) : Prop :=
  ∃ before s after, cs = before ++ s :: after ∧ isRunChar s = false ∧ i ≤ before.length ∧
    before.length < j

theorem Separates.lt {i j : Nat} (h : Separates cs i j) : i < j := by
  obtain ⟨before, s, after, -, -, hle, hlt⟩ := h
  exact Nat.lt_of_le_of_lt hle hlt

theorem Separates.mono {i i' j j' : Nat} (h : Separates cs i j) (hi : i' ≤ i) (hj : j ≤ j') :
    Separates cs i' j' := by
  obtain ⟨before, s, after, heq, hs, hle, hlt⟩ := h
  exact ⟨before, s, after, heq, hs, Nat.le_trans hi hle, Nat.lt_of_lt_of_le hlt hj⟩

/-- A text without separators has no two runs. -/
theorem pairwise_runsFrom_of_all {R : Run → Run → Prop} (hall : ∀ c ∈ cs, isRunChar c = true)
    (place : Place) : (runsFrom place cs).Pairwise R := by
  by_cases hne : cs = []
  · rw [hne, runsFrom]
    exact .nil
  · rw [runsFrom_of_all hne hall]
    exact List.pairwise_singleton _ _

/-- Between two runs of a text there is a separator. -/
theorem pairwise_runsFrom (front cs : List Char) :
    (runsFrom (Place.start.after front) cs).Pairwise fun a b =>
      Separates (front ++ cs) a.stop.char b.start.char := by
  induction cs using separator_induction (p := isRunChar) generalizing front with
  | run cs hall => exact pairwise_runsFrom_of_all hall _
  | separator cs s rest hall hs ih =>
      rw [runsFrom_append_separator hs, List.pairwise_append, Place.after_after]
      refine ⟨pairwise_runsFrom_of_all hall _, ?_, fun a ha b hb => ?_⟩
      · simpa using ih (front ++ (cs ++ [s]))
      · have hstop := (bounds_of_mem_runsFrom ha).2
        have hstart := (bounds_of_mem_runsFrom hb).1
        rw [Place.char_start_after] at hstop hstart
        refine ⟨front ++ cs, s, rest, by simp, hs, ?_, ?_⟩
        · rwa [List.length_append]
        · simp only [List.length_append, List.length_singleton] at hstart ⊢
          omega

/-- Every character of runs stands in one of them. -/
theorem exists_run_of_isRunChar {i : Nat} {c : Char} (hc : cs[i]? = some c) (hrun : isRunChar c = true)
    (place : Place) :
    ∃ run ∈ runsFrom place cs, run.start.char ≤ place.char + i ∧ place.char + i < run.stop.char := by
  induction cs using separator_induction (p := isRunChar) generalizing place i with
  | run cs hall =>
      obtain ⟨hi, -⟩ := List.getElem?_eq_some_iff.1 hc
      have hne : cs ≠ [] := List.ne_nil_of_length_pos (Nat.zero_lt_of_lt hi)
      rw [runsFrom_of_all hne hall]
      refine ⟨_, List.mem_singleton_self _, Nat.le_add_right _ _, ?_⟩
      rw [Run.stop, Place.char_after]
      exact Nat.add_lt_add_left hi _
  | separator cs s rest hall hs ih =>
      rw [runsFrom_append_separator hs]
      -- the character stands in the first run, at the separator, or in what follows it
      rcases Nat.lt_trichotomy i cs.length with hlt | heq | hgt
      · have hne : cs ≠ [] := List.ne_nil_of_length_pos (Nat.zero_lt_of_lt hlt)
        rw [runsFrom_of_all hne hall]
        refine ⟨_, List.mem_append_left _ (List.mem_singleton_self _), Nat.le_add_right _ _, ?_⟩
        rw [Run.stop, Place.char_after]
        exact Nat.add_lt_add_left hlt _
      · rw [heq, List.getElem?_append_right (Nat.le_refl _), Nat.sub_self, List.getElem?_cons_zero,
          Option.some.injEq] at hc
        rw [← hc, hs] at hrun
        cases hrun
      · have hrest : rest[i - (cs.length + 1)]? = some c := by
          rw [List.getElem?_append_right (Nat.le_of_lt hgt)] at hc
          rw [← hc, ← List.getElem?_cons_succ (a := s)]
          congr 1
          omega
        obtain ⟨run, hmem, hle, hlt⟩ := ih hrest (place.after (cs ++ [s]))
        refine ⟨run, List.mem_append_right _ hmem, ?_⟩
        rw [Place.char_after, List.length_append, List.length_singleton] at hle hlt
        omega

end Placed

end Concordance
