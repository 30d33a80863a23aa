import Concordance.Proofs.Trimming
import Concordance.Text.Decomposition
import Concordance.Text.Lowercase
import Mathlib

/-!
# What characters do under lower case and folding

The laws of a character table that the tokenizer relies on, each about single characters, and what
they give for whole texts: lower case is done after one pass, brings in no white space and takes no
character out of a word.
-/

namespace Concordance.Text

variable [CharacterTable]

/-- The characters that lower case can put in the place of `c`: sigma has two forms. -/
def lowerForms (c : Char) : List Char :=
  if c = 'Σ' then ['σ', 'ς'] else CharacterTable.toLower c

/-- Lower case leaves the character alone, wherever it stands. -/
def IsLowered (c : Char) : Prop :=
  c ≠ 'Σ' ∧ CharacterTable.toLower c = [c]

/-- Folding leaves the character alone. -/
def IsPlain (c : Char) : Prop :=
  CharacterTable.decompose c = [c] ∧ isMark c = false

class LawfulCharacters : Prop where
  toLower_ne_nil (c : Char) : CharacterTable.toLower c ≠ []
  isLowered_of_mem {c d : Char} : d ∈ lowerForms c → IsLowered d
  isWordChar_of_mem {c d : Char} : isWordChar c = true → d ∈ lowerForms c → isWordChar d = true
  isBlank_of_mem {c d : Char} : d ∈ lowerForms c → isBlank d = true → isBlank c = true
  isPlain_of_mem {c d e : Char} :
    d ∈ CharacterTable.decompose c → isMark d = false → e ∈ lowerForms d → IsPlain e
  combiningClass_of_not_isMark {c : Char} :
    isMark c = false → CharacterTable.combiningClass c = 0
  isWordChar_of_isBlank {c : Char} : isBlank c = true → isWordChar c = false
  isWordChar_quote : isWordChar '"' = false
  isJoiner_of_isWordChar {c : Char} : isWordChar c = true → isJoiner c = false
  isLowered_of_isJoiner {c : Char} : isJoiner c = true → IsLowered c
  not_isLowered_A : ¬ IsLowered 'A'
  not_isLowered_O : ¬ IsLowered 'O'

/-! ### Letters of ASCII -/

section Ascii

omit [CharacterTable]

theorem isAlpha_iff {c : Char} :
    c.isAlpha = true ↔ (65 ≤ c.toNat ∧ c.toNat ≤ 90) ∨ (97 ≤ c.toNat ∧ c.toNat ≤ 122) := by
  unfold Char.isAlpha Char.isUpper Char.isLower
  rw [Bool.or_eq_true, Bool.and_eq_true, decide_eq_true_eq, decide_eq_true_eq, decide_eq_true_eq]
  exact Iff.rfl

/-- The lower case of a letter of ASCII lies 32 behind it. -/
theorem toNat_toLower (c : Char) :
    c.toLower.toNat = if 65 ≤ c.toNat ∧ c.toNat ≤ 90 then c.toNat + 32 else c.toNat := by
  have hupper : (c.val ≥ 'A'.val ∧ c.val ≤ 'Z'.val) ↔ 65 ≤ c.toNat ∧ c.toNat ≤ 90 := Iff.rfl
  unfold Char.toLower
  split
  · next h =>
      have hlast : c.toNat ≤ 90 := (hupper.1 h).2
      rw [if_pos (hupper.1 h)]
      show (c.val + 32).toNat = c.toNat + 32
      rw [UInt32.toNat_add]
      show (c.toNat + 32) % 4294967296 = c.toNat + 32
      omega
  · next h => rw [if_neg fun hletter => h (hupper.2 hletter)]

/-- Only a letter is the lower case of anything else. -/
theorem toLower_eq_iff {c d : Char} (hc : c.isAlpha = false) : d.toLower = c ↔ d = c := by
  rw [← Bool.not_eq_true, isAlpha_iff] at hc
  rw [← Char.toNat_inj, ← Char.toNat_inj, toNat_toLower]
  split <;> omega

/-- What lower case of ASCII does not change in letters, it does not change. -/
theorem congr_toLower {β : Type} {f : Char → β} (hf : ∀ c, c.isAlpha = true → f c.toLower = f c)
    (c : Char) : f c.toLower = f c := by
  cases hc : c.isAlpha with
  | false => rw [(toLower_eq_iff hc).2 rfl]
  | true => exact hf c hc

/-- What is the same for all letters of ASCII is the same for a letter in lower case. -/
theorem apply_toLower {β : Type} {f : Char → β} {b : β} (hf : ∀ c, c.isAlpha = true → f c = b)
    (c : Char) : f c.toLower = f c := by
  refine congr_toLower (fun c hc => ?_) c
  rw [hf c hc, hf c.toLower (by rw [Char.isAlpha_toLower_eq_isAlpha, hc])]

end Ascii

/-! ### White space -/

/-- If no white space is a word character, none stands inside a run. -/
theorem isRunChar_of_isBlank (hblank : ∀ c, isBlank c = true → isWordChar c = false) {c : Char}
    (h : isBlank c = true) : isRunChar c = false := by
  rw [isRunChar, hblank c h, Bool.false_or, Bool.eq_false_iff]
  intro hjoiner
  rw [isJoiner, Bool.or_eq_true, beq_iff_eq, beq_iff_eq] at hjoiner
  rcases hjoiner with rfl | rfl
  · exact absurd h (by decide)
  · exact absurd h (by decide)

/-! ### Lower case -/

variable {before cs : List Char} {c d : Char}

theorem lowerSigma_mem (before after : List Char) : lowerSigma before after ∈ lowerForms 'Σ' := by
  rw [lowerForms, if_pos rfl, lowerSigma]
  split <;> simp

/-- Text whose characters are all in lower case stays. -/
theorem lowerAfter_of_isLowered (h : ∀ c ∈ cs, IsLowered c) : lowerAfter before cs = cs := by
  induction cs generalizing before with
  | nil => rfl
  | cons c rest ih =>
      have hc := h c List.mem_cons_self
      rw [lowerAfter, if_neg hc.1, hc.2, ih fun d hd => h d (List.mem_cons_of_mem _ hd)]
      rfl

theorem lower_of_isLowered (h : ∀ c ∈ cs, IsLowered c) : lower cs = cs :=
  lowerAfter_of_isLowered h

section Lawful

variable [LawfulCharacters]

open LawfulCharacters

/-- Some forms of the first character come first, and no character vanishes. -/
theorem lowerAfter_cons (before : List Char) (c : Char) (rest : List Char) :
    ∃ forms, forms ≠ [] ∧ (∀ d ∈ forms, d ∈ lowerForms c) ∧
      lowerAfter before (c :: rest) = forms ++ lowerAfter (c :: before) rest := by
  by_cases hc : c = 'Σ'
  · refine ⟨[lowerSigma before rest], by simp, ?_, by rw [lowerAfter, if_pos hc]⟩
    simpa [hc] using lowerSigma_mem before rest
  · refine ⟨CharacterTable.toLower c, toLower_ne_nil c, ?_, by rw [lowerAfter, if_neg hc]⟩
    simp [lowerForms, hc]

/-- Every character of a lower-case text comes from a character of the text. -/
theorem mem_lowerAfter (h : d ∈ lowerAfter before cs) : ∃ c ∈ cs, d ∈ lowerForms c := by
  induction cs generalizing before with
  | nil => cases h
  | cons c rest ih =>
      obtain ⟨forms, -, hforms, heq⟩ := lowerAfter_cons before c rest
      rw [heq] at h
      rcases List.mem_append.1 h with h | h
      · exact ⟨c, List.mem_cons_self, hforms d h⟩
      · obtain ⟨c', hc', hd⟩ := ih h
        exact ⟨c', List.mem_cons_of_mem _ hc', hd⟩

theorem mem_lower (h : d ∈ lower cs) : ∃ c ∈ cs, d ∈ lowerForms c :=
  mem_lowerAfter h

/-- Lower case leaves nothing more for lower case to do. -/
theorem isLowered_of_mem_lower (h : d ∈ lower cs) : IsLowered d := by
  obtain ⟨c, -, hd⟩ := mem_lower h
  exact isLowered_of_mem hd

@[simp] theorem lower_lower (cs : List Char) : lower (lower cs) = lower cs :=
  lower_of_isLowered fun _ h => isLowered_of_mem_lower h

theorem lower_ne_nil (h : cs ≠ []) : lower cs ≠ [] := by
  obtain ⟨c, rest, rfl⟩ := List.exists_cons_of_ne_nil h
  obtain ⟨forms, hne, -, heq⟩ := lowerAfter_cons [] c rest
  rw [lower, heq]
  simp [hne]

theorem head_lower (h : cs ≠ []) : (lower cs).head (lower_ne_nil h) ∈ lowerForms (cs.head h) := by
  obtain ⟨c, rest, rfl⟩ := List.exists_cons_of_ne_nil h
  obtain ⟨forms, hne, hforms, heq⟩ := lowerAfter_cons [] c rest
  simp only [lower, heq, List.head_append_of_ne_nil hne, List.head_cons]
  exact hforms _ (List.head_mem hne)

/-- The last character of a text in lower case comes from the last one of the text. -/
theorem getLast_lowerAfter (h : cs ≠ []) (hlow : lowerAfter before cs ≠ []) :
    (lowerAfter before cs).getLast hlow ∈ lowerForms (cs.getLast h) := by
  induction cs generalizing before with
  | nil => exact absurd rfl h
  | cons c rest ih =>
      -- every character leaves at least one, so none is lost at the end
      obtain ⟨forms, hne, hforms, heq⟩ := lowerAfter_cons before c rest
      simp only [heq]
      cases rest with
      | nil =>
          simp only [lowerAfter, List.append_nil, List.getLast_singleton]
          exact hforms _ (List.getLast_mem hne)
      | cons c' rest =>
          obtain ⟨forms', hne', -, heq'⟩ := lowerAfter_cons (c :: before) c' rest
          have hrest : lowerAfter (c :: before) (c' :: rest) ≠ [] := by simp [heq', hne']
          rw [List.getLast_append_of_ne_nil _ hrest, List.getLast_cons (by simp)]
          exact ih (by simp) hrest

/-- Lower case brings no white space to the ends of a text. -/
theorem trim_lower (h : trim cs = cs) : trim (lower cs) = lower cs := by
  by_cases hne : cs = []
  · subst hne
    rfl
  have stays {c d : Char} (hc : isBlank c = false) (hd : d ∈ lowerForms c) : isBlank d = false := by
    cases hblank : isBlank d with
    | false => rfl
    | true => exact absurd (isBlank_of_mem hd hblank) (by simp [hc])
  have htrim : trimBy isBlank cs = cs := h
  have hne' : trimBy isBlank cs ≠ [] := by rwa [htrim]
  apply trimBy_eq_self (lower_ne_nil hne)
  · have hhead := head_trimBy hne'
    simp only [htrim] at hhead
    exact stays hhead (head_lower hne)
  · have hlast := getLast_trimBy hne'
    simp only [htrim] at hlast
    exact stays hlast (getLast_lowerAfter hne _)

end Lawful

end Concordance.Text
