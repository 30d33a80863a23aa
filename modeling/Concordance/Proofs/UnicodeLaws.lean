import Concordance.Proofs.CharacterLaws
import Concordance.Proofs.CodePointSets
import Concordance.Unicode.Database

/-!
# The laws of the characters of Unicode

The table of Unicode has the laws that the tokenizer relies on. What a law says about all characters
is checked on sets of code points; from there it is carried over to characters.
-/

namespace Concordance.Unicode

open Text

/-! ## Sets of the characters of Unicode -/

def characterPoints : PointSet := PointSet.span 0 0xD7FF ||| PointSet.span 0xE000 0x10FFFF

def markPoints : PointSet := pointsOf mark.toList

def wordPoints : PointSet :=
  pointsOf alphabetic.toList ||| pointsOf number.toList ||| markPoints

def blankPoints : PointSet :=
  PointSet.span 0x9 0xD ||| PointSet.span 0x2000 0x200A |||
    PointSet.ofPoints [0x20, 0x85, 0xA0, 0x1680, 0x2028, 0x2029, 0x202F, 0x205F, 0x3000]

def hangulPoints : PointSet := PointSet.span 0xAC00 0xD7A3

/-- The jamo that the syllables of Hangul are made of. -/
def jamoPoints : PointSet :=
  PointSet.span 0x1100 0x1112 ||| PointSet.span 0x1161 0x1175 ||| PointSet.span 0x11A7 0x11C2

def lowerChanges : List (Nat × List Nat) := lowercase.toList.flatMap Block.changes

def lowerSources : PointSet := PointSet.ofPoints (lowerChanges.map Prod.fst)

def lowerTargets : PointSet := PointSet.ofPoints (lowerChanges.flatMap Prod.snd)

/-- The two forms of sigma in lower case. -/
def sigmaPoints : PointSet := PointSet.ofPoints [0x3C2, 0x3C3]

/-- The code points that decompose, apart from the syllables of Hangul. -/
def foldSources : PointSet := pointsOf Decomposition.blocks

/-- The code points that something decomposes to. -/
def foldTargets : PointSet :=
  PointSet.union Block.imageSet Decomposition.blocks ||| jamoPoints

/-- What folding does not leave alone. -/
def unplainPoints : PointSet := foldSources ||| hangulPoints ||| markPoints

/-- What lower case makes of the characters that do not decompose. -/
def plainLowerTargets : PointSet :=
  let sources := foldSources
  PointSet.ofPoints ((lowerChanges.filter fun change => !sources.testBit change.1).flatMap Prod.snd)

section Checks

set_option maxRecDepth 100000

theorem ascendsFrom_toList :
    ascendsFrom 0 alphabetic.toList = true ∧ ascendsFrom 0 number.toList = true ∧
      ascendsFrom 0 mark.toList = true ∧ ascendsFrom 0 decimalNumber.toList = true ∧
      ascendsFrom 0 Decomposition.blocks = true := by
  decide +kernel

/-- Nothing that lower case makes is changed by lower case, and all of it is made for words. The same holds of
the two forms of sigma; capital sigma itself is changed. Joiners are not changed, as `A` and `O` are. These are
one check, so that the sets in them are made only once. -/
theorem lowerPoints_and :
    (lowerTargets &&& lowerSources = 0 ∧ lowerTargets &&& wordPoints = lowerTargets ∧
      lowerTargets &&& characterPoints = lowerTargets ∧
      lowerChanges.all (fun change => !change.2.isEmpty) = true) ∧
    (sigmaPoints &&& lowerSources = 0 ∧ sigmaPoints &&& wordPoints = sigmaPoints ∧
      sigmaPoints &&& unplainPoints = 0 ∧ lowerSources.testBit 0x3A3 = true) ∧
    PointSet.ofPoints [0x2D, 0x5F] &&& lowerSources = 0 ∧ lowercase.imageOf 0x41 = [0x61] ∧
      lowercase.imageOf 0x4F = [0x6F] := by
  decide +kernel

/-- Nothing that comes of a decomposition decomposes further, also not after lower case. -/
theorem foldTargets_and :
    foldTargets &&& (foldSources ||| hangulPoints) = 0 ∧
      foldTargets &&& characterPoints = foldTargets ∧ plainLowerTargets &&& unplainPoints = 0 ∧
      Decomposition.blocks.all (fun block => block.value.stride.beq 1) = true := by
  decide +kernel

/-- White space, quotation marks and joiners are no word characters, and what has a combining class is a mark.
No letter is a decimal digit. -/
theorem wordPoints_and :
    wordPoints &&& blankPoints = 0 ∧ wordPoints.testBit 0x22 = false ∧
      wordPoints &&& PointSet.ofPoints [0x2D, 0x5F] = 0 ∧
      pointsOf combiningClasses.toList &&& markPoints = pointsOf combiningClasses.toList ∧
      pointsOf alphabetic.toList &&& pointsOf decimalNumber.toList = 0 := by
  decide +kernel

end Checks

theorem ascending_alphabetic : Ascending alphabetic.toList :=
  (ascending_of_ascendsFrom ascendsFrom_toList.1).1

theorem ascending_number : Ascending number.toList :=
  (ascending_of_ascendsFrom ascendsFrom_toList.2.1).1

theorem ascending_decimalNumber : Ascending decimalNumber.toList :=
  (ascending_of_ascendsFrom ascendsFrom_toList.2.2.2.1).1

theorem ascending_mark : Ascending mark.toList :=
  (ascending_of_ascendsFrom ascendsFrom_toList.2.2.1).1

theorem toList_decomposition : decomposition.toList = Decomposition.blocks :=
  Table.toList_ofList Decomposition.blocks

theorem ascending_decomposition : Ascending decomposition.toList := by
  rw [toList_decomposition]
  exact (ascending_of_ascendsFrom ascendsFrom_toList.2.2.2.2).1

/-! ## From code points to characters -/

theorem isValidChar_of_mem {n : Nat} (h : characterPoints.testBit n = true) : n.isValidChar := by
  simp only [characterPoints, Nat.testBit_or, Bool.or_eq_true, PointSet.testBit_span] at h
  simp only [Nat.isValidChar]
  omega

/-- A code point of a character is the code point of its character. -/
theorem toNat_ofNat_of_mem {n : Nat} (h : characterPoints.testBit n = true) :
    (Char.ofNat n).toNat = n := by
  rw [Char.ofNat, dif_pos (isValidChar_of_mem h)]
  rfl

theorem image_of_imageOf_eq_self {table : Table Images} {c : Char}
    (h : table.imageOf c.toNat = [c.toNat]) : table.image c = [c] := by
  rw [Table.image, h, List.map_singleton, Char.ofNat_toNat]

theorem isAlphabetic_eq (c : Char) : isAlphabetic c = alphabetic.holds c := by
  rfl

theorem isNumber_eq (c : Char) : isNumber c = number.holds c := by
  rfl

theorem isMark_eq (c : Char) : isMark c = mark.holds c := by
  rfl

theorem isMark_iff (c : Char) : isMark c = true ↔ markPoints.testBit c.toNat = true := by
  rw [isMark_eq, Table.holds, Table.contains_iff ascending_mark, markPoints]

theorem isWordChar_iff (c : Char) : isWordChar c = true ↔ wordPoints.testBit c.toNat = true := by
  rw [isWordChar, Bool.or_eq_true, Bool.or_eq_true, isMark_iff, isAlphabetic_eq, isNumber_eq,
    Table.holds, Table.holds, Table.contains_iff ascending_alphabetic,
    Table.contains_iff ascending_number, wordPoints, Nat.testBit_or, Nat.testBit_or,
    Bool.or_eq_true, Bool.or_eq_true]

theorem isBlank_iff (c : Char) : isBlank c = true ↔ blankPoints.testBit c.toNat = true := by
  simp only [isBlank, blankPoints, Nat.testBit_or, Bool.or_eq_true, Bool.and_eq_true,
    decide_eq_true_eq, PointSet.testBit_span, PointSet.testBit_ofPoints, List.mem_cons,
    List.not_mem_nil, or_false]
  omega

theorem isWordChar_of_isBlank {c : Char} (h : isBlank c = true) : isWordChar c = false := by
  by_contra hword
  have hword := (isWordChar_iff c).1 (by simpa using hword)
  have hblank := PointSet.not_mem_of_and_eq_zero wordPoints_and.1 hword
  rw [(isBlank_iff c).1 h] at hblank
  cases hblank

theorem isJoiner_of_isWordChar (c : Char) (h : isWordChar c = true) : isJoiner c = false := by
  by_contra hjoiner
  have hnone := PointSet.not_mem_of_and_eq_zero wordPoints_and.2.2.1 ((isWordChar_iff c).1 h)
  rw [Bool.not_eq_false, isJoiner, Bool.or_eq_true, beq_iff_eq, beq_iff_eq] at hjoiner
  rcases hjoiner with rfl | rfl
  · exact absurd hnone (by decide)
  · exact absurd hnone (by decide)

theorem isBlank_of_isAlphabetic {c : Char} (h : isAlphabetic c = true) : isBlank c = false := by
  rw [Bool.eq_false_iff]
  intro hblank
  have hword := isWordChar_of_isBlank hblank
  rw [isWordChar, h, Bool.true_or, Bool.true_or] at hword
  cases hword

theorem isDecimalDigit_of_isAlphabetic {c : Char} (h : isAlphabetic c = true) :
    isDecimalDigit c = false := by
  rw [isAlphabetic_eq, Table.holds, Table.contains_iff ascending_alphabetic] at h
  have hnone := PointSet.not_mem_of_and_eq_zero wordPoints_and.2.2.2.2 h
  rw [Bool.eq_false_iff]
  intro hdigit
  have hdigit : decimalNumber.contains c.toNat = true := hdigit
  rw [(Table.contains_iff ascending_decimalNumber _).1 hdigit] at hnone
  cases hnone

/-! ### Lower case -/

/-- Lower case keeps a character or is one of the changes. -/
theorem lowercase_imageOf (n : Nat) :
    lowercase.imageOf n = [n] ∨ (n, lowercase.imageOf n) ∈ lowerChanges := by
  rcases lowercase.imageOf_eq_or_mem n with h | ⟨block, hmem, hchange⟩
  · exact .inl h
  · exact .inr (List.mem_flatMap.2 ⟨block, hmem, hchange⟩)

theorem testBit_lowerSources_of_mem {n : Nat} {images : List Nat}
    (h : (n, images) ∈ lowerChanges) : lowerSources.testBit n = true :=
  (PointSet.testBit_ofPoints _ _).2 (List.mem_map_of_mem (f := Prod.fst) h)

theorem testBit_lowerTargets_of_mem {n m : Nat} {images : List Nat}
    (h : (n, images) ∈ lowerChanges) (hm : m ∈ images) : lowerTargets.testBit m = true :=
  (PointSet.testBit_ofPoints _ _).2 (List.mem_flatMap.2 ⟨_, h, hm⟩)

theorem isLowered_of_not_mem {c : Char} (h : lowerSources.testBit c.toNat = false) :
    IsLowered c := by
  refine ⟨?_, image_of_imageOf_eq_self ?_⟩
  · rintro rfl
    exact absurd (lowerPoints_and.2.1.2.2.2.symm.trans h) (by decide)
  · rcases lowercase_imageOf c.toNat with himage | hchange
    · exact himage
    · rw [testBit_lowerSources_of_mem hchange] at h
      cases h

/-- What can stand in the place of `c` in lower case: `c` itself, a form of sigma, or an image. -/
theorem lowerForms_cases {c d : Char} (h : d ∈ lowerForms c) :
    (d = c ∧ IsLowered c) ∨ (c = 'Σ' ∧ sigmaPoints.testBit d.toNat = true) ∨
      ∃ images, (c.toNat, images) ∈ lowerChanges ∧ d.toNat ∈ images := by
  rw [lowerForms] at h
  split at h
  · next hc =>
      refine .inr (.inl ⟨hc, (PointSet.testBit_ofPoints _ _).2 ?_⟩)
      simp only [List.mem_cons, List.not_mem_nil, or_false] at h
      rcases h with rfl | rfl
      · decide
      · decide
  · next hc =>
      -- the sigma aside, a form is the image in the table: the character itself or one of the changes
      have h : d ∈ lowercase.image c := h
      rcases lowercase_imageOf c.toNat with himage | hchange
      · have hself := image_of_imageOf_eq_self himage
        rw [hself, List.mem_singleton] at h
        exact .inl ⟨h, hc, hself⟩
      · obtain ⟨m, hm, rfl⟩ := List.mem_map.1 h
        have hpoint := PointSet.mem_of_and_eq_self lowerPoints_and.1.2.2.1
          (testBit_lowerTargets_of_mem hchange hm)
        rw [← toNat_ofNat_of_mem hpoint] at hm
        exact .inr (.inr ⟨_, hchange, hm⟩)

/-- The lower forms of a character have no lower forms of their own. -/
theorem isLowered_of_mem_lowerForms {c d : Char} (h : d ∈ lowerForms c) : IsLowered d := by
  rcases lowerForms_cases h with ⟨rfl, hself⟩ | ⟨-, hsigma⟩ | ⟨images, hchange, hd⟩
  · exact hself
  · exact isLowered_of_not_mem
      (PointSet.not_mem_of_and_eq_zero lowerPoints_and.2.1.1 hsigma)
  · exact isLowered_of_not_mem (PointSet.not_mem_of_and_eq_zero lowerPoints_and.1.1
      (testBit_lowerTargets_of_mem hchange hd))

/-- What lower case changes something to is a character of words. -/
theorem isWordChar_of_mem_lowerForms {c d : Char} (hne : d ≠ c) (h : d ∈ lowerForms c) :
    isWordChar d = true := by
  rw [isWordChar_iff]
  rcases lowerForms_cases h with ⟨hd, -⟩ | ⟨-, hsigma⟩ | ⟨images, hchange, hd⟩
  · exact absurd hd hne
  · exact PointSet.mem_of_and_eq_self lowerPoints_and.2.1.2.1 hsigma
  · exact PointSet.mem_of_and_eq_self lowerPoints_and.1.2.1
      (testBit_lowerTargets_of_mem hchange hd)

theorem image_lowercase_ne_nil (c : Char) : lowercase.image c ≠ [] := by
  rcases lowercase_imageOf c.toNat with himage | hchange
  · simp [Table.image, himage]
  · have hfilled := List.all_eq_true.1 lowerPoints_and.1.2.2.2 _ hchange
    simpa [Table.image] using hfilled

/-! ### Decomposition -/

/-- The sources of folding are the code points that the decomposition knows. -/
theorem testBit_foldSources_iff (n : Nat) :
    foldSources.testBit n = true ↔
      ∃ block ∈ Decomposition.blocks, decomposition.find? n = some block := by
  rw [foldSources, testBit_pointsOf, ← toList_decomposition]
  constructor
  · rintro ⟨block, hmem, hfirst, hlast⟩
    exact ⟨block, hmem, Table.find?_of_mem ascending_decomposition hmem hfirst hlast⟩
  · rintro ⟨block, -, hfind⟩
    exact ⟨block, Table.mem_of_find? hfind⟩

/-- A character that no block of the table holds does not decompose. -/
theorem image_decomposition_of_not_mem {c : Char} (h : foldSources.testBit c.toNat = false) :
    decomposition.image c = [c] := by
  refine image_of_imageOf_eq_self ?_
  cases hfind : decomposition.find? c.toNat with
  | none => exact Table.imageOf_of_find?_eq_none hfind
  | some block =>
      have hmem := (Table.mem_of_find? hfind).1
      rw [toList_decomposition] at hmem
      have hsource := (testBit_foldSources_iff c.toNat).2 ⟨block, hmem, hfind⟩
      exact absurd (h.symm.trans hsource) Bool.false_ne_true

/-- Folding leaves alone what neither decomposes nor is a mark. -/
theorem isPlain_of_not_mem {c : Char} (h : unplainPoints.testBit c.toNat = false) : IsPlain c := by
  rw [unplainPoints, Nat.testBit_or, Nat.testBit_or, Bool.or_eq_false_iff, Bool.or_eq_false_iff] at h
  obtain ⟨⟨hfold, hhangul⟩, hmark⟩ := h
  constructor
  · show decompose c = [c]
    -- the syllables of Hangul decompose by their number, all others by the table
    have hrange : ¬(0xAC00 ≤ c.toNat ∧ c.toNat ≤ 0xD7A3) := by
      rw [← PointSet.testBit_span, ← hangulPoints, hhangul]
      exact Bool.false_ne_true
    rw [decompose, if_neg hrange]
    exact image_decomposition_of_not_mem hfold
  · by_contra hc
    rw [(isMark_iff c).1 (by simpa using hc)] at hmark
    cases hmark

/-- What a block of the table decomposes to. The blocks have no gaps, so all of their characters
decompose. -/
theorem testBit_foldTargets_of_mem {c d : Char} (hc : foldSources.testBit c.toNat = true)
    (h : d ∈ decomposition.image c) : foldTargets.testBit d.toNat = true := by
  obtain ⟨block, hmem, hfind⟩ := (testBit_foldSources_iff c.toNat).1 hc
  have hdense := Nat.eq_of_beq_eq_true (List.all_eq_true.1 foldTargets_and.2.2.2 block hmem)
  have hchange := Table.mem_changes_of_find? hfind hdense
  obtain ⟨m, hm, rfl⟩ := List.mem_map.1 h
  have htarget : foldTargets.testBit m = true := by
    rw [foldTargets, Nat.testBit_or, Bool.or_eq_true, PointSet.testBit_union]
    exact .inl ⟨block, hmem, Block.testBit_imageSet hchange hm⟩
  rwa [toNat_ofNat_of_mem (PointSet.mem_of_and_eq_self foldTargets_and.2.1 htarget)]

/-- A syllable decomposes to jamo: a leading one, a vowel and perhaps a trailing one. -/
theorem testBit_jamo {syllable : Nat} (h : syllable ≤ 11171) {d : Char} (hd : d ∈ jamo syllable) :
    jamoPoints.testBit d.toNat = true := by
  have hleading : syllable / 588 ≤ 18 := by omega
  have hvowel : syllable % 588 / 28 ≤ 20 := by omega
  have htrailing : syllable % 28 ≤ 27 := by omega
  have hcases : d = Char.ofNat (0x1100 + syllable / 588) ∨
      d = Char.ofNat (0x1161 + syllable % 588 / 28) ∨ d = Char.ofNat (0x11A7 + syllable % 28) := by
    rw [jamo] at hd
    split at hd
    · simp only [List.mem_cons, List.not_mem_nil, or_false] at hd
      exact hd.imp_right .inl
    · simpa using hd
  -- the letters stand below the surrogates, so each is the character of its number
  have hpoint (n : Nat) (hn : n < 0xD800) : (Char.ofNat n).toNat = n :=
    toNat_ofNat_of_mem (by
      simp only [characterPoints, Nat.testBit_or, Bool.or_eq_true, PointSet.testBit_span]
      omega)
  simp only [jamoPoints, Nat.testBit_or, Bool.or_eq_true, PointSet.testBit_span]
  rcases hcases with rfl | rfl | rfl
  · rw [hpoint _ (by omega)]
    omega
  · rw [hpoint _ (by omega)]
    omega
  · rw [hpoint _ (by omega)]
    omega

/-- Nothing that a character decomposes to decomposes further. -/
theorem not_mem_foldSources_of_mem_decompose {c d : Char} (h : d ∈ decompose c) :
    (foldSources ||| hangulPoints).testBit d.toNat = false := by
  rw [decompose] at h
  split at h
  · next hc =>
      refine PointSet.not_mem_of_and_eq_zero foldTargets_and.1 ?_
      rw [foldTargets, Nat.testBit_or, Bool.or_eq_true]
      exact .inr (testBit_jamo (by omega) h)
  · next hc =>
      have hhangul : hangulPoints.testBit c.toNat = false := by
        rw [hangulPoints, Bool.eq_false_iff, ne_eq, PointSet.testBit_span]
        exact hc
      -- a letter that folding changes is one of the sources, and no target of a fold is
      cases hfold : foldSources.testBit c.toNat with
      | false =>
          rw [image_decomposition_of_not_mem hfold, List.mem_singleton] at h
          rw [h, Nat.testBit_or, hfold, hhangul]
          rfl
      | true =>
          refine PointSet.not_mem_of_and_eq_zero foldTargets_and.1 ?_
          exact testBit_foldTargets_of_mem hfold h

/-- What lower case makes of the characters of a decomposition is left alone by folding. -/
theorem isPlain_of_mem_lowerForms {c d e : Char} (hd : d ∈ decompose c) (hmark : isMark d = false)
    (he : e ∈ lowerForms d) : IsPlain e := by
  have hrest := not_mem_foldSources_of_mem_decompose hd
  apply isPlain_of_not_mem
  rcases lowerForms_cases he with ⟨rfl, -⟩ | ⟨-, hsigma⟩ | ⟨images, hchange, himage⟩
  · rw [unplainPoints, Nat.testBit_or, hrest, Bool.false_or, Bool.eq_false_iff, ne_eq, ← isMark_iff]
    simp [hmark]
  · exact PointSet.not_mem_of_and_eq_zero lowerPoints_and.2.1.2.2.1 hsigma
  · refine PointSet.not_mem_of_and_eq_zero foldTargets_and.2.2.1 ?_
    rw [Nat.testBit_or, Bool.or_eq_false_iff] at hrest
    refine (PointSet.testBit_ofPoints _ _).2 (List.mem_flatMap.2 ⟨(d.toNat, images), ?_, himage⟩)
    exact List.mem_filter.2 ⟨hchange, by simp [hrest.1]⟩

theorem combiningClass_of_not_isMark {c : Char} (h : isMark c = false) :
    combiningClass c = 0 := by
  rw [combiningClass, Table.number]
  cases hfind : combiningClasses.find? c.toNat with
  | none => rfl
  | some block =>
      have hpoint := (testBit_pointsOf _ _).2 ⟨block, Table.mem_of_find? hfind⟩
      have hmark := PointSet.mem_of_and_eq_self wordPoints_and.2.2.2.1 hpoint
      rw [(isMark_iff c).2 hmark] at h
      cases h

/-! ### The laws -/

theorem isLowered_of_isJoiner {c : Char} (h : isJoiner c = true) : IsLowered c := by
  apply isLowered_of_not_mem
  refine PointSet.not_mem_of_and_eq_zero lowerPoints_and.2.2.1 ?_
  rw [isJoiner, Bool.or_eq_true, beq_iff_eq, beq_iff_eq] at h
  rcases h with rfl | rfl
  · decide
  · decide

theorem not_isLowered_of_imageOf {c : Char} {n : Nat} (h : lowercase.imageOf c.toNat = [n])
    (hne : Char.ofNat n ≠ c) : ¬ IsLowered c := by
  intro hlow
  have himage : lowercase.image c = [c] := hlow.2
  rw [Table.image, h, List.map_singleton, List.cons.injEq] at himage
  exact hne himage.1

instance : LawfulCharacters where
  toLower_ne_nil := image_lowercase_ne_nil
  isLowered_of_mem := isLowered_of_mem_lowerForms
  isWordChar_of_mem {c d} hc hd := by
    by_cases hne : d = c
    · exact hne ▸ hc
    · exact isWordChar_of_mem_lowerForms hne hd
  isBlank_of_mem {c d} hd hblank := by
    by_cases hne : d = c
    · exact hne ▸ hblank
    · have hword := isWordChar_of_mem_lowerForms hne hd
      rw [isWordChar_of_isBlank hblank] at hword
      cases hword
  isPlain_of_mem := isPlain_of_mem_lowerForms
  combiningClass_of_not_isMark := combiningClass_of_not_isMark
  isWordChar_of_isBlank := isWordChar_of_isBlank
  isWordChar_quote := by
    have hpoint := wordPoints_and.2.1
    rw [Bool.eq_false_iff, ne_eq] at hpoint ⊢
    rw [isWordChar_iff]
    exact hpoint
  isJoiner_of_isWordChar {c} hc := isJoiner_of_isWordChar c hc
  isLowered_of_isJoiner := isLowered_of_isJoiner
  not_isLowered_A := not_isLowered_of_imageOf lowerPoints_and.2.2.2.1 (by decide)
  not_isLowered_O := not_isLowered_of_imageOf lowerPoints_and.2.2.2.2 (by decide)

end Concordance.Unicode
