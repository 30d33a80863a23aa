import Concordance.Article.Inline
import Concordance.Proofs.SingleSpacing

/-!
# Lines without markup

Each kind of markup begins with a character of its own, so a line that has none of these characters is
flattened by trimming and collapsing its white space alone.
-/

namespace Concordance.Article

open Text

/-- A character that markup begins with: of images, links, tags and entities, of emphasis and code, or a bar
of a table. -/
def isMarkup (c : Char) : Bool :=
  c == '[' || c == '<' || c == '&' || isEmphasis c || c == '|'

variable {cs : List Char}

/-! ### Patterns -/

/-- A text in which a pattern is found nowhere stays as it is. -/
theorem replaceMatches_eq_self {pattern : Pattern} (h : ∀ rest, rest <:+ cs → pattern.find? rest = none) :
    replaceMatches pattern cs = cs := by
  induction cs with
  | nil => rw [replaceMatches]
  | cons c rest ih =>
      rw [replaceMatches]
      split
      · next kept after hfind =>
          rw [h _ (List.suffix_refl _)] at hfind
          cases hfind
      · rw [ih fun tail htail => h tail (htail.trans (List.suffix_cons c rest))]

theorem bracketed?_eq_none (h : '[' ∉ cs) : bracketed? cs = none := by
  unfold bracketed?
  split
  · simp at h
  · rfl

theorem findImage?_eq_none (h : '[' ∉ cs) : findImage? cs = none := by
  unfold findImage?
  split
  · next rest => rw [bracketed?_eq_none fun hrest => h (List.mem_cons_of_mem _ hrest), Option.bind_none]
  · rfl

theorem findLink?_eq_none (h : '[' ∉ cs) : findLink? cs = none := by
  rw [findLink?, bracketed?_eq_none h, Option.bind_none]

theorem findTag?_eq_none (h : '<' ∉ cs) : findTag? cs = none := by
  unfold findTag?
  split
  · simp at h
  · simp at h
  · rfl

/-! ### Entities and marks -/

/-- A text without the first character of what is replaced stays as it is. -/
theorem replaceAll_eq_self {first : Char} (h : first ∉ cs) (old new : List Char) :
    replaceAll first old new cs = cs := by
  induction cs with
  | nil => rw [replaceAll]
  | cons c rest ih =>
      obtain ⟨hc, hrest⟩ := List.ne_and_not_mem_of_not_mem_cons h
      rw [replaceAll]
      split
      · next after hstrip =>
          rw [stripStart?, if_neg hc] at hstrip
          cases hstrip
      · rw [ih hrest]

theorem spellEntities_eq_self (h : '&' ∉ cs) : spellEntities cs = cs := by
  rw [spellEntities, replaceAll_eq_self h, replaceAll_eq_self h, replaceAll_eq_self h,
    replaceAll_eq_self h]

theorem dropMarks_eq_self (h : ∀ c ∈ cs, isEmphasis c = false ∧ c ≠ '|') : dropMarks cs = cs := by
  have hkept : cs.filter (fun c => !isEmphasis c) = cs :=
    List.filter_eq_self.2 fun c hc => by rw [(h c hc).1]; rfl
  have hsame : ∀ c ∈ cs, (if c = '|' then ' ' else c) = id c := fun c hc => if_neg (h c hc).2
  rw [dropMarks, hkept, List.map_congr_left hsame, List.map_id]

/-! ### Lines -/

/-- Nothing happens to a line without markup but that its white space is trimmed and collapsed. -/
theorem flatten_of_plain (h : ∀ c ∈ cs, isMarkup c = false) : flatten cs = collapse (trim cs) := by
  have hnot {c : Char} (hc : isMarkup c = true) : c ∉ cs := fun hmem => by
    rw [h c hmem] at hc
    cases hc
  have hbracket {rest : List Char} (hrest : rest <:+ cs) : '[' ∉ rest := fun hmem =>
    hnot (by decide) (hrest.subset hmem)
  have hangle {rest : List Char} (hrest : rest <:+ cs) : '<' ∉ rest := fun hmem =>
    hnot (by decide) (hrest.subset hmem)
  -- each replacement needs a character that a plain text does not have
  have himage : replaceMatches image cs = cs :=
    replaceMatches_eq_self fun rest hrest => findImage?_eq_none (hbracket hrest)
  have hlink : replaceMatches link cs = cs :=
    replaceMatches_eq_self fun rest hrest => findLink?_eq_none (hbracket hrest)
  have htag : replaceMatches tag cs = cs :=
    replaceMatches_eq_self fun rest hrest => findTag?_eq_none (hangle hrest)
  have hmarks : ∀ c ∈ cs, isEmphasis c = false ∧ c ≠ '|' := fun c hc => by
    have hplain := h c hc
    simp only [isMarkup, Bool.or_eq_false_iff, beq_eq_false_iff_ne] at hplain
    exact ⟨hplain.1.2, hplain.2⟩
  simp only [flatten, himage, hlink, htag]
  rw [spellEntities_eq_self (hnot (by decide)), dropMarks_eq_self hmarks]

/-- A single-spaced line without markup stays as it is. -/
theorem flatten_of_singleSpaced (hspaced : SingleSpaced cs) (h : ∀ c ∈ cs, isMarkup c = false) :
    flatten cs = cs := by
  rw [flatten_of_plain h, hspaced.trim_eq, hspaced.collapse_eq]

end Concordance.Article
