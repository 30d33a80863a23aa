import Concordance.Proofs.Drafts
import Concordance.Proofs.PlainLines
import Concordance.Proofs.Trimming
import Concordance.Unicode.Database

/-!
# Headings

The text of a heading ends where only white space, hash signs and white space follow. So text of plain
characters that does not end in a hash sign is the text of a heading that is written with it, with or
without hash signs behind it (`title_of_heading`).
-/

namespace Concordance.Article

open Text

variable {text line : List Char}

/-! ### The end of a heading -/

/-- A closing consists of white space and hash signs. -/
theorem isBlank_or_hash_of_isClosing {cs : List Char} (h : isClosing cs = true) :
    ∀ c ∈ cs, isBlank c = true ∨ c = '#' := by
  intro c hc
  rw [isClosing, List.all_eq_true] at h
  rw [← List.takeWhile_append_dropWhile (p := isBlank) (l := cs), List.mem_append] at hc
  rcases hc with hc | hc
  · exact .inl (List.mem_takeWhile_imp hc)
  · rw [← List.takeWhile_append_dropWhile (p := (· == '#')) (l := cs.dropWhile isBlank),
      List.mem_append] at hc
    rcases hc with hc | hc
    · exact .inr (by simpa using List.mem_takeWhile_imp hc)
    · exact .inl (h c hc)

/-- Blanks and then hashes close a heading. -/
theorem isClosing_append_replicate {gap : List Char} (h : ∀ c ∈ gap, isBlank c = true) (n : Nat) :
    isClosing (gap ++ List.replicate n '#') = true := by
  have hgap : (gap ++ List.replicate n '#').dropWhile isBlank = List.replicate n '#' := by
    rw [List.dropWhile_append_of_pos h]
    cases n with
    | zero => rfl
    | succ n => rfl
  have hhashes : (List.replicate n '#').dropWhile (· == '#') = [] := by
    rw [List.dropWhile_eq_nil_iff]
    intro c hc
    rw [List.eq_of_mem_replicate hc]
    rfl
  rw [isClosing, hgap, hhashes]
  rfl

/-- Text whose last character is neither white space nor a hash sign is kept before a closing. -/
theorem beforeClosing_append {closing : List Char}
    (hlast : ∀ c ∈ text.getLast?, isBlank c = false ∧ c ≠ '#') (hclosing : isClosing closing = true) :
    beforeClosing (text ++ closing) = text := by
  induction text with
  | nil =>
      cases closing with
      | nil => rfl
      | cons c rest => rw [List.nil_append, beforeClosing, if_pos hclosing]
  | cons c rest ih =>
      -- the text ends in neither a blank nor a hash, so no closing sequence begins within it
      have hopen : isClosing (c :: rest ++ closing) = false := by
        by_contra hcloses
        obtain ⟨hblank, hhash⟩ := hlast _ (List.getLast_mem_getLast? (List.cons_ne_nil c rest))
        rcases isBlank_or_hash_of_isClosing (by simpa using hcloses) _
          (List.mem_append_left _ (List.getLast_mem (List.cons_ne_nil c rest))) with h | h
        · rw [h] at hblank
          cases hblank
        · exact hhash h
      have hrest : beforeClosing (rest ++ closing) = rest := by
        refine ih fun d hd => hlast d ?_
        rw [List.getLast?_cons, Option.mem_def.1 hd]
        rfl
      rw [List.cons_append, beforeClosing, ← List.cons_append, hopen, if_neg Bool.false_ne_true, hrest]

/-! ### Lines that are headings -/

/-- One to six hash signs, a space and the text. -/
def headingLine (n : Nat) (text : List Char) : List Char :=
  List.replicate n '#' ++ ' ' :: text

theorem not_mem_headingLine {c : Char} (hhash : c ≠ '#') (hspace : c ≠ ' ') (htext : c ∉ text) (n : Nat) :
    c ∉ headingLine n text := by
  rw [headingLine, List.mem_append, List.mem_cons]
  rintro (h | h | h)
  · exact hhash (List.eq_of_mem_replicate h)
  · exact hspace h
  · exact htext h

/-- One to six hash signs and a space make a heading of what stands behind them, without its closing. -/
theorem heading?_headingLine {n : Nat} (hpos : 1 ≤ n) (hsix : n ≤ 6)
    (hhead : ∀ c ∈ text.head?, isBlank c = false) :
    heading? (headingLine n text) = some (beforeClosing text) := by
  -- the line begins with a hash sign, so nothing is dropped before it
  obtain ⟨n, rfl⟩ := Nat.exists_eq_add_of_le' hpos
  have hindent : (headingLine (n + 1) text).takeWhile isBlank = [] := rfl
  have hstart : (headingLine (n + 1) text).dropWhile isBlank = headingLine (n + 1) text := rfl
  have hhash : ∀ c ∈ List.replicate (n + 1) '#', (c == '#') = true := by
    intro c hc
    rw [List.eq_of_mem_replicate hc]
    rfl
  have hhashes : (headingLine (n + 1) text).takeWhile (· == '#') = List.replicate (n + 1) '#' := by
    rw [headingLine, List.takeWhile_append_of_pos hhash]
    simp
  have hrest : (headingLine (n + 1) text).dropWhile (· == '#') = ' ' :: text := by
    rw [headingLine, List.dropWhile_append_of_pos hhash]
    rfl
  have hspace : (' ' :: text).dropWhile isBlank = text := by
    rw [List.dropWhile_cons_of_pos (by decide)]
    cases text with
    | nil => rfl
    | cons c rest => rw [List.dropWhile_cons_of_neg (by simpa using hhead c rfl)]
  have hblank : isBlank ' ' = true := by decide
  simp only [heading?, hindent, hstart, hhashes, hrest, hspace, hblank]
  rw [if_neg (by simp), if_neg (by simp; omega), if_pos trivial]

/-- A heading begins with a hash sign, but for white space before it. -/
theorem exists_hash_of_heading? (h : heading? line = some text) :
    ∃ front behind, line = front ++ '#' :: behind ∧ ∀ c ∈ front, isBlank c = true := by
  simp only [heading?] at h
  split at h
  · cases h
  · next hguard =>
      rw [Bool.or_eq_true, not_or] at hguard
      cases hhashes : (line.dropWhile isBlank).takeWhile (· == '#') with
      | nil => exact absurd (by rw [hhashes]; rfl) hguard.2
      | cons c hashes =>
          obtain rfl : c = '#' := by
            have hmem : c ∈ (line.dropWhile isBlank).takeWhile (· == '#') := by simp [hhashes]
            simpa using List.mem_takeWhile_imp hmem
          refine ⟨line.takeWhile isBlank, hashes ++ (line.dropWhile isBlank).dropWhile (· == '#'), ?_,
            fun d hd => List.mem_takeWhile_imp hd⟩
          rw [← List.cons_append, ← hhashes, List.takeWhile_append_dropWhile,
            List.takeWhile_append_dropWhile]

theorem exists_dropWhile_of_heading? (h : heading? line = some text) :
    ∃ behind, line.dropWhile isBlank = '#' :: behind := by
  obtain ⟨front, behind, rfl, hfront⟩ := exists_hash_of_heading? h
  exact ⟨behind, by
    rw [List.dropWhile_append_of_pos hfront, List.dropWhile_cons_of_neg (by decide)]⟩

/-- The first character of a heading stays when white space is trimmed. -/
theorem exists_trim_of_heading? (h : heading? line = some text) :
    ∃ behind, trim line = '#' :: behind := by
  obtain ⟨behind, hstart⟩ := exists_dropWhile_of_heading? h
  exact exists_trimBy_eq_cons hstart

theorem isFence_of_heading? (h : heading? line = some text) :
    isFence (trim line) = false := by
  obtain ⟨behind, hbehind⟩ := exists_trim_of_heading? h
  rw [hbehind]
  rfl

/-- A heading does not open a front matter: it has a hash sign. -/
theorem opensFrontMatter_of_heading? (h : heading? line = some text) :
    opensFrontMatter line = false := by
  obtain ⟨front, behind, hline, -⟩ := exists_hash_of_heading? h
  rw [opensFrontMatter, beq_eq_false_iff_ne]
  intro hopens
  rw [trimEnd, trimEndBy_eq_rdropWhile] at hopens
  have hmem : '#' ∈ line.rdropWhile isBlank ++ line.rtakeWhile isBlank := by
    rw [List.rdropWhile_append_rtakeWhile, hline]
    simp
  rcases List.mem_append.1 hmem with hmem | hmem
  · rw [hopens] at hmem
    revert hmem
    decide
  · exact absurd (List.mem_rtakeWhile_imp hmem) (by decide)

/-- There is no front matter where the first line is a heading. -/
theorem takeFrontMatter_of_heading? (h : heading? line = some text)
    (rest : List (List Char)) : takeFrontMatter (line :: rest) = .ok (none, line :: rest) := by
  rw [takeFrontMatter, opensFrontMatter_of_heading? h]
  rfl

variable [CharacterTable]

/-- The first heading gives the title. -/
theorem read_of_heading? (h : heading? line = some text) (hne : flatten text ≠ [])
    (body : List (List Char)) :
    Draft.read ⟨none, body, false⟩ line = .ok ⟨some (flatten text), body, false⟩ := by
  simp only [Draft.read, isFence_of_heading? h, h]
  simp [Draft.readHeading, hne]

/-- An article whose first line is a heading has its text for the title, and the body of the lines behind
it. -/
theorem parse_of_heading? {source : String} {rest : List (List Char)} {draft : Draft}
    (hsource : IsText source) (hlines : linesOf source = line :: rest) (h : heading? line = some text)
    (hne : flatten text ≠ [])
    (hrest : rest.foldlM Draft.read ⟨some (flatten text), [], false⟩ = .ok draft) (path : String) :
    parse path source = .ok ⟨flatten text, joinParagraphs false false draft.body.reverse⟩ := by
  refine parse_eq_ok_iff.2 ⟨hsource, none, line :: rest, draft, ?_, ?_, ?_⟩
  · rw [hlines]
    exact takeFrontMatter_of_heading? h rest
  · rw [List.foldlM_cons, read_of_heading? h hne]
    exact hrest
  · have htitled : Draft.title ⟨some (flatten text), [], false⟩ = some (flatten text) := rfl
    obtain ⟨last, hlast, htitle⟩ := exists_foldlM_read htitled rest
    rw [hrest] at hlast
    cases hlast
    exact Draft.finish_eq_ok_iff.2 ⟨htitle, rfl⟩

/-! ### Articles of one heading -/

/-- Text that looks like that of a heading: single-spaced, without characters of markup, and without a
closing at its end, that is, hash signs with white space or nothing before them. -/
structure HeadingText (text : List Char) : Prop where
  nonempty : text ≠ []
  spaced : SingleSpaced text
  plain : ∀ c ∈ text, isMarkup c = false
  unclosed : ∀ front c n, text = front ++ c :: List.replicate (n + 1) '#' → isBlank c = false
  not_hashes : ∀ n, text ≠ List.replicate n '#'

/-- An article of one line, which is a heading of this text and perhaps a closing. -/
theorem parse_headingLine_append {n : Nat} {closing : List Char} (hpos : 1 ≤ n) (hsix : n ≤ 6)
    (h : HeadingText text) (hnul : '\x00' ∉ text) (hopen : text.getLast? ≠ some '#')
    (hclosing : isClosing closing = true) (hfeed : '\n' ∉ closing) (path : String) :
    parse path (String.ofList (headingLine n (text ++ closing))) = .ok ⟨text, []⟩ := by
  have hnone : '\x00' ∉ text ++ closing := by
    rw [List.mem_append, not_or]
    refine ⟨hnul, fun hmem => ?_⟩
    rcases isBlank_or_hash_of_isClosing hclosing _ hmem with h | h
    · exact absurd h (by decide)
    · exact absurd h (by decide)
  have hnoFeed : '\n' ∉ text ++ closing := by
    rw [List.mem_append, not_or]
    exact ⟨h.spaced.lineFeed_not_mem, hfeed⟩
  -- the source is one line: no NUL makes it text, no line feed ends it
  have htext : IsText (String.ofList (headingLine n (text ++ closing))) := by
    rw [IsText, String.toList_ofList]
    exact not_mem_headingLine (by decide) (by decide) hnone n
  have hlines : linesOf (String.ofList (headingLine n (text ++ closing))) =
      [headingLine n (text ++ closing)] := by
    have hfeeds := not_mem_headingLine (by decide) (by decide) hnoFeed n
    obtain ⟨n, rfl⟩ := Nat.exists_eq_add_of_le' hpos
    exact linesOf_ofList (by simp [headingLine]) hfeeds (by simp [headingLine, List.replicate_succ])
  have hhead : ∀ c ∈ (text ++ closing).head?, isBlank c = false := by
    rw [List.head?_append_of_ne_nil _ h.nonempty]
    exact h.spaced.head
  have hheading : heading? (headingLine n (text ++ closing)) = some text := by
    rw [heading?_headingLine hpos hsix hhead, beforeClosing_append _ hclosing]
    exact fun c hc => ⟨h.spaced.last c hc, fun hhash => hopen (hhash ▸ hc)⟩
  have hflat : flatten text = text := flatten_of_singleSpaced h.spaced h.plain
  have hparse := parse_of_heading? htext hlines hheading (by rw [hflat]; exact h.nonempty) rfl path
  rw [hflat] at hparse
  exact hparse

/-- A heading keeps its text: an article of one heading has this text for its title and no body, whether or
not white space and hash signs follow. -/
theorem title_of_heading {n : Nat} (hpos : 1 ≤ n) (hsix : n ≤ 6) (h : HeadingText text)
    (hnul : '\x00' ∉ text) (hopen : text.getLast? ≠ some '#') (path : String) :
    parse path (String.ofList (headingLine n text)) = .ok ⟨text, []⟩ ∧
      ∀ (gap : List Char) (m : Nat), gap ≠ [] → (∀ c ∈ gap, isBlank c = true ∧ c ≠ '\n') →
        parse path (String.ofList (headingLine n text ++ gap ++ List.replicate m '#')) =
          .ok ⟨text, []⟩ := by
  constructor
  · have hplain := parse_headingLine_append hpos hsix h hnul hopen (by rfl) List.not_mem_nil path
    rwa [List.append_nil] at hplain
  · intro gap m _ hgap
    have hfeed : '\n' ∉ gap ++ List.replicate m '#' := by
      intro hmem
      rcases List.mem_append.1 hmem with hmem | hmem
      · exact (hgap _ hmem).2 rfl
      · exact absurd (List.eq_of_mem_replicate hmem) (by decide)
    have hclosed := parse_headingLine_append hpos hsix h hnul hopen
      (isClosing_append_replicate (fun c hc => (hgap c hc).1) m) hfeed path
    rw [headingLine] at hclosed ⊢
    simpa using hclosed

end Concordance.Article

namespace Concordance.Unicode

open Text Article

/-- Text of characters none of which is white space ends in no closing, unless it is nothing but hash signs. -/
theorem headingText_of_word {text : List Char} {c : Char} (hc : c ∈ text) (hhash : c ≠ '#')
    (h : ∀ c ∈ text, isBlank c = false ∧ isMarkup c = false) : HeadingText text where
  nonempty := List.ne_nil_of_mem hc
  spaced := by
    refine ⟨fun d hd hblank => ?_, fun hpair => ?_, fun d hd => ?_, fun d hd => ?_⟩
    · rw [(h d hd).1] at hblank
      cases hblank
    · exact absurd (h ' ' (hpair.subset List.mem_cons_self)).1 (by decide)
    · exact (h d (List.mem_of_mem_head? hd)).1
    · exact (h d (List.mem_of_mem_getLast? hd)).1
  plain := fun d hd => (h d hd).2
  unclosed := by
    rintro front d n rfl
    exact (h d (by simp)).1
  not_hashes := by
    rintro n rfl
    exact hhash (List.eq_of_mem_replicate hc)

/-- A hash sign inside the text, and a closing of more hash signs than a heading can begin with. -/
theorem title_of_heading_closed :
    HeadingText ['C', '#', '4'] ∧ '\x00' ∉ ['C', '#', '4'] ∧ ['C', '#', '4'].getLast? ≠ some '#' ∧
      parse "p/a.md" "###### C#4" = .ok ⟨['C', '#', '4'], []⟩ ∧
      parse "p/a.md" "###### C#4\u00a0\t#######" = .ok ⟨['C', '#', '4'], []⟩ := by
  have htext : HeadingText ['C', '#', '4'] :=
    headingText_of_word (c := 'C') (by simp) (by decide) (by simp [isBlank, isMarkup, isEmphasis])
  obtain ⟨hplain, hclosed⟩ :=
    title_of_heading (n := 6) (by decide) (by decide) htext (by decide) (by decide) "p/a.md"
  exact ⟨htext, by decide, by decide, hplain,
    hclosed ['\u00a0', '\t'] 7 (by simp) (by simp [isBlank])⟩

/-- Text with a character NUL is refused wherever it stands, and hash signs at the end of a heading are taken
for a closing even where no white space stands before them. -/
theorem not_every_heading_keeps_text :
    (¬∀ (n : Nat) (text : List Char) (path : String), 1 ≤ n → n ≤ 6 → HeadingText text →
      parse path (String.ofList (headingLine n text)) = .ok ⟨text, []⟩) ∧
    (HeadingText ['a', '\x00'] ∧
      parse "p/a.md" "# a\x00" = .error (.malformed "p/a.md" .binaryContent)) ∧
    HeadingText ['C', '#'] ∧ parse "p/a.md" "# C#" = .ok ⟨['C'], []⟩ := by
  have hnul : HeadingText ['a', '\x00'] :=
    headingText_of_word (c := 'a') (by simp) (by decide) (by simp [isBlank, isMarkup, isEmphasis])
  have hhash : HeadingText ['C', '#'] :=
    headingText_of_word (c := 'C') (by simp) (by decide) (by simp [isBlank, isMarkup, isEmphasis])
  have hrefused : parse "p/a.md" "# a\x00" = .error (.malformed "p/a.md" .binaryContent) := by
    decide +kernel
  refine ⟨fun h => ?_, ⟨hnul, hrefused⟩, hhash, by decide +kernel⟩
  have hkept := h 1 _ "p/a.md" (by decide) (by decide) hnul
  have hline : String.ofList (headingLine 1 ['a', '\x00']) = "# a\x00" := by decide
  rw [hline, hrefused] at hkept
  cases hkept

end Concordance.Unicode
