import Concordance.Proofs.CodeBlocks
import Concordance.Proofs.SeparatedTexts
import Concordance.Proofs.UnicodeLaws

/-!
# Plain paragraphs

A line that begins with a letter is no heading, no rule and no mark of a block of code, and has no markers
of quotations and lists at its beginning; without characters of markup it is written to the body as it is,
but for its white space (`read_of_plain`). So an article of a heading and such lines, with blank lines
between them, loses no word: its body is its paragraphs, and has the terms of its lines.
-/

namespace Concordance.Article

open Text

/-! ### Paragraphs -/

/-- The paragraphs of some lines: the longest stretches of lines that are not empty. -/
def paragraphsOf (lines : List (List Char)) : List (List (List Char)) :=
  (splitBy List.isEmpty lines).filter fun paragraph => !paragraph.isEmpty

/-- The text of some paragraphs, with an empty line before each. -/
def separated (paragraphs : List (List (List Char))) : List Char :=
  (paragraphs.filter fun paragraph => !paragraph.isEmpty).flatMap fun paragraph =>
    ['\n', '\n'] ++ joinWith ['\n'] paragraph

/-- The lines trimmed, with their white space collapsed and one empty line between paragraphs. -/
def plainBody (lines : List (List Char)) : List Char :=
  joinWith ['\n', '\n']
    ((paragraphsOf (lines.map fun line => collapse (trim line))).map (joinWith ['\n']))

variable {line : List Char} {lines first : List (List Char)} {rest : List (List (List Char))}

theorem flatten_paragraphsOf (lines : List (List Char)) :
    (paragraphsOf lines).flatten = lines.filter (!·.isEmpty) := by
  rw [paragraphsOf, List.flatten_filter_not_isEmpty, flatten_splitBy]

theorem paragraphsOf_append_nil (lines : List (List Char)) :
    paragraphsOf (lines ++ [[]]) = paragraphsOf lines := by
  rw [paragraphsOf, splitBy_append_cons (by rfl), List.filter_append]
  simp [paragraphsOf, splitBy]

theorem plainBody_append_nil (lines : List (List Char)) : plainBody (lines ++ [[]]) = plainBody lines := by
  rw [plainBody, List.map_append]
  exact congrArg (fun paragraphs => joinWith ['\n', '\n'] (paragraphs.map (joinWith ['\n'])))
    (paragraphsOf_append_nil _)

/-- A line that is not empty stands in the first stretch. -/
theorem splitBy_cons_of_ne_nil (hne : line ≠ []) (h : splitBy List.isEmpty lines = first :: rest) :
    splitBy List.isEmpty (line :: lines) = (line :: first) :: rest := by
  rw [splitBy, h]
  simp [hne]

/-- Behind a line, the first stretch goes on line by line, unless an empty line stands before it. -/
theorem joinParagraphs_true_eq_separated (h : splitBy List.isEmpty lines = first :: rest) :
    joinParagraphs true false lines = first.flatMap (['\n'] ++ ·) ++ separated rest ∧
      joinParagraphs true true lines = separated (first :: rest) := by
  induction lines generalizing first rest with
  | nil =>
      cases h
      exact ⟨rfl, rfl⟩
  | cons line lines ih =>
      obtain ⟨next, more, hmore⟩ := List.exists_cons_of_ne_nil (splitBy_ne_nil List.isEmpty lines)
      obtain ⟨hgoes, hbreaks⟩ := ih hmore
      by_cases hne : line = []
      · -- an empty line is one more break, whatever was broken before
        subst hne
        rw [splitBy, hmore] at h
        cases h
        exact ⟨hbreaks, hbreaks⟩
      · rw [splitBy_cons_of_ne_nil hne hmore] at h
        cases h
        have hline : line.isEmpty = false := by simpa using hne
        constructor
        · rw [joinParagraphs, hline, hgoes]
          simp
        · rw [joinParagraphs, hline, hgoes]
          simp [separated, joinWith_cons]

/-- Joined lines are the paragraphs of the lines, with an empty line between each two. -/
theorem joinParagraphs_eq (lines : List (List Char)) :
    joinParagraphs false false lines =
      joinWith ['\n', '\n'] ((paragraphsOf lines).map (joinWith ['\n'])) := by
  induction lines with
  | nil => rfl
  | cons line lines ih =>
      obtain ⟨first, rest, hrest⟩ := List.exists_cons_of_ne_nil (splitBy_ne_nil List.isEmpty lines)
      by_cases hne : line = []
      · subst hne
        exact ih
      · have hline : line.isEmpty = false := by simpa using hne
        have hparagraphs : paragraphsOf (line :: lines) = (line :: first) :: rest.filter (!·.isEmpty) := by
          rw [paragraphsOf, splitBy_cons_of_ne_nil hne hrest, List.filter_cons_of_pos (by rfl)]
        rw [joinParagraphs, hline, (joinParagraphs_true_eq_separated hrest).1, hparagraphs, List.map_cons,
          joinWith_cons, joinWith_cons, separated, List.flatMap_map]
        simp

/-! ### Lines that are joined -/

/-- Lines that were joined with line feeds are read again, but for an empty line at the end. -/
theorem lines_joinWith (h : ∀ line ∈ lines, '\n' ∉ line ∧ '\r' ∉ line) :
    Text.lines (joinWith ['\n'] lines) = lines ∨ Text.lines (joinWith ['\n'] lines) ++ [[]] = lines := by
  fun_induction joinWith ['\n'] lines with
  | case1 => exact .inl rfl
  | case2 piece =>
      by_cases hne : piece = []
      · subst hne
        exact .inr rfl
      · exact .inl (linesFrom_of_not_mem hne (h piece List.mem_cons_self).1 [])
  | case3 piece pieces _ ih =>
      obtain ⟨hfeed, hreturn⟩ := h piece List.mem_cons_self
      rw [List.append_assoc, List.singleton_append, lines_append_lineFeed hfeed hreturn, List.cons_append,
        List.cons_inj_right, List.cons_inj_right]
      exact ih fun line hline => h line (List.mem_cons_of_mem _ hline)

/-- The lines of a heading and other lines that were joined. -/
theorem exists_linesOf_joinWith {heading text : List Char} (hheading : heading? heading = some text)
    (h : ∀ line ∈ heading :: lines, '\n' ∉ line ∧ '\r' ∉ line) :
    ∃ others, linesOf (String.ofList (joinWith ['\n'] (heading :: lines))) = heading :: others ∧
      (others = lines ∨ others ++ [[]] = lines) := by
  obtain ⟨hfeed, hreturn⟩ := h heading List.mem_cons_self
  have hlines : ∀ line ∈ lines, '\n' ∉ line ∧ '\r' ∉ line := fun line hline =>
    h line (List.mem_cons_of_mem _ hline)
  -- a heading begins with white space or a hash sign, not with a byte order mark
  have hmark (behind : List Char) : stripStart? [Char.ofNat 0xFEFF] (heading ++ behind) = none := by
    obtain ⟨front, rest, rfl, hfront⟩ := exists_hash_of_heading? hheading
    cases front with
    | nil => rfl
    | cons c front =>
        rw [List.cons_append, List.cons_append, stripStart?, if_neg]
        rintro rfl
        exact absurd (hfront _ List.mem_cons_self) (by decide)
  have hreturns : '\r' ∉ joinWith ['\n'] (heading :: lines) := by
    rw [joinWith_eq_intercalate]
    exact not_mem_intercalate (by decide) fun line hline => (h line hline).2
  have hpair : ¬['\r', '\n'] <:+: joinWith ['\n'] (heading :: lines) := fun hpair =>
    hreturns (hpair.subset List.mem_cons_self)
  have hstart : stripStart? [Char.ofNat 0xFEFF] (joinWith ['\n'] (heading :: lines)) = none := by
    rw [joinWith_cons]
    exact hmark _
  rw [linesOf, String.toList_ofList, hstart, Option.getD_none, joinCarriageReturns_eq_self hpair]
  cases lines with
  | nil =>
      have hne : heading ≠ [] := by
        rintro rfl
        cases hheading
      exact ⟨[], linesFrom_of_not_mem hne hfeed [], .inl rfl⟩
  | cons line lines =>
      refine ⟨Text.lines (joinWith ['\n'] (line :: lines)), ?_, lines_joinWith hlines⟩
      rw [joinWith, List.append_assoc, List.singleton_append, lines_append_lineFeed hfeed hreturn]
      exact List.cons_ne_nil _ _

/-! ### Lines that begin with a letter -/

/-- The characters that a heading, a marker, a rule or a mark of a block of code can begin with, decimal
digits apart. -/
def lineMarks : List Char :=
  ['#', '>', '-', '*', '+', '_', '|', ':', '~', Char.ofNat 0x60]

variable [CharacterTable] {c : Char} {behind : List Char}

/-- Nothing that a line is looked at for begins with the character. -/
structure BeginsText (c : Char) : Prop where
  blank : isBlank c = false
  mark : c ∉ lineMarks
  digit : isDecimalDigit c = false

namespace BeginsText

theorem ne (h : BeginsText c) {mark : Char} (hmark : mark ∈ lineMarks) : c ≠ mark := fun heq =>
  h.mark (heq ▸ hmark)

theorem isFence_eq (h : BeginsText c) (behind : List Char) : isFence (c :: behind) = false := by
  rw [Bool.eq_false_iff, ne_eq, isFence_iff, not_or]
  constructor
  · intro hbackticks
    exact h.ne (by decide) (List.cons_prefix_cons.1 hbackticks).1.symm
  · intro htildes
    exact h.ne (by decide) (List.cons_prefix_cons.1 htildes).1.symm

theorem isRule_eq (h : BeginsText c) (behind : List Char) : isRule (c :: behind) = false := by
  have hblank {d : Char} (hd : isBlank d = true) : c ≠ d := by
    rintro rfl
    rw [h.blank] at hd
    cases hd
  have hc : isRuleChar c = false := by
    simp only [isRuleChar, Bool.or_eq_false_iff, beq_eq_false_iff_ne]
    exact ⟨⟨⟨⟨⟨⟨h.ne (by decide), h.ne (by decide)⟩, h.ne (by decide)⟩, h.ne (by decide)⟩,
      h.ne (by decide)⟩, hblank (by decide)⟩, hblank (by decide)⟩
  rw [isRule, List.all_cons, hc, Bool.false_and, Bool.false_and]

theorem heading?_eq (h : BeginsText c) (hline : line.dropWhile isBlank = c :: behind) :
    heading? line = none := by
  rw [Option.eq_none_iff_forall_ne_some]
  intro text htext
  obtain ⟨rest, hrest⟩ := exists_dropWhile_of_heading? htext
  rw [hline] at hrest
  exact h.ne (by decide) (List.cons.inj hrest).1

/-- A line that begins with text has no marker. -/
theorem afterMarker?_eq (h : BeginsText c) (hline : line.dropWhile isBlank = c :: behind) :
    afterMarker? line = none := by
  have hnumber : afterNumber? (c :: behind) = none := by
    rw [afterNumber?, List.takeWhile_cons_of_neg (by simp [h.digit])]
    rfl
  have hmarks : ¬(c = '-' ∨ c = '*' ∨ c = '+') := by
    rintro (rfl | rfl | rfl)
    all_goals exact h.mark (by decide)
  rw [afterMarker?, hline]
  split
  · next heq => exact absurd (List.cons.inj heq).1 (h.ne (by decide))
  · next heq =>
      cases heq
      rw [if_neg hmarks, hnumber]
  · rfl

end BeginsText

/-- The line is blank, or it begins with a letter behind white space and has no character of markup. -/
def isPlainLine (line : List Char) : Bool :=
  line.all isBlank ||
    (line.dropWhile isBlank).head?.any isAlphabetic && line.all fun c => !isMarkup c

section Lines

variable (hletter : ∀ c, isAlphabetic c = true → BeginsText c)
include hletter

/-- A plain line is written to the body, trimmed and collapsed. -/
theorem read_of_plain (h : isPlainLine line = true) {draft : Draft} (hdraft : draft.inCode = false) :
    draft.read line = .ok (draft.push (collapse (trim line))) := by
  rw [isPlainLine, Bool.or_eq_true, Bool.and_eq_true] at h
  rcases h with hblanks | ⟨hhead, hplain⟩
  · have htrim : trim line = [] := by
      rw [trim, trimBy, trimStartBy, List.dropWhile_eq_nil_iff.2 (List.all_eq_true.1 hblanks)]
      rfl
    rw [read_of_trim_eq_nil htrim, htrim]
    rfl
  · -- a letter at the front rules out the fence, the heading, the rule and the list marker
    obtain ⟨c, hhead, halphabetic⟩ := Option.any_eq_true _ _ |>.1 hhead
    obtain ⟨behind, hstart⟩ := List.head?_eq_some_iff.1 hhead
    have hc : BeginsText c := hletter c halphabetic
    obtain ⟨rest, hrest⟩ : ∃ rest, trim line = c :: rest := exists_trimBy_eq_cons hstart
    have hfence : isFence (trim line) = false := hrest ▸ hc.isFence_eq rest
    have hrule : isRule (trim line) = false := hrest ▸ hc.isRule_eq rest
    have hmarkup : ∀ c ∈ line, isMarkup c = false := by simpa using hplain
    have hflat : flatten (dropMarkers line) = collapse (trim line) := by
      rw [dropMarkers_eq_self (hc.afterMarker?_eq hstart), flatten_of_plain hmarkup]
    simp only [Draft.read, hfence, hdraft, hc.heading?_eq hstart, hrule, hflat]
    rfl

/-- An article of a heading and plain lines has the paragraphs of the lines for its body. -/
theorem parse_of_plain {source : String} {heading text : List Char} (hheading : heading? heading = some text)
    (hne : flatten text ≠ []) (h : ∀ line ∈ lines, isPlainLine line = true) (hsource : IsText source)
    (hlines : linesOf source = heading :: lines) (path : String) :
    parse path source = .ok ⟨flatten text, plainBody lines⟩ := by
  have hread := foldlM_read_of_written (fun line hline _ => read_of_plain hletter (h line hline))
    (some (flatten text)) []
  rw [parse_of_heading? hsource hlines hheading hne hread path, List.append_nil, List.reverse_reverse,
    joinParagraphs_eq]
  rfl

end Lines

end Concordance.Article

namespace Concordance.TokenizerConfig

open Text Article

variable [CharacterTable] {config : TokenizerConfig}

/-- Trimming white space changes no terms. -/
theorem termsIn_trim (hblank : ∀ c, isBlank c = true → isWordChar c = false) (cs : List Char) :
    config.termsIn (trim cs) = config.termsIn cs := by
  obtain ⟨back, hcs, hback⟩ := takeWhile_append_trimBy isBlank cs
  have hfront : ∀ c ∈ cs.takeWhile isBlank, isRunChar c = false := fun c hc =>
    isRunChar_of_isBlank hblank (List.mem_takeWhile_imp hc)
  rw [trim]
  conv_rhs => rw [hcs]
  rw [termsIn_append_separators fun c hc => isRunChar_of_isBlank hblank (hback c hc),
    termsIn_separators_append hfront]

/-- Empty lines have no terms. -/
theorem flatMap_termsIn_filter (lines : List (List Char)) :
    (lines.filter (!·.isEmpty)).flatMap config.termsIn = lines.flatMap config.termsIn := by
  induction lines with
  | nil => rfl
  | cons line lines ih =>
      cases line with
      | nil => simpa using ih
      | cons c line => simp [ih]

/-- The terms of paragraphs are those of their lines. -/
theorem termsIn_paragraphsOf (hfeed : isRunChar '\n' = false) (lines : List (List Char)) :
    config.termsIn (joinWith ['\n', '\n'] ((paragraphsOf lines).map (joinWith ['\n']))) =
      lines.flatMap config.termsIn := by
  have hparagraph : ∀ paragraph, config.termsIn (joinWith ['\n'] paragraph) =
      paragraph.flatMap config.termsIn := termsIn_joinWith (by simp) (by simp [hfeed])
  calc config.termsIn (joinWith ['\n', '\n'] ((paragraphsOf lines).map (joinWith ['\n'])))
      = (paragraphsOf lines).flatMap fun paragraph => paragraph.flatMap config.termsIn := by
        rw [termsIn_joinWith (by simp) (by simp [hfeed]), List.flatMap_map]
        simp only [hparagraph]
    _ = (paragraphsOf lines).flatten.flatMap config.termsIn := by
        simp only [List.flatMap_def, List.map_flatten, List.flatten_flatten, List.map_map,
          Function.comp_def]
    _ = lines.flatMap config.termsIn := by
        rw [flatten_paragraphsOf, flatMap_termsIn_filter]

/-- The body of plain lines has the terms of the lines. -/
theorem terms_plainBody (hblank : ∀ c, isBlank c = true → isWordChar c = false)
    (lines : List (List Char)) :
    config.terms (String.ofList (plainBody lines)) =
      config.terms (String.ofList (joinWith ['\n'] lines)) := by
  have hfeed : isRunChar '\n' = false := isRunChar_of_isBlank hblank (by decide)
  have hline : ∀ line, config.termsIn (collapse (trim line)) = config.termsIn line := fun line => by
    rw [termsIn_collapse hblank, termsIn_trim hblank]
  rw [terms_eq_map_termsIn, terms_eq_map_termsIn, String.toList_ofList, String.toList_ofList, plainBody,
    termsIn_paragraphsOf hfeed, termsIn_joinWith (by simp) (by simp [hfeed]), List.flatMap_map]
  simp only [hline]

end Concordance.TokenizerConfig

namespace Concordance.Unicode

open Text Article

/-- No letter of Unicode begins a mark of a line. -/
theorem beginsText_of_isAlphabetic {c : Char} (h : isAlphabetic c = true) : BeginsText c where
  blank := isBlank_of_isAlphabetic h
  mark := by
    have hmarks : lineMarks.all (fun mark => !isAlphabetic mark) = true := by decide +kernel
    intro hmark
    have hnone := List.all_eq_true.1 hmarks c hmark
    rw [h] at hnone
    cases hnone
  digit := isDecimalDigit_of_isAlphabetic h

/-- Plain paragraphs lose no word. An article of a heading that is accepted for the title and lines each of
which is blank or begins with a letter, behind white space, and has no character of markup, is read: its body
is these lines, trimmed and collapsed, with one empty line in place of the blank ones between two others and
none at the ends. Under every configuration the body has the terms of the lines, in their order. -/
theorem plain_paragraphs {heading text : List Char} {lines : List (List Char)}
    (hheading : heading? heading = some text) (hne : flatten text ≠ [])
    (hlines : ∀ line ∈ lines, isPlainLine line = true) :
    (∀ path source, IsText source → linesOf source = heading :: lines →
      parse path source = .ok ⟨flatten text, plainBody lines⟩) ∧
    ((∀ line ∈ heading :: lines, '\n' ∉ line ∧ '\r' ∉ line ∧ '\x00' ∉ line) →
      ∀ path, parse path (String.ofList (joinWith ['\n'] (heading :: lines))) =
        .ok ⟨flatten text, plainBody lines⟩) ∧
    ∀ config : TokenizerConfig, config.terms (String.ofList (plainBody lines)) =
      config.terms (String.ofList (joinWith ['\n'] lines)) := by
  have hletter : ∀ c, isAlphabetic c = true → BeginsText c := fun c => beginsText_of_isAlphabetic
  have hblank : ∀ c, isBlank c = true → isWordChar c = false := fun c => isWordChar_of_isBlank
  refine ⟨fun path source hsource hall => parse_of_plain hletter hheading hne hlines hsource hall path,
    fun hplain path => ?_, fun config => TokenizerConfig.terms_plainBody hblank lines⟩
  have hsource : IsText (String.ofList (joinWith ['\n'] (heading :: lines))) := by
    rw [IsText, String.toList_ofList, joinWith_eq_intercalate]
    exact not_mem_intercalate (by decide) fun line hline => (hplain line hline).2.2
  obtain ⟨others, hothers, hsame⟩ := exists_linesOf_joinWith hheading fun line hline =>
    ⟨(hplain line hline).1, (hplain line hline).2.1⟩
  rcases hsame with rfl | rfl
  · exact parse_of_plain hletter hheading hne hlines hsource hothers path
  · -- an empty line at the end is no line of its own, and adds nothing to the body
    have hread := parse_of_plain hletter hheading hne
      (fun line hline => hlines line (List.mem_append_left _ hline)) hsource hothers path
    rw [hread, plainBody_append_nil]

/-- Two paragraphs, with blank lines of several kinds before, between and behind them, and signs that would be
markers, a rule, a heading or a mark of a block of code at the beginning of a line. -/
def teaLines : List (List Char) :=
  [" \t".toList, "Green  1. - tea".toList, "\u2003été > # ~~~ ".toList, [], "\u00a0".toList,
    "x_y-z: $]".toList, []]

theorem plain_paragraphs_teaLines :
    heading? "## Tea #".toList = some "Tea".toList ∧ flatten "Tea".toList ≠ [] ∧
      (∀ line ∈ teaLines, isPlainLine line = true) ∧
      parse "p/a.md" "## Tea #\r\n \t\nGreen  1. - tea\n\u2003été > # ~~~ \n\n\u00a0\r\nx_y-z: $]\n\n" =
        .ok ⟨"Tea".toList, "Green 1. - tea\nété > # ~~~\n\nx_y-z: $]".toList⟩ ∧
      parse "p/a.md" (String.ofList (joinWith ['\n'] ("## Tea #".toList :: teaLines))) =
        .ok ⟨"Tea".toList, "Green 1. - tea\nété > # ~~~\n\nx_y-z: $]".toList⟩ ∧
      folding.terms (String.ofList "Green 1. - tea\nété > # ~~~\n\nx_y-z: $]".toList) =
        folding.terms (String.ofList (joinWith ['\n'] teaLines)) := by
  have hheading : heading? "## Tea #".toList = some "Tea".toList := by decide
  have htitle : flatten "Tea".toList = "Tea".toList := by decide +kernel
  have hne : flatten "Tea".toList ≠ [] := by
    rw [htitle]
    decide
  have hlines : ∀ line ∈ teaLines, isPlainLine line = true := by
    refine List.all_eq_true.1 ?_
    decide +kernel
  have hbody : plainBody teaLines = "Green 1. - tea\nété > # ~~~\n\nx_y-z: $]".toList := by
    decide +kernel
  obtain ⟨hparse, hjoined, hterms⟩ := plain_paragraphs hheading hne hlines
  rw [hbody, htitle] at hparse hjoined
  refine ⟨hheading, hne, hlines, hparse _ _ (by decide +kernel) (by decide +kernel),
    hjoined (by decide +kernel) _, ?_⟩
  rw [← hbody]
  exact hterms folding

end Concordance.Unicode
