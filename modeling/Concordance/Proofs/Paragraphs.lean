import Concordance.Proofs.Titles
import Mathlib.Data.List.Infix

/-!
# The form of articles

The title of an article is single-spaced, and its body is made of such lines with one line feed or two
between each two of them (`Paragraphs`), whatever the text was that it was read from: each line of the text
is flattened or collapsed by itself, and the lines are joined with an empty line where there was at least
one.
-/

namespace Concordance.Article

open Text

/-- Single-spaced lines with one line feed or two between each two: a body that is not empty. -/
inductive Paragraphs : List Char → Prop
  | line {line : List Char} (nonempty : line ≠ []) (spaced : SingleSpaced line) : Paragraphs line
  | append {line gap rest : List Char} (nonempty : line ≠ []) (spaced : SingleSpaced line)
      (gap_eq : gap = ['\n'] ∨ gap = ['\n', '\n']) (more : Paragraphs rest) :
      Paragraphs (line ++ gap ++ rest)

namespace Paragraphs

variable {body : List Char}

theorem ne_nil (h : Paragraphs body) : body ≠ [] := by
  cases h with
  | line nonempty spaced => exact nonempty
  | append nonempty spaced gap_eq more => simp [nonempty]

/-- A body begins with the first character of a line. -/
theorem head (h : Paragraphs body) : ∀ c ∈ body.head?, isBlank c = false := by
  cases h with
  | line nonempty spaced => exact spaced.head
  | append nonempty spaced gap_eq more =>
      intro c hc
      rw [List.append_assoc, List.head?_append_of_ne_nil _ nonempty] at hc
      exact spaced.head c hc

/-- A body ends with the last character of a line. -/
theorem last (h : Paragraphs body) : ∀ c ∈ body.getLast?, isBlank c = false := by
  induction h with
  | line nonempty spaced => exact spaced.last
  | append nonempty spaced gap_eq more ih =>
      intro c hc
      rw [List.getLast?_append_of_ne_nil _ more.ne_nil] at hc
      exact ih c hc

/-- The white space of a body is spaces and line feeds. -/
theorem eq_of_isBlank (h : Paragraphs body) : ∀ c ∈ body, isBlank c = true → c = ' ' ∨ c = '\n' := by
  induction h with
  | line nonempty spaced => exact fun c hc hblank => .inl (spaced.spaces c hc hblank)
  | append nonempty spaced gap_eq more ih =>
      intro c hc hblank
      rw [List.append_assoc, List.mem_append, List.mem_append] at hc
      rcases hc with hc | hc | hc
      · exact .inl (spaced.spaces c hc hblank)
      · rcases gap_eq with rfl | rfl
        · exact .inr (by simpa using hc)
        · exact .inr (by simpa using hc)
      · exact ih c hc hblank

end Paragraphs

/-- Line feeds in a row are not looked for where there are none. -/
theorem lineFeeds_infix_of_append {front rest feeds : List Char} (hfront : '\n' ∉ front)
    (h : '\n' :: feeds <:+: front ++ rest) : '\n' :: feeds <:+: rest := by
  induction front with
  | nil => exact h
  | cons c front ih =>
      obtain ⟨hc, hfront⟩ := List.ne_and_not_mem_of_not_mem_cons hfront
      rw [List.cons_append, List.infix_cons_iff] at h
      rcases h with h | h
      · exact absurd (List.cons_prefix_cons.1 h).1 hc
      · exact ih hfront h

/-- There is never more than one empty line between two others. -/
theorem Paragraphs.not_three_lineFeeds {body : List Char} (h : Paragraphs body) :
    ¬['\n', '\n', '\n'] <:+: body := by
  induction h with
  | line nonempty spaced => exact fun h => spaced.lineFeed_not_mem (h.subset List.mem_cons_self)
  | @append line gap rest nonempty spaced gap_eq more ih =>
      -- the next line does not begin with a line feed
      have hnext (feeds : List Char) : ¬('\n' :: feeds <+: rest) := by
        rintro ⟨behind, rfl⟩
        exact absurd (more.head '\n' (by simp)) (by decide)
      have hone : ¬['\n', '\n', '\n'] <:+: '\n' :: rest := by
        rw [List.infix_cons_iff, List.cons_prefix_cons]
        rintro (⟨-, h⟩ | h)
        · exact hnext _ h
        · exact ih h
      intro h
      rw [List.append_assoc] at h
      have hgap := lineFeeds_infix_of_append spaced.lineFeed_not_mem h
      rcases gap_eq with rfl | rfl
      · exact hone hgap
      · rw [List.cons_append, List.infix_cons_iff, List.cons_prefix_cons] at hgap
        rcases hgap with ⟨-, hgap⟩ | hgap
        · exact hnext _ (List.cons_prefix_cons.1 hgap).2
        · exact hone hgap

/-! ### Joined lines -/

variable {lines : List (List Char)}

/-- Behind a line there is nothing, or a gap and the other lines. -/
theorem joinParagraphs_true (h : ∀ line ∈ lines, SingleSpaced line) (broken : Bool) :
    joinParagraphs true broken lines = [] ∨ ∃ gap rest, joinParagraphs true broken lines = gap ++ rest ∧
      (gap = ['\n'] ∨ gap = ['\n', '\n']) ∧ Paragraphs rest := by
  induction lines generalizing broken with
  | nil => exact .inl rfl
  | cons line lines ih =>
      have hrest := ih fun l hl => h l (List.mem_cons_of_mem _ hl)
      have hline : SingleSpaced line := h line List.mem_cons_self
      rw [joinParagraphs]
      split
      · exact hrest true
      · next hne =>
          have hne : line ≠ [] := by simpa using hne
          rw [if_pos rfl, List.append_assoc]
          refine .inr ⟨_, _, rfl, ?_, ?_⟩
          · split
            · exact .inr rfl
            · exact .inl rfl
          · -- the gaps of the lines behind are their own; this line only goes before them
            rcases hrest false with hnil | ⟨gap, rest, heq, hgap, hparagraphs⟩
            · rw [hnil, List.append_nil]
              exact .line hne hline
            · rw [heq, ← List.append_assoc]
              exact .append hne hline hgap hparagraphs

/-- Joined lines are a body, unless there are none to join. -/
theorem joinParagraphs_false (h : ∀ line ∈ lines, SingleSpaced line) :
    joinParagraphs false false lines = [] ∨ Paragraphs (joinParagraphs false false lines) := by
  induction lines with
  | nil => exact .inl rfl
  | cons line lines ih =>
      have hlines : ∀ l ∈ lines, SingleSpaced l := fun l hl => h l (List.mem_cons_of_mem _ hl)
      have hline : SingleSpaced line := h line List.mem_cons_self
      rw [joinParagraphs]
      split
      · exact ih hlines
      · next hne =>
          have hne : line ≠ [] := by simpa using hne
          rw [if_neg Bool.false_ne_true, List.nil_append]
          rcases joinParagraphs_true hlines false with hnil | ⟨gap, rest, heq, hgap, hparagraphs⟩
          · rw [hnil, List.append_nil]
            exact .inr (.line hne hline)
          · rw [heq, ← List.append_assoc]
            exact .inr (.append hne hline hgap hparagraphs)

def writtenLines (body : List Char) : List (List Char) :=
  (splitBy (· == '\n') body).filter (!·.isEmpty)

theorem writtenLines_lineFeed (rest : List Char) : writtenLines ('\n' :: rest) = writtenLines rest :=
  rfl

/-- A line ends where the body ends or a line feed follows. -/
theorem writtenLines_append {line rest : List Char} (hne : line ≠ []) (hline : '\n' ∉ line)
    (hrest : rest = [] ∨ ∃ behind, rest = '\n' :: behind) :
    writtenLines (line ++ rest) = line :: writtenLines rest := by
  have hone : splitBy (· == '\n') line = [line] :=
    splitBy_of_none fun c hc => beq_eq_false_iff_ne.2 fun heq => hline (heq ▸ hc)
  rcases hrest with rfl | ⟨behind, rfl⟩
  · rw [List.append_nil, writtenLines, hone]
    simp [hne, writtenLines, splitBy]
  · rw [writtenLines_lineFeed, writtenLines, splitBy_append_cons (by rfl), hone]
    simp [hne, writtenLines]

/-- Behind a line, the text ends or goes on with a line feed. -/
theorem joinParagraphs_true_eq (broken : Bool) (lines : List (List Char)) :
    joinParagraphs true broken lines = [] ∨ ∃ rest, joinParagraphs true broken lines = '\n' :: rest := by
  induction lines generalizing broken with
  | nil => exact .inl rfl
  | cons line lines ih =>
      rw [joinParagraphs]
      split
      · exact ih true
      · cases broken with
        | true => exact .inr ⟨_, rfl⟩
        | false => exact .inr ⟨_, rfl⟩

/-- Joining lines loses none that is not empty. -/
theorem writtenLines_joinParagraphs (h : ∀ line ∈ lines, '\n' ∉ line) (written broken : Bool) :
    writtenLines (joinParagraphs written broken lines) = lines.filter (!·.isEmpty) := by
  induction lines generalizing written broken with
  | nil => rfl
  | cons line lines ih =>
      have hlines : ∀ l ∈ lines, '\n' ∉ l := fun l hl => h l (List.mem_cons_of_mem _ hl)
      rw [joinParagraphs, List.filter_cons]
      split
      · next hempty =>
          rw [ih hlines, hempty]
          rfl
      · next hne =>
          -- a line that is written is followed by a line feed or by nothing, and is read again as it is
          have hline := writtenLines_append (by simpa using hne) (h line List.mem_cons_self)
            (joinParagraphs_true_eq false lines)
          rw [ih hlines] at hline
          have hkept : (!line.isEmpty) = true := by simpa using hne
          rw [if_pos hkept, List.append_assoc, ← hline]
          cases written with
          | false => rfl
          | true =>
              cases broken with
              | false => exact writtenLines_lineFeed _
              | true => exact (writtenLines_lineFeed _).trans (writtenLines_lineFeed _)

/-- Bodies that are equal have equally many lines. -/
theorem countP_eq_of_joinParagraphs_eq {others : List (List Char)} (h : ∀ line ∈ lines, '\n' ∉ line)
    (hothers : ∀ line ∈ others, '\n' ∉ line)
    (heq : joinParagraphs false false lines = joinParagraphs false false others) :
    lines.countP (!·.isEmpty) = others.countP (!·.isEmpty) := by
  rw [List.countP_eq_length_filter, List.countP_eq_length_filter,
    ← writtenLines_joinParagraphs h false false, heq, writtenLines_joinParagraphs hothers]

/-! ### Articles -/

/-- The title, if there is one yet, and the lines of the body are single-spaced. -/
structure Draft.Spaced (draft : Draft) : Prop where
  title : ∀ title ∈ draft.title, SingleSpaced title
  body : ∀ line ∈ draft.body, SingleSpaced line

/-- No line brings anything into a draft that is not single-spaced. -/
theorem Draft.Step.spaced {draft next : Draft} (h : draft.Step next) (hspaced : draft.Spaced) :
    next.Spaced := by
  cases h with
  | skip => exact hspaced
  | fence => exact ⟨hspaced.title, hspaced.body⟩
  | line spaced =>
      refine ⟨hspaced.title, fun line hline => ?_⟩
      rcases List.mem_cons.1 hline with rfl | hline
      · exact spaced
      · exact hspaced.body line hline
  | title untitled nonempty spaced =>
      refine ⟨fun title htitle => ?_, hspaced.body⟩
      obtain rfl := Option.some.inj htitle
      exact spaced

variable [CharacterTable] {path text : String} {article : Article}

/-- Every article has one form: a single-spaced title, and a body that is empty or made of single-spaced
lines with one line feed or two between each two. So there is no white space in the body but spaces and
line feeds, no more than two line feeds in a row, and none at either end. -/
theorem spaced_of_parse (h : parse path text = .ok article) :
    SingleSpaced article.title ∧ (article.body = [] ∨ Paragraphs article.body) ∧
      (∀ c ∈ article.body, isBlank c = true → c = ' ' ∨ c = '\n') ∧
      ¬['\n', '\n', '\n'] <:+: article.body ∧
      article.body.head? ≠ some '\n' ∧ article.body.getLast? ≠ some '\n' := by
  obtain ⟨-, title, rest, draft, hfront, hread, hfinish⟩ := parse_eq_ok_iff.1 h
  have hstart : Draft.Spaced ⟨title, [], false⟩ := by
    refine ⟨fun t ht => ?_, by simp⟩
    obtain ⟨value, -, rfl⟩ := (title_of_takeFrontMatter hfront t).1 ht
    exact singleSpaced_flatten value
  -- single spacing is kept by every line that is read
  have hdraft : draft.Spaced :=
    foldlM_invariant (fun _ _ _ hnext => (Draft.step_of_read hnext).spaced) hread hstart
  obtain ⟨htitle, hbody⟩ := Draft.finish_eq_ok_iff.1 hfinish
  have hlines : ∀ line ∈ draft.body.reverse, SingleSpaced line := fun line hline =>
    hdraft.body line (List.mem_reverse.1 hline)
  refine ⟨hdraft.title _ htitle, ?_⟩
  rw [hbody]
  rcases joinParagraphs_false hlines with hnil | hparagraphs
  · rw [hnil]
    simp
  · refine ⟨.inr hparagraphs, hparagraphs.eq_of_isBlank, hparagraphs.not_three_lineFeeds, ?_, ?_⟩
    · intro hhead
      exact absurd (hparagraphs.head '\n' hhead) (by decide)
    · intro hlast
      exact absurd (hparagraphs.last '\n' hlast) (by decide)

end Concordance.Article

namespace Concordance.Unicode

open Text Article

/-- White space of other kinds, in the title, in a row of a table and in a block of code, and long runs of
blank lines. -/
theorem spaced_of_parse_sample :
    parse "p/a.md" "\n#\u00a0 T&nbsp;\t*t*\r\n\n\n| a |\u2028b\n```\n \tx  y\n```\n\n\n\n> c\n\n" =
        .ok ⟨"T t".toList, "a b\nx y\n\nc".toList⟩ ∧
      SingleSpaced "T t".toList ∧ Paragraphs "a b\nx y\n\nc".toList := by
  have hparse : parse "p/a.md"
      "\n#\u00a0 T&nbsp;\t*t*\r\n\n\n| a |\u2028b\n```\n \tx  y\n```\n\n\n\n> c\n\n" =
        .ok ⟨"T t".toList, "a b\nx y\n\nc".toList⟩ := by
    decide +kernel
  obtain ⟨htitle, hbody, -⟩ := spaced_of_parse hparse
  exact ⟨hparse, htitle, hbody.resolve_left (by decide)⟩

end Concordance.Unicode
