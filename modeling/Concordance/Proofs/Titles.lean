import Concordance.Proofs.Drafts
import Concordance.Proofs.Trimming
import Concordance.Unicode.Database

/-!
# Where the title of an article comes from

The front matter gives the title by the last of its lines that has one, and else the first heading does. A
heading without text is refused. The value of a line of the front matter is looked at before it is
flattened, so a value of nothing but markup gives an article without a title (`title_ne_nil_iff`).
-/

namespace Concordance.Article

open Text

/-! ### Front matter -/

/-- The lines begin with a front matter that consists of `front`, with `rest` behind it. -/
def FrontMatter (lines front rest : List (List Char)) : Prop :=
  ∃ opening closing, lines = opening :: front ++ closing :: rest ∧ opensFrontMatter opening = true ∧
    closesFrontMatter closing = true ∧ ∀ line ∈ front, closesFrontMatter line = false

/-- The line has the key `title` before its first colon, in any case, and behind it a value, without white
space and then quotation marks around it. -/
def TitleLine (line value : List Char) : Prop :=
  ∃ key behind, line = key ++ ':' :: behind ∧ ':' ∉ key ∧ asciiLower (trim key) = "title".toList ∧
    value = trimBy (fun c => c == '"' || c == '\'') (trim behind) ∧ value ≠ []

/-- The value is that of the last title in the front matter. -/
def FrontTitle (lines : List (List Char)) (value : List Char) : Prop :=
  ∃ before line after rest, FrontMatter lines (before ++ line :: after) rest ∧ TitleLine line value ∧
    ∀ later ∈ after, ∀ other, ¬TitleLine later other

variable {lines front rest : List (List Char)} {line : List Char} {title : Option (List Char)}

/-- A front matter ends at the first line that closes it. -/
theorem splitFrontMatter?_eq_some_iff : splitFrontMatter? lines = some (front, rest) ↔
    ∃ closing, lines = front ++ closing :: rest ∧ closesFrontMatter closing = true ∧
      ∀ line ∈ front, closesFrontMatter line = false := by
  induction lines generalizing front with
  | nil => simp [splitFrontMatter?]
  | cons line lines ih =>
      rw [splitFrontMatter?]
      split
      · -- the line closes the front matter, which is then empty
        next hcloses =>
          constructor
          · intro h
            cases h
            exact ⟨line, rfl, hcloses, by simp⟩
          · rintro ⟨closing, heq, -, hfront⟩
            cases front with
            | nil =>
                cases heq
                rfl
            | cons first front =>
                cases heq
                rw [hfront _ List.mem_cons_self] at hcloses
                cases hcloses
      · next hstays =>
          rw [Option.map_eq_some_iff]
          constructor
          · rintro ⟨⟨inner, behind⟩, hinner, hpair⟩
            cases hpair
            obtain ⟨closing, rfl, hclosing, hfront⟩ := ih.1 hinner
            refine ⟨closing, rfl, hclosing, fun l hl => ?_⟩
            rcases List.mem_cons.1 hl with rfl | hl
            · simpa using hstays
            · exact hfront l hl
          · rintro ⟨closing, heq, hclosing, hfront⟩
            cases front with
            | nil =>
                cases heq
                exact absurd hclosing hstays
            | cons first front =>
                cases heq
                have hinner := ih.2 ⟨closing, rfl, hclosing, fun l hl => hfront l (List.mem_cons_of_mem _ hl)⟩
                exact ⟨_, hinner, rfl⟩

/-- A line gives a title if its key says so and something is left of its value. -/
theorem titleOfLine?_eq_some_iff {title : List Char} :
    titleOfLine? line = some title ↔ ∃ value, TitleLine line value ∧ flatten value = title := by
  rw [titleOfLine?, Option.bind_eq_some_iff]
  constructor
  · rintro ⟨⟨key, behind⟩, hsplit, h⟩
    obtain ⟨heq, hcolon⟩ := splitOnce?_eq_some hsplit
    dsimp only at h
    split at h
    · next hvalue =>
        rw [Bool.and_eq_true, beq_iff_eq] at hvalue
        exact ⟨_, ⟨key, behind, heq, hcolon, hvalue.1, rfl, by simpa using hvalue.2⟩, Option.some.inj h⟩
    · cases h
  · rintro ⟨_, ⟨key, behind, rfl, hcolon, hkey, rfl, hne⟩, rfl⟩
    refine ⟨(key, behind), splitOnce?_append hcolon behind, ?_⟩
    simp [hkey, hne]

theorem titleOfLine?_eq_none_iff : titleOfLine? line = none ↔ ∀ value, ¬TitleLine line value := by
  rw [Option.eq_none_iff_forall_ne_some]
  constructor
  · exact fun h value hvalue => h _ (titleOfLine?_eq_some_iff.2 ⟨value, hvalue, rfl⟩)
  · intro h title htitle
    obtain ⟨value, hvalue, -⟩ := titleOfLine?_eq_some_iff.1 htitle
    exact h value hvalue

/-- A front matter is told by its first line and its end, so it can be taken off in one way. -/
theorem FrontMatter.splitFrontMatter? (h : FrontMatter (line :: lines) front rest) :
    opensFrontMatter line = true ∧ splitFrontMatter? lines = some (front, rest) := by
  obtain ⟨opening, closing, heq, hopens, hcloses, hfront⟩ := h
  cases heq
  exact ⟨hopens, splitFrontMatter?_eq_some_iff.2 ⟨closing, rfl, hcloses, hfront⟩⟩

/-- The last title is the one that none of the later lines overrides. -/
theorem getLast?_titles_eq_some_iff {title : List Char} :
    (front.filterMap titleOfLine?).getLast? = some title ↔
      ∃ before line after, front = before ++ line :: after ∧ titleOfLine? line = some title ∧
        ∀ later ∈ after, titleOfLine? later = none := by
  rw [List.getLast?_filterMap, List.findSome?_eq_some_iff]
  constructor
  · rintro ⟨after, line, before, heq, hline, hafter⟩
    have hfront : front = before.reverse ++ line :: after.reverse := by
      simpa using congrArg List.reverse heq
    exact ⟨before.reverse, line, after.reverse, hfront, hline, fun l hl => hafter l (List.mem_reverse.1 hl)⟩
  · rintro ⟨before, line, after, rfl, hline, hafter⟩
    exact ⟨after.reverse, line, before.reverse, by simp, hline, fun l hl => hafter l (List.mem_reverse.1 hl)⟩

/-- Lines have no more than one front matter. -/
theorem FrontMatter.unique {other behind : List (List Char)} (h : FrontMatter lines front rest)
    (hother : FrontMatter lines other behind) : front = other := by
  cases lines with
  | nil =>
      obtain ⟨_, _, heq, -⟩ := h
      cases heq
  | cons line lines =>
      obtain ⟨-, hsplit⟩ := h.splitFrontMatter?
      obtain ⟨-, hsame⟩ := hother.splitFrontMatter?
      rw [hsplit] at hsame
      cases hsame
      rfl

/-- The last title of a front matter is the one that counts. -/
theorem FrontMatter.title_iff (h : FrontMatter lines front rest) (text : List Char) :
    (front.filterMap titleOfLine?).getLast? = some text ↔
      ∃ value, FrontTitle lines value ∧ flatten value = text := by
  rw [getLast?_titles_eq_some_iff]
  constructor
  · rintro ⟨before, last, after, rfl, hlast, hafter⟩
    obtain ⟨value, hvalue, hflat⟩ := titleOfLine?_eq_some_iff.1 hlast
    exact ⟨value, ⟨before, last, after, rest, h, hvalue, fun later hlater =>
      titleOfLine?_eq_none_iff.1 (hafter later hlater)⟩, hflat⟩
  · rintro ⟨value, ⟨before, last, after, behind, hmatter, hvalue, hafter⟩, hflat⟩
    exact ⟨before, last, after, h.unique hmatter, titleOfLine?_eq_some_iff.2 ⟨value, hvalue, hflat⟩,
      fun later hlater => titleOfLine?_eq_none_iff.2 (hafter later hlater)⟩

/-- The front matter gives the flattened value of its last title, and none if it has no title. -/
theorem title_of_takeFrontMatter (h : takeFrontMatter lines = .ok (title, rest)) (text : List Char) :
    title = some text ↔ ∃ value, FrontTitle lines value ∧ flatten value = text := by
  rw [takeFrontMatter.eq_def] at h
  split at h
  · cases h
    refine iff_of_false (by simp) ?_
    rintro ⟨_, ⟨_, _, _, _, ⟨_, _, heq, -⟩, -⟩, -⟩
    cases heq
  · next line lines =>
      split at h
      · next hopens =>
          cases hsplit : splitFrontMatter? lines with
          | none =>
              rw [hsplit] at h
              cases h
          | some parts =>
              obtain ⟨front, behind⟩ := parts
              rw [hsplit] at h
              cases h
              obtain ⟨closing, rfl, hcloses, hinside⟩ := splitFrontMatter?_eq_some_iff.1 hsplit
              -- the front matter was cut where the first line closes it
              have hmatter : FrontMatter (line :: (front ++ closing :: rest)) front rest :=
                ⟨line, closing, rfl, hopens, hcloses, hinside⟩
              exact hmatter.title_iff text
      · next hother =>
          cases h
          refine iff_of_false (by simp) ?_
          rintro ⟨_, ⟨_, _, _, _, hmatter, -⟩, -⟩
          exact absurd hmatter.splitFrontMatter?.1 hother

/-! ### Titles -/

/-- A title that was there at the start stays, and one that a heading gave is not empty. -/
structure Draft.TitledFrom (title : Option (List Char)) (draft : Draft) : Prop where
  kept : ∀ text, title = some text → draft.title = some text
  nonempty : title = none → ∀ text, draft.title = some text → text ≠ []

/-- No line takes a title away, and none gives an empty one. -/
theorem Draft.Step.titledFrom {draft next : Draft} (h : draft.Step next)
    (htitled : draft.TitledFrom title) : next.TitledFrom title := by
  cases h with
  | skip => exact htitled
  | fence => exact ⟨htitled.kept, htitled.nonempty⟩
  | line spaced => exact ⟨htitled.kept, htitled.nonempty⟩
  | title untitled nonempty spaced =>
      refine ⟨fun text htext => ?_, fun _ text htext => ?_⟩
      · rw [htitled.kept text htext] at untitled
        cases untitled
      · cases htext
        exact nonempty

variable [CharacterTable] {path text : String} {article : Article}

/-- An article has a title that is not empty, if and only if it is not so that its front matter gives a title
of which nothing is left when it is flattened. -/
theorem title_ne_nil_iff (h : parse path text = .ok article) :
    article.title ≠ [] ↔ ∀ value, FrontTitle (linesOf text) value → flatten value ≠ [] := by
  obtain ⟨-, title, rest, draft, hfront, hread, hfinish⟩ := parse_eq_ok_iff.1 h
  -- reading keeps a title that is given and sets only one that is not empty
  have hstart : Draft.TitledFrom title ⟨title, [], false⟩ := by
    refine ⟨fun _ htext => htext, fun hnone text htext => ?_⟩
    rw [hnone] at htext
    cases htext
  have htitled : draft.TitledFrom title :=
    foldlM_invariant (fun _ _ _ hnext => (Draft.step_of_read hnext).titledFrom) hread hstart
  obtain ⟨htitle, -⟩ := Draft.finish_eq_ok_iff.1 hfinish
  have hgiven := title_of_takeFrontMatter hfront
  cases title with
  | none =>
      refine iff_of_true (htitled.nonempty rfl _ htitle) fun value hvalue => ?_
      have hnone := (hgiven (flatten value)).2 ⟨value, hvalue, rfl⟩
      cases hnone
  | some given =>
      obtain rfl : given = article.title := Option.some.inj ((htitled.kept _ rfl).symm.trans htitle)
      constructor
      · intro hne value hvalue
        have hsame := (hgiven (flatten value)).2 ⟨value, hvalue, rfl⟩
        rwa [← Option.some.inj hsame]
      · intro hshown
        obtain ⟨value, hvalue, hflat⟩ := (hgiven _).1 rfl
        rw [← hflat]
        exact hshown value hvalue

end Concordance.Article

namespace Concordance.Unicode

open Text Article

/-- The last title of this front matter is the one before the empty value. -/
theorem title_ne_nil_iff_quoted :
    parse "p/a.md" "---\n TITLE : '*x*'\ntitle: \"\"\n---\n# H" = .ok ⟨['x'], ['H']⟩ ∧
      ∀ value, FrontTitle (linesOf "---\n TITLE : '*x*'\ntitle: \"\"\n---\n# H") value →
        flatten value ≠ [] := by
  have hparse : parse "p/a.md" "---\n TITLE : '*x*'\ntitle: \"\"\n---\n# H" = .ok ⟨['x'], ['H']⟩ := by
    decide +kernel
  exact ⟨hparse, (title_ne_nil_iff hparse).1 (by simp)⟩

/-- A value of nothing but a mark of emphasis is taken for a title. -/
theorem not_always_titled :
    ¬∀ (path text : String) (article : Article), parse path text = .ok article → article.title ≠ [] := by
  intro h
  have hparse : parse "p/a.md" "---\ntitle: *\n---\nbody" = .ok ⟨[], "body".toList⟩ := by
    decide +kernel
  exact h _ _ _ hparse rfl

end Concordance.Unicode
