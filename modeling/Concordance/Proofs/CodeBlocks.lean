import Concordance.Proofs.Headings
import Concordance.Proofs.Paragraphs

/-!
# Blocks of code

The lines of a block of code stand in the body as they are, but for their white space. A block that begins
with backticks is also ended by a line of tildes, and begun again by the next mark of either kind: so what
is expected of a block comes true, whatever lines follow it, if and only if no line of it begins with tildes
(`block_kept_iff`).
-/

namespace Concordance.Article

open Text

/-! ### Marks of blocks -/

def backticks : List Char :=
  List.replicate 3 (Char.ofNat 0x60)

def tildes : List Char :=
  ['~', '~', '~']

/-- A start can be taken off exactly a text that begins with it. -/
theorem isSome_stripStart?_iff {start cs : List Char} :
    (stripStart? start cs).isSome = true ↔ start <+: cs := by
  induction start generalizing cs with
  | nil => simp [stripStart?]
  | cons s start ih =>
      cases cs with
      | nil => simp [stripStart?]
      | cons c cs =>
          rw [stripStart?, List.cons_prefix_cons, ← ih]
          split
          · next h => simp [h]
          · next h => simp [h]

theorem isFence_iff {trimmed : List Char} :
    isFence trimmed = true ↔ backticks <+: trimmed ∨ tildes <+: trimmed := by
  rw [isFence, Bool.or_eq_true, isSome_stripStart?_iff, isSome_stripStart?_iff]
  rfl

theorem isFence_nil : isFence [] = false :=
  rfl

/-! ### Lines that add nothing -/

theorem isBlank_of_trim_eq_nil {line : List Char} (h : trim line = []) : ∀ c ∈ line, isBlank c = true := by
  obtain ⟨back, hline, hback⟩ := takeWhile_append_trimBy isBlank line
  rw [← trim, h, List.append_nil] at hline
  intro c hc
  rw [hline] at hc
  rcases List.mem_append.1 hc with hc | hc
  · exact List.mem_takeWhile_imp hc
  · exact hback c hc

/-- White space is no markup. -/
theorem isMarkup_of_isBlank {c : Char} (h : isBlank c = true) : isMarkup c = false := by
  by_contra hmarkup
  have hcases : c.toNat ∈ [0x5B, 0x3C, 0x26, 0x2A, 0x60, 0x7C] := by
    simp only [isMarkup, isEmphasis, Bool.not_eq_false, Bool.or_eq_true, beq_iff_eq] at hmarkup
    rcases hmarkup with (((rfl | rfl) | rfl) | (rfl | h)) | rfl
    · decide
    · decide
    · decide
    · decide
    · rw [h]
      decide
    · decide
  simp only [List.mem_cons, List.not_mem_nil, or_false] at hcases
  simp only [isBlank, Bool.or_eq_true, Bool.and_eq_true, decide_eq_true_eq] at h
  omega

theorem flatten_of_trim_eq_nil {line : List Char} (h : trim line = []) : flatten line = [] := by
  rw [flatten_of_plain fun c hc => isMarkup_of_isBlank (isBlank_of_trim_eq_nil h c hc), h]
  rfl

variable {draft next last : Draft} {line : List Char} {lines : List (List Char)}

/-! ### Counting lines -/

/-- The number of lines of the body that are not empty. -/
def Draft.written (draft : Draft) : Nat :=
  draft.body.countP (!·.isEmpty)

/-- The line has characters other than white space, and is not a mark of a block of code. -/
def adds (line : List Char) : Bool :=
  !(trim line).isEmpty && !isFence (trim line)

theorem adds_of_isFence (h : isFence (trim line) = true) : adds line = false := by
  rw [adds, h, Bool.not_true, Bool.and_false]

theorem Draft.written_push_le (draft : Draft) (line : List Char) :
    (draft.push line).written ≤ draft.written + 1 := by
  rw [written, push, List.countP_cons]
  split
  · exact Nat.le_refl _
  · exact Nat.le_succ _

/-- A heading adds one line to the body at most. -/
theorem Draft.written_readHeading_le {text : List Char} (h : draft.readHeading text = .ok next) :
    next.written ≤ draft.written + 1 := by
  rw [readHeading] at h
  split at h
  · split at h
    · cases h
    · cases h
      exact Nat.le_succ _
  · cases h
    split
    · exact Nat.le_succ _
    · exact draft.written_push_le text

/-- A mark among the lines is a line that is not blank and adds nothing. -/
theorem countP_adds_lt {mark : List Char} (hmark : mark ∈ lines) (hfence : isFence (trim mark) = true) :
    lines.countP adds < lines.countP fun line => !(trim line).isEmpty := by
  obtain ⟨before, behind, rfl⟩ := List.append_of_mem hmark
  have hle (lines : List (List Char)) :
      lines.countP adds ≤ lines.countP fun line => !(trim line).isEmpty :=
    List.countP_mono_left fun line _ hadds => (Bool.and_eq_true_iff.1 hadds).1
  have hne : (trim mark).isEmpty = false := by
    rw [Bool.eq_false_iff, ne_eq, List.isEmpty_iff]
    intro hnil
    rw [hnil, isFence_nil] at hfence
    cases hfence
  have hbefore := hle before
  have hbehind := hle behind
  rw [List.countP_append, List.countP_append, List.countP_cons, List.countP_cons,
    adds_of_isFence hfence, hne]
  simp only [Bool.not_false, if_true, Bool.false_eq_true, if_false]
  omega

/-! ### Blocks behind a title -/

/-- A heading that gives a title, and a block of code behind it that begins and ends with backticks. -/
structure TitledBlock where
  heading : List Char
  text : List Char
  opening : List Char
  content : List (List Char)
  closing : List Char
  heading_eq : heading? heading = some text
  text_ne_nil : flatten text ≠ []
  opens : backticks <+: trim opening
  inside : ∀ line ∈ content, ¬backticks <+: trim line
  closes : backticks <+: trim closing

namespace TitledBlock

variable {block : TitledBlock}

/-- The lines of an article that begins with the block. -/
def linesWith (block : TitledBlock) (further : List (List Char)) : List (List Char) :=
  block.heading :: block.opening :: (block.content ++ block.closing :: further)

/-- The lines of the block, trimmed and with their white space collapsed. -/
def kept (block : TitledBlock) : List (List Char) :=
  block.content.map fun line => collapse (trim line)

theorem isFence_opening (block : TitledBlock) : isFence (trim block.opening) = true :=
  isFence_iff.2 (.inl block.opens)

theorem isFence_closing (block : TitledBlock) : isFence (trim block.closing) = true :=
  isFence_iff.2 (.inl block.closes)

theorem lineFeed_not_mem_kept : ∀ line ∈ block.kept, '\n' ∉ line := by
  intro line hline
  obtain ⟨raw, -, rfl⟩ := List.mem_map.1 hline
  exact (singleSpaced_collapse_trim raw).lineFeed_not_mem

/-- What is kept of a block are its lines with something in them. -/
theorem countP_kept (block : TitledBlock) :
    block.kept.countP (!·.isEmpty) = block.content.countP fun line => !(trim line).isEmpty := by
  rw [kept, List.countP_map]
  refine List.countP_congr fun line _ => ?_
  by_cases hblank : trim line = []
  · simp [hblank, collapse, collapseFrom]
  · simp [hblank, collapse_ne_nil hblank (head_trimBy hblank)]

end TitledBlock

/-! ### Reading blocks -/

variable [CharacterTable]

theorem read_of_isFence (h : isFence (trim line) = true) (draft : Draft) :
    draft.read line = .ok { draft with inCode := !draft.inCode } := by
  simp only [Draft.read, h, if_pos]

/-- Where every line is written to the body, but for its white space, all of them are in the end. -/
theorem foldlM_read_of_written {inCode : Bool} (h : ∀ line ∈ lines, ∀ draft : Draft, draft.inCode = inCode →
      draft.read line = .ok (draft.push (collapse (trim line))))
    (title : Option (List Char)) (body : List (List Char)) :
    lines.foldlM Draft.read ⟨title, body, inCode⟩ =
      .ok ⟨title, (lines.map fun line => collapse (trim line)).reverse ++ body, inCode⟩ := by
  induction lines generalizing body with
  | nil => rfl
  | cons line lines ih =>
      have hread := h line List.mem_cons_self ⟨title, body, inCode⟩ rfl
      rw [List.foldlM_cons, hread, List.map_cons, List.reverse_cons, List.append_assoc]
      exact ih (fun l hl => h l (List.mem_cons_of_mem _ hl)) _

/-- In a block, a line that is no mark is kept, but for its white space. -/
theorem read_of_inCode (h : isFence (trim line) = false) (hdraft : draft.inCode = true) :
    draft.read line = .ok (draft.push (collapse (trim line))) := by
  simp only [Draft.read, h, hdraft]
  rfl

theorem dropMarkers_eq_self (h : afterMarker? line = none) : dropMarkers line = line := by
  rw [dropMarkers]
  split
  · next rest hrest =>
      rw [h] at hrest
      cases hrest
  · rfl

theorem dropMarkers_of_trim_eq_nil (h : trim line = []) : dropMarkers line = line := by
  apply dropMarkers_eq_self
  rw [afterMarker?, List.dropWhile_eq_nil_iff.2 (isBlank_of_trim_eq_nil h)]

/-- A blank line adds an empty line to the body, in a block of code and outside. -/
theorem read_of_trim_eq_nil (h : trim line = []) (draft : Draft) :
    draft.read line = .ok (draft.push []) := by
  have hheading : heading? line = none := by
    cases hline : heading? line with
    | none => rfl
    | some text =>
        obtain ⟨behind, hbehind⟩ := exists_trim_of_heading? hline
        rw [h] at hbehind
        cases hbehind
  have hflat : flatten (dropMarkers line) = [] := by
    rw [dropMarkers_of_trim_eq_nil h, flatten_of_trim_eq_nil h]
  simp only [Draft.read, h, hheading, hflat]
  cases draft.inCode with
  | true => rfl
  | false => rfl

/-- A line adds one line to the body at most, and none if it is blank or a mark of a block of code. -/
theorem Draft.written_read_le (h : draft.read line = .ok next) :
    next.written ≤ draft.written + if adds line then 1 else 0 := by
  by_cases hfence : isFence (trim line) = true
  · rw [read_of_isFence hfence] at h
    cases h
    exact Nat.le_add_right _ _
  · by_cases hblank : trim line = []
    · rw [read_of_trim_eq_nil hblank] at h
      cases h
      exact Nat.le_add_right _ _
    · have hadds : adds line = true := by simp [adds, hblank, hfence]
      rw [if_pos hadds]
      simp only [read, if_neg hfence] at h
      split at h
      · cases h
        exact draft.written_push_le _
      · split at h
        · exact written_readHeading_le h
        · cases h
          split
          · exact Nat.le_succ _
          · exact draft.written_push_le _

/-- No more lines are written than there are lines that add one. -/
theorem written_le_of_foldlM_read (h : lines.foldlM Draft.read draft = .ok last) :
    last.written ≤ draft.written + lines.countP adds := by
  induction lines generalizing draft with
  | nil =>
      cases h
      exact Nat.le_refl _
  | cons line lines ih =>
      rw [List.foldlM_cons] at h
      obtain ⟨next, hnext, hrest⟩ := bind_eq_ok.1 h
      have hstep := Draft.written_read_le hnext
      have hrun := ih hrest
      rw [List.countP_cons]
      omega

/-! ### What is expected of a block -/

namespace TitledBlock

variable {source : String} {further : List (List Char)} {block : TitledBlock}

/-- Whatever lines follow it, every article that begins with the block has its heading for the title, the
lines of the block in its body, and behind them what the other lines give when they are read behind the
title alone, as they are in an article without the block. -/
def Kept (block : TitledBlock) : Prop :=
  ∀ (path source : String) (further : List (List Char)), IsText source →
    linesOf source = block.linesWith further →
    ∃ body draft, parse path source = .ok ⟨flatten block.text, body⟩ ∧
      further.foldlM Draft.read ⟨some (flatten block.text), [], false⟩ = .ok draft ∧
      body = joinParagraphs false false (block.kept ++ draft.body.reverse) ∧
      block.kept.filter (!·.isEmpty) <+: writtenLines body ∧
      ∀ without, IsText without → linesOf without = block.heading :: further →
        parse path without = .ok ⟨flatten block.text, joinParagraphs false false draft.body.reverse⟩

/-- The lines of a body that is read behind a heading hold no line feeds. -/
theorem lineFeed_not_mem_of_foldlM_read {text : List Char}
    (h : further.foldlM Draft.read ⟨some (flatten text), [], false⟩ = .ok last) :
    ∀ line ∈ last.body.reverse, '\n' ∉ line := by
  have htitle : ∀ t ∈ some (flatten text), SingleSpaced t := by
    rintro t ⟨⟩
    exact singleSpaced_flatten text
  have hspaced : last.Spaced :=
    foldlM_invariant (fun _ _ _ hnext => (Draft.step_of_read hnext).spaced) h ⟨htitle, by simp⟩
  exact fun line hline => (hspaced.body line (List.mem_reverse.1 hline)).lineFeed_not_mem

/-- Without tildes in it the block ends at its closing. -/
theorem foldlM_read_lines (h : ∀ line ∈ block.content, ¬tildes <+: trim line)
    (title : List Char) (further : List (List Char)) :
    (block.opening :: (block.content ++ block.closing :: further)).foldlM Draft.read
        ⟨some title, [], false⟩ =
      (further.foldlM Draft.read ⟨some title, [], false⟩).map (·.above block.kept.reverse) := by
  have hinside : ∀ line ∈ block.content, isFence (trim line) = false := by
    intro line hline
    rw [Bool.eq_false_iff, ne_eq, isFence_iff, not_or]
    exact ⟨block.inside line hline, h line hline⟩
  rw [List.foldlM_cons, read_of_isFence block.isFence_opening, ok_bind, List.foldlM_append,
    Bool.not_false, foldlM_read_of_written fun line hline _ => read_of_inCode (hinside line hline),
    ok_bind, List.foldlM_cons,
    read_of_isFence block.isFence_closing, ok_bind, ← foldlM_read_above]
  rw [List.append_nil]
  rfl

/-- A block without a line that begins with tildes is kept, whatever follows it. -/
theorem kept_of_no_tildes (h : ∀ line ∈ block.content, ¬tildes <+: trim line) : block.Kept := by
  intro path source further hsource hlines
  have htitle : Draft.title ⟨some (flatten block.text), [], false⟩ = some (flatten block.text) := rfl
  -- behind a title every line can be read
  obtain ⟨draft, hdraft, -⟩ := exists_foldlM_read htitle further
  have hread := foldlM_read_lines h (flatten block.text) further
  rw [hdraft] at hread
  have hparse := parse_of_heading? hsource hlines block.heading_eq block.text_ne_nil hread path
  rw [Draft.body_above, List.reverse_append, List.reverse_reverse] at hparse
  refine ⟨_, draft, hparse, hdraft, rfl, ?_, fun without hwithout hrest =>
    parse_of_heading? hwithout hrest block.heading_eq block.text_ne_nil hdraft path⟩
  rw [writtenLines_joinParagraphs, List.filter_append]
  · exact List.prefix_append _ _
  · intro line hline
    rcases List.mem_append.1 hline with hline | hline
    · exact lineFeed_not_mem_kept line hline
    · exact lineFeed_not_mem_of_foldlM_read hdraft line hline

/-- A line of tildes is itself lost, and every other line adds one line at most, so a line is missing. -/
theorem written_lt_of_tildes (hline : line ∈ block.content) (htildes : tildes <+: trim line)
    (h : (block.opening :: (block.content ++ [block.closing])).foldlM Draft.read
      ⟨some (flatten block.text), [], false⟩ = .ok last) :
    last.written < block.kept.countP (!·.isEmpty) := by
  have hbound := written_le_of_foldlM_read h
  have hlost := countP_adds_lt hline (isFence_iff.2 (.inr htildes))
  have hopening : adds block.opening = false := adds_of_isFence block.isFence_opening
  have hclosing : adds block.closing = false := adds_of_isFence block.isFence_closing
  have hnothing : Draft.written ⟨some (flatten block.text), [], false⟩ = 0 := rfl
  rw [List.countP_cons, List.countP_append, List.countP_singleton, hopening, hclosing, hnothing] at hbound
  simp only [Bool.false_eq_true, if_false] at hbound
  rw [countP_kept]
  omega

/-- A line of tildes is lost, so a block with one has fewer lines in the body than it is expected to have. -/
theorem no_tildes_of_kept (hsource : IsText source) (hlines : linesOf source = block.linesWith [])
    (h : block.Kept) : ∀ line ∈ block.content, ¬tildes <+: trim line := by
  intro line hline htildes
  -- the body that is expected, with nothing behind the block
  obtain ⟨body, draft, hexpected, hdraft, hbody, -⟩ := h "" source [] hsource hlines
  cases hdraft
  rw [List.reverse_nil, List.append_nil] at hbody
  -- the body that is read
  have htitle : Draft.title ⟨some (flatten block.text), [], false⟩ = some (flatten block.text) := rfl
  obtain ⟨last, hlast, -⟩ :=
    exists_foldlM_read htitle (block.opening :: (block.content ++ [block.closing]))
  have hread := parse_of_heading? hsource hlines block.heading_eq block.text_ne_nil hlast ""
  rw [hexpected, hbody] at hread
  have hsame : joinParagraphs false false block.kept = joinParagraphs false false last.body.reverse :=
    congrArg Article.body (Except.ok.inj hread)
  have hcount := countP_eq_of_joinParagraphs_eq lineFeed_not_mem_kept
    (lineFeed_not_mem_of_foldlM_read hlast) hsame
  rw [List.countP_reverse] at hcount
  exact absurd hcount (Nat.ne_of_gt (written_lt_of_tildes hline htildes hlast))

/-- A block is kept in every article that begins with it, if and only if no line of it begins with tildes. -/
theorem block_kept_iff (block : TitledBlock) (hsource : IsText source)
    (hlines : linesOf source = block.linesWith []) :
    block.Kept ↔ ∀ line ∈ block.content, ¬tildes <+: trim line :=
  ⟨no_tildes_of_kept hsource hlines, kept_of_no_tildes⟩

end TitledBlock

end Concordance.Article

namespace Concordance.Unicode

open Text Article

/-- A block with a comment that looks like a heading, a rule, and tildes behind a mark of quotation. -/
def listing : TitledBlock where
  heading := "# T".toList
  text := ['T']
  opening := Char.ofNat 0x20 :: backticks ++ "py".toList
  content := ["  x \t= 1".toList, "# x".toList, [], "---".toList, "> ~~~".toList]
  closing := backticks
  heading_eq := by decide
  text_ne_nil := by decide +kernel
  opens := by decide
  inside := by decide
  closes := by decide

/-- A block without tildes, in an article of its own. -/
theorem block_kept_iff_listing :
    IsText (String.ofList (joinWith ['\n'] (listing.linesWith []))) ∧
      linesOf (String.ofList (joinWith ['\n'] (listing.linesWith []))) = listing.linesWith [] ∧
      listing.Kept := by
  have hsource : IsText (String.ofList (joinWith ['\n'] (listing.linesWith []))) := by decide +kernel
  have hlines : linesOf (String.ofList (joinWith ['\n'] (listing.linesWith []))) =
      listing.linesWith [] := by
    decide +kernel
  exact ⟨hsource, hlines, (TitledBlock.block_kept_iff listing hsource hlines).2 (by decide +kernel)⟩

/-- A block with a line of tildes before a comment. -/
def tildeListing : TitledBlock where
  heading := "# T".toList
  text := ['T']
  opening := backticks
  content := [tildes, "# x".toList]
  closing := backticks
  heading_eq := by decide
  text_ne_nil := by decide +kernel
  opens := by decide
  inside := by decide
  closes := by decide

/-- The line of tildes ends the block: it is lost itself, the comment behind it is read as a heading, and
what follows the closing is read as code. -/
theorem not_every_block_kept : (¬∀ block : TitledBlock, block.Kept) ∧
    parse "p/a.md" (String.ofList (joinWith ['\n'] (tildeListing.linesWith ["# after".toList]))) =
      .ok ⟨['T'], "x\n# after".toList⟩ := by
  constructor
  · intro h
    have hsource : IsText (String.ofList (joinWith ['\n'] (tildeListing.linesWith []))) := by
      decide +kernel
    have hlines : linesOf (String.ofList (joinWith ['\n'] (tildeListing.linesWith []))) =
        tildeListing.linesWith [] := by
      decide +kernel
    exact TitledBlock.no_tildes_of_kept hsource hlines (h tildeListing) tildes List.mem_cons_self
      (by decide)
  · decide +kernel

end Concordance.Unicode
