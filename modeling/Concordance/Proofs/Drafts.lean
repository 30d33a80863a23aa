import Concordance.Article
import Concordance.Proofs.Outcomes
import Concordance.Proofs.SingleSpacing

/-!
# How an article is read

An article is read line by line into a draft. A line is passed over, or it begins or ends a block of code,
or it adds a single-spaced line to the body, or it gives the title if there is none (`Draft.Step`). Lines
that stand in the body already make no difference to how the next line is read (`Draft.read_above`), and
with a title no line is refused (`exists_foldlM_read`).
-/

namespace Concordance.Article

open Text

def linesOf (text : String) : List (List Char) :=
  lines (joinCarriageReturns ((stripStart? [Char.ofNat 0xFEFF] text.toList).getD text.toList))

/-- The text is not binary content, which is told by a character NUL. -/
def IsText (text : String) : Prop :=
  '\x00' ∉ text.toList

instance (text : String) : Decidable (IsText text) :=
  inferInstanceAs (Decidable (_ ∉ _))

/-! ### Lines -/

theorem joinCarriageReturns_eq_self {cs : List Char} (h : ¬['\r', '\n'] <:+: cs) :
    joinCarriageReturns cs = cs := by
  fun_induction joinCarriageReturns cs with
  | case1 => rfl
  | case2 rest ih => exact absurd ⟨[], rest, rfl⟩ h
  | case3 c rest _ ih => rw [ih fun hpair => h (hpair.trans (List.suffix_cons c rest).isInfix)]

/-- A text without line feeds is a line. -/
theorem linesOf_ofList {cs : List Char} (hne : cs ≠ []) (h : '\n' ∉ cs)
    (hmark : cs.head? ≠ some (Char.ofNat 0xFEFF)) : linesOf (String.ofList cs) = [cs] := by
  have hstays : stripStart? [Char.ofNat 0xFEFF] cs = none := by
    obtain ⟨c, rest, rfl⟩ := List.exists_cons_of_ne_nil hne
    rw [stripStart?, if_neg fun hc => hmark (by rw [hc]; rfl)]
  have hpair : ¬['\r', '\n'] <:+: cs := fun hpair => h (hpair.subset (by simp))
  rw [linesOf, String.toList_ofList, hstays, Option.getD_none, joinCarriageReturns_eq_self hpair, lines,
    linesFrom_of_not_mem hne h]
  rfl

/-! ### Drafts -/

/-- The article of a draft whose lines have all been read. -/
def Draft.finish (draft : Draft) : Except Flaw Article :=
  match draft.title with
  | none => .error .noTitleHeading
  | some title => .ok ⟨title, joinParagraphs false false draft.body.reverse⟩

/-- A draft is finished once it has a title. -/
theorem Draft.finish_eq_ok_iff {draft : Draft} {article : Article} : draft.finish = .ok article ↔
    draft.title = some article.title ∧
      article.body = joinParagraphs false false draft.body.reverse := by
  obtain ⟨title, body⟩ := article
  rw [finish]
  cases draft.title with
  | none => simp
  | some t => simp [eq_comm]

variable {draft next : Draft}

theorem singleSpaced_flatten (line : List Char) : SingleSpaced (flatten line) :=
  singleSpaced_collapse_trim _

/-- What a line can do to a draft. -/
inductive Draft.Step (draft : Draft) : Draft → Prop
  | skip : draft.Step draft
  | fence : draft.Step { draft with inCode := !draft.inCode }
  | line {line : List Char} (spaced : SingleSpaced line) : draft.Step (draft.push line)
  | title {text : List Char} (untitled : draft.title = none) (nonempty : text ≠ [])
      (spaced : SingleSpaced text) : draft.Step { draft with title := some text }

/-- A heading does one of the things that a line can do: it gives the title, or a line of the body, or
nothing. -/
theorem Draft.step_of_readHeading {text : List Char} (hspaced : SingleSpaced text)
    (h : draft.readHeading text = .ok next) : draft.Step next := by
  rw [readHeading] at h
  split at h
  · next hnone =>
      split at h
      · cases h
      · next hne =>
          cases h
          exact .title hnone (by simpa using hne) hspaced
  · cases h
    split
    · exact .skip
    · exact .line hspaced

def Draft.above (draft : Draft) (earlier : List (List Char)) : Draft :=
  { draft with body := draft.body ++ earlier }

@[simp] theorem Draft.body_above (draft : Draft) (earlier : List (List Char)) :
    (draft.above earlier).body = draft.body ++ earlier :=
  rfl

@[simp] theorem Draft.title_above (draft : Draft) (earlier : List (List Char)) :
    (draft.above earlier).title = draft.title :=
  rfl

/-- A heading is read alike whatever lines came before. -/
theorem Draft.readHeading_above (draft : Draft) (earlier : List (List Char)) (text : List Char) :
    (draft.above earlier).readHeading text = (draft.readHeading text).map (·.above earlier) := by
  simp only [readHeading, title_above]
  cases draft.title with
  | none =>
      dsimp only
      split
      · rfl
      · rfl
  | some title =>
      dsimp only
      split
      · rfl
      · rfl

variable [CharacterTable] {path text : String} {article : Article} {line : List Char}

/-! ### The text -/

/-- Text without NUL is read line by line behind its front matter. -/
theorem ofChars_of_isText (h : IsText text) : ofChars text.toList =
    takeFrontMatter (linesOf text) >>= fun front =>
      front.2.foldlM Draft.read ⟨front.1, [], false⟩ >>= Draft.finish := by
  have hnone : (text.toList.any fun c => c.toNat == 0) = false := by
    rw [List.any_eq_false]
    intro c hc hzero
    have hnul : c = '\x00' := Char.toNat_inj.1 (by simpa using hzero)
    exact h (hnul ▸ hc)
  rw [ofChars, hnone]
  rfl

theorem ofChars_of_not_isText (h : ¬IsText text) : ofChars text.toList = .error .binaryContent := by
  have hany : (text.toList.any fun c => c.toNat == 0) = true :=
    List.any_eq_true.2 ⟨'\x00', not_not.1 h, rfl⟩
  rw [ofChars, hany]
  rfl

theorem parse_eq_ok_iff_ofChars : parse path text = .ok article ↔ ofChars text.toList = .ok article := by
  rw [parse]
  cases ofChars text.toList with
  | error flaw => simp
  | ok a => simp

/-- An article is read from text: behind the front matter, line by line. -/
theorem parse_eq_ok_iff : parse path text = .ok article ↔
    IsText text ∧ ∃ title rest draft, takeFrontMatter (linesOf text) = .ok (title, rest) ∧
      rest.foldlM Draft.read ⟨title, [], false⟩ = .ok draft ∧ draft.finish = .ok article := by
  rw [parse_eq_ok_iff_ofChars]
  by_cases h : IsText text
  · rw [ofChars_of_isText h, bind_eq_ok]
    simp only [bind_eq_ok, h, true_and]
    constructor
    · rintro ⟨⟨title, rest⟩, hfront, draft, hdraft, hfinish⟩
      exact ⟨title, rest, draft, hfront, hdraft, hfinish⟩
    · rintro ⟨title, rest, draft, hfront, hdraft, hfinish⟩
      exact ⟨(title, rest), hfront, draft, hdraft, hfinish⟩
  · rw [ofChars_of_not_isText h]
    simp [h]

/-! ### One line -/

/-- Every line does one of few things to a draft. -/
theorem Draft.step_of_read (h : draft.read line = .ok next) : draft.Step next := by
  simp only [read] at h
  split at h
  · cases h
    exact .fence
  · split at h
    · cases h
      exact .line (singleSpaced_collapse_trim line)
    · split at h
      · exact step_of_readHeading (singleSpaced_flatten _) h
      · cases h
        split
        · exact .skip
        · exact .line (singleSpaced_flatten _)

/-! ### Lines that were read before -/

/-- A line is read alike whatever lines came before. -/
theorem Draft.read_above (draft : Draft) (earlier : List (List Char)) (line : List Char) :
    (draft.above earlier).read line = (draft.read line).map (·.above earlier) := by
  have hcode : (draft.above earlier).inCode = draft.inCode := rfl
  simp only [read, hcode]
  split
  · rfl
  · split
    · rfl
    · cases heading? line with
      | some text => exact readHeading_above draft earlier (flatten text)
      | none =>
          dsimp only
          split
          · rfl
          · rfl

/-- Lines are read alike whatever lines came before, and what they give stands behind these. -/
theorem foldlM_read_above (draft : Draft) (earlier : List (List Char)) (lines : List (List Char)) :
    lines.foldlM Draft.read (draft.above earlier) =
      (lines.foldlM Draft.read draft).map (·.above earlier) := by
  induction lines generalizing draft with
  | nil => rfl
  | cons line lines ih =>
      rw [List.foldlM_cons, List.foldlM_cons, Draft.read_above]
      cases draft.read line with
      | error flaw => rfl
      | ok next => exact ih next

/-! ### Drafts with a title -/

/-- Once there is a title, every line can be read, and the title stays. -/
theorem Draft.exists_read {title : List Char} (h : draft.title = some title) (line : List Char) :
    ∃ next, draft.read line = .ok next ∧ next.title = some title := by
  simp only [read]
  split
  · exact ⟨_, rfl, h⟩
  · split
    · exact ⟨_, rfl, h⟩
    · cases heading? line with
      | some text =>
          simp only [readHeading, h]
          split
          · exact ⟨_, rfl, h⟩
          · exact ⟨_, rfl, h⟩
      | none =>
          dsimp only
          split
          · exact ⟨_, rfl, h⟩
          · exact ⟨_, rfl, h⟩

/-- Once there is a title, all lines are read and the title stays. -/
theorem exists_foldlM_read {title : List Char} (h : draft.title = some title)
    (lines : List (List Char)) :
    ∃ last, lines.foldlM Draft.read draft = .ok last ∧ last.title = some title := by
  induction lines generalizing draft with
  | nil => exact ⟨draft, rfl, h⟩
  | cons line lines ih =>
      obtain ⟨next, hnext, htitle⟩ := draft.exists_read h line
      obtain ⟨last, hlast, hkept⟩ := ih htitle
      exact ⟨last, by rw [List.foldlM_cons, hnext]; exact hlast, hkept⟩

end Concordance.Article
