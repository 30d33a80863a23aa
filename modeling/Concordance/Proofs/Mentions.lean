import Concordance.Proofs.CharacterLaws
import Concordance.Proofs.MatchModes
import Concordance.Proofs.MaximalRuns
import Concordance.Proofs.QueryPlans
import Concordance.Proofs.Terms

/-!
# What a query text mentions

Read from its start, a text mentions terms, quoted terms, phrases and bare `AND`s, each in its place, and
planning the text is taking up its mentions one after the other (`Plan.readPieces_eq`). The mentions of a
text that begins with a closed quotation, or with words and a blank, are those of its beginning and those
of the rest.
-/

namespace Concordance

open Text

/-! ### Mentions -/

/-- What a query text says in one place. -/
inductive Mention where
  /-- A bare `AND`. -/
  | all
  /-- A term outside quotation marks. -/
  | free (term : String)
  /-- The only term between two quotation marks. -/
  | quoted (term : String)
  /-- The terms between two quotation marks, two or more. -/
  | phrase (terms : List String)
deriving DecidableEq, Repr

namespace Mention

def free? : Mention → Option String
  | .free t => some t
  | _ => none

def quoted? : Mention → Option String
  | .quoted t => some t
  | _ => none

def phrase? : Mention → Option (List String)
  | .phrase ts => some ts
  | _ => none

def term? : Mention → Option String
  | .free t => some t
  | .quoted t => some t
  | _ => none

variable [CharacterTable] (config : TokenizerConfig)

/-- What a word outside quotation marks mentions. -/
def ofWord (word : List Char) : List Mention :=
  if word = "AND".toList then [.all]
  else if word = "OR".toList then []
  else (config.terms (String.ofList word)).map .free

/-- What the text between two quotation marks mentions. -/
def ofQuoted (text : List Char) : List Mention :=
  match config.terms (String.ofList text) with
  | [] => []
  | [t] => [.quoted t]
  | ts => [.phrase ts]

def ofPieces (inside : Bool) : List (List Char) → List Mention
  | [] => []
  | piece :: pieces =>
    (if inside then ofQuoted config piece else (words piece).flatMap (ofWord config)) ++
      ofPieces (!inside) pieces

theorem ofPieces_outside (piece : List Char) (pieces : List (List Char)) :
    ofPieces config false (piece :: pieces) =
      (words piece).flatMap (ofWord config) ++ ofPieces config true pieces :=
  rfl

theorem ofPieces_inside (piece : List Char) (pieces : List (List Char)) :
    ofPieces config true (piece :: pieces) = ofQuoted config piece ++ ofPieces config false pieces :=
  rfl

def ofText (text : List Char) : List Mention :=
  ofPieces config false (Text.splitAt '"' text)

end Mention

/-! ### Taking up mentions -/

namespace Plan

def take (plan : Plan) : Mention → Plan
  | .all => { plan with mode := .all }
  | .free t => { plan with terms := addNew plan.terms t }
  | .quoted t => { plan with terms := addNew plan.terms t, quoted := addNew plan.quoted t }
  | .phrase ts => { plan with phrases := addNew plan.phrases (.phrase ts) }

/-- The parts of a plan after some mentions. -/
theorem foldl_take (mentions : List Mention) (plan : Plan) :
    mentions.foldl take plan =
      { mode := if .all ∈ mentions then .all else plan.mode
        terms := (mentions.filterMap Mention.term?).foldl addNew plan.terms
        quoted := (mentions.filterMap Mention.quoted?).foldl addNew plan.quoted
        phrases := ((mentions.filterMap Mention.phrase?).map Clause.phrase).foldl addNew plan.phrases } := by
  induction mentions generalizing plan with
  | nil => rfl
  | cons mention mentions ih =>
    rw [List.foldl_cons, ih]
    cases mention with
    | all => simp [take, Mention.term?, Mention.quoted?, Mention.phrase?, List.filterMap_cons]
    | free t => simp [take, Mention.term?, Mention.quoted?, Mention.phrase?, List.filterMap_cons]
    | quoted t => simp [take, Mention.term?, Mention.quoted?, Mention.phrase?, List.filterMap_cons]
    | phrase ts => simp [take, Mention.term?, Mention.quoted?, Mention.phrase?, List.filterMap_cons]

variable [CharacterTable] (config : TokenizerConfig)

/-- A word is read by taking up what it mentions. -/
theorem readWord_eq (plan : Plan) (word : List Char) :
    plan.readWord config word = (Mention.ofWord config word).foldl take plan := by
  rw [readWord, Mention.ofWord]
  split
  · rfl
  · split
    · rfl
    · generalize config.terms (String.ofList word) = terms
      induction terms generalizing plan with
      | nil => rfl
      | cons t terms ih => exact ih { plan with terms := addNew plan.terms t }

theorem readQuoted_eq (plan : Plan) (text : List Char) :
    plan.readQuoted config text = (Mention.ofQuoted config text).foldl take plan := by
  rw [readQuoted, Mention.ofQuoted]
  cases config.terms (String.ofList text) with
  | nil => rfl
  | cons t ts =>
    cases ts with
    | nil => rfl
    | cons s ts => rfl

/-- A text is read by taking up what it mentions, from its start. -/
theorem readPieces_eq (inside : Bool) (pieces : List (List Char)) (plan : Plan) :
    plan.readPieces config inside pieces = (Mention.ofPieces config inside pieces).foldl take plan := by
  induction pieces generalizing plan inside with
  | nil => rfl
  | cons piece pieces ih =>
    rw [readPieces, ih]
    cases inside with
    | true => rw [if_pos rfl, Mention.ofPieces_inside, List.foldl_append, readQuoted_eq, Bool.not_true]
    | false =>
      have hword : readWord config = fun plan word => (Mention.ofWord config word).foldl take plan :=
        funext₂ (readWord_eq config)
      rw [if_neg Bool.false_ne_true, Mention.ofPieces_outside, List.foldl_append, List.foldl_flatMap, hword,
        Bool.not_false]

end Plan

section Mentioned

variable [CharacterTable] {config : TokenizerConfig} {mentions : List Mention} {t : String}

/-- A balanced text is planned by taking up its mentions. -/
theorem Query.parse_of_balanced (config : TokenizerConfig) {text : String}
    (h : text.toList.count '"' % 2 = 0) (mode : MatchMode) :
    Query.parse config text mode false =
      .ok ((Mention.ofText config text.toList).foldl Plan.take { mode := mode }).query := by
  have hbalanced : ¬text.toList.count '"' % 2 = 1 := by
    rw [h]
    decide
  rw [Query.parse, if_neg Bool.false_ne_true, if_neg hbalanced, Plan.readPieces_eq]
  rfl

namespace Mention

omit [CharacterTable] in
/-- The terms that are mentioned are the free ones and the quoted ones. -/
theorem mem_terms_iff :
    t ∈ mentions.filterMap term? ↔ t ∈ mentions.filterMap free? ∨ t ∈ mentions.filterMap quoted? := by
  simp only [List.mem_filterMap, ← exists_or, ← and_or_left]
  refine exists_congr fun mention => and_congr_right fun _ => ?_
  cases mention with
  | all => simp [term?, free?, quoted?]
  | free t => simp [term?, free?, quoted?]
  | quoted t => simp [term?, free?, quoted?]
  | phrase ts => simp [term?, free?, quoted?]

/-! ### A bare `AND` -/

theorem all_mem_ofWord_iff (word : List Char) : .all ∈ ofWord config word ↔ word = "AND".toList := by
  rw [ofWord]
  split
  · next h => simp [h]
  · next h =>
    split
    · simpa using h
    · simpa using h

theorem all_not_mem_ofQuoted (text : List Char) : .all ∉ ofQuoted config text := by
  rw [ofQuoted]
  cases config.terms (String.ofList text) with
  | nil => simp
  | cons t ts =>
    cases ts with
    | nil => simp
    | cons s ts => simp

/-- All clauses are asked for by a word outside of quotations, and only by that. -/
theorem all_mem_ofPieces_iff (inside : Bool) (pieces : List (List Char)) :
    .all ∈ ofPieces config inside pieces ↔ Plan.asksForAll inside pieces = true := by
  induction pieces generalizing inside with
  | nil => simp [ofPieces, Plan.asksForAll]
  | cons piece pieces ih =>
    rw [Plan.asksForAll, Bool.or_eq_true, ← ih]
    cases inside with
    | true => simp [ofPieces_inside, all_not_mem_ofQuoted]
    | false => simp [ofPieces_outside, all_mem_ofWord_iff]

end Mention

end Mentioned

/-- An `AND` among the words before the first quotation mark is a bare one, unless the text begins inside
quotation marks, which `inside` says. -/
theorem exists_of_contains_and {inside : Bool} {cs : List Char} (hcs : '"' ∉ cs)
    (h : (!inside && (words cs).contains "AND".toList) = true) {rest : List Char}
    (hrest : ∀ c ∈ rest.head?, c = '"') :
    ∃ before behind, cs ++ rest = before ++ "AND".toList ++ behind ∧
      (before.count '"' + inside.toNat) % 2 = 0 ∧
      (∀ c ∈ before.getLast?, isBlank c = true ∨ c = '"') ∧
      ∀ c ∈ behind.head?, isBlank c = true ∨ c = '"' := by
  rw [Bool.and_eq_true, Bool.not_eq_true', List.contains_iff_mem] at h
  obtain ⟨rfl, hand⟩ := h
  obtain ⟨before, behind, rfl, hrun⟩ := exists_of_mem_runsOf hand
  have hcount : before.count '"' = 0 := List.count_eq_zero.2 fun hmem => hcs (by simp [hmem])
  refine ⟨before, behind ++ rest, by simp, by simp [hcount], fun c hc => .inl ?_, fun c hc => ?_⟩
  · simpa using hrun.last_before c hc
  · cases behind with
    | nil => exact .inr (hrest c hc)
    | cons d behind => exact .inl (by simpa using hrun.head_after c hc)

/-- What asks for all clauses is a bare `AND`; `inside` says that the text begins inside quotation marks. -/
theorem exists_of_asksForAll {inside : Bool} {cs : List Char}
    (h : Plan.asksForAll inside (Text.splitAt '"' cs) = true) :
    ∃ before behind, cs = before ++ "AND".toList ++ behind ∧ (before.count '"' + inside.toNat) % 2 = 0 ∧
      (∀ c ∈ before.getLast?, isBlank c = true ∨ c = '"') ∧
      ∀ c ∈ behind.head?, isBlank c = true ∨ c = '"' := by
  -- along the quotation marks
  induction cs using separator_induction (p := fun c => !(c == '"')) generalizing inside with
  | run cs hcs =>
    have hnone : '"' ∉ cs := fun hmem => absurd (hcs _ hmem) (by decide)
    have hone : splitBy (· == '"') cs = [cs] := splitBy_of_none fun c hc => by simpa using hcs c hc
    rw [Text.splitAt, hone, Plan.asksForAll, Plan.asksForAll, Bool.or_false] at h
    have hempty : ∀ c ∈ ([] : List Char).head?, c = '"' := by simp
    simpa using exists_of_contains_and hnone h hempty
  | separator cs s rest hcs hs ih =>
    obtain rfl : s = '"' := by simpa using hs
    have hnone : '"' ∉ cs := fun hmem => absurd (hcs _ hmem) (by decide)
    have hone : splitBy (· == '"') cs = [cs] := splitBy_of_none fun c hc => by simpa using hcs c hc
    rw [Text.splitAt, splitBy_append_cons (q := fun c => c == '"') rfl, hone, List.singleton_append,
      Plan.asksForAll, Bool.or_eq_true] at h
    rcases h with h | h
    · exact exists_of_contains_and hnone h (by simp)
    · obtain ⟨before, behind, rfl, hparity, hlast, hhead⟩ := ih h
      refine ⟨cs ++ '"' :: before, behind, by simp, ?_, fun c hc => ?_, hhead⟩
      · rw [List.count_append, List.count_eq_zero.2 hnone, List.count_cons_self]
        cases inside with
        | true =>
          simp only [Bool.not_true, Bool.toNat_true, Bool.toNat_false] at hparity ⊢
          omega
        | false =>
          simp only [Bool.not_false, Bool.toNat_true, Bool.toNat_false] at hparity ⊢
          omega
      · exact (mem_getLast?_append_cons hc).elim .inr (hlast c)

/-- A bare `AND` in a text is one that is mentioned. -/
theorem Mention.hasBareAnd_iff [CharacterTable] (config : TokenizerConfig) (text : List Char) :
    HasBareAnd text ↔ .all ∈ Mention.ofText config text :=
  Iff.trans ⟨HasBareAnd.asksForAll, exists_of_asksForAll⟩ (all_mem_ofPieces_iff false _).symm

/-! ### Along a text -/

theorem beq_quote_eq_false {cs : List Char} (h : '"' ∉ cs) : ∀ c ∈ cs, (c == '"') = false := by
  intro c hc
  rw [beq_eq_false_iff_ne]
  rintro rfl
  exact h hc

namespace Mention

variable [CharacterTable] (config : TokenizerConfig) {front piece : List Char}

theorem ofText_of_no_quote (h : '"' ∉ front) :
    ofText config front = (words front).flatMap (ofWord config) := by
  rw [ofText, Text.splitAt, splitBy_of_none (beq_quote_eq_false h), ofPieces_outside, ofPieces,
    List.append_nil]

@[simp] theorem ofText_nil : ofText config [] = [] := by
  rw [ofText_of_no_quote config List.not_mem_nil, words, runsOf, List.flatMap_nil]

/-- The words before the first quotation mark come first. -/
theorem ofText_append_blank (h : '"' ∉ front) {s : Char} (hs : isBlank s = true) (rest : List Char) :
    ofText config (front ++ s :: rest) = (words front).flatMap (ofWord config) ++ ofText config rest := by
  have hnone : '"' ∉ front ++ [s] := by
    rw [List.mem_append, List.mem_singleton, not_or]
    refine ⟨h, ?_⟩
    rintro rfl
    exact absurd hs (by decide)
  have hwords (cs : List Char) : words (front ++ s :: cs) = words front ++ words cs :=
    runsOf_append_separator (by simp [hs]) front cs
  obtain ⟨pieces, hpieces⟩ := exists_splitBy_eq (· == '"') rest
  have hsplit := splitBy_append_of_none (beq_quote_eq_false hnone) hpieces
  rw [List.append_assoc, List.append_assoc, List.singleton_append, List.singleton_append] at hsplit
  rw [ofText, ofText, Text.splitAt, Text.splitAt, hsplit, hpieces, ofPieces_outside, ofPieces_outside,
    hwords, List.flatMap_append, List.append_assoc]

theorem ofText_blank {s : Char} (hs : isBlank s = true) (rest : List Char) :
    ofText config (s :: rest) = ofText config rest := by
  have hfront : ofText config ([] ++ s :: rest) = _ :=
    ofText_append_blank config List.not_mem_nil hs rest
  rw [words, runsOf] at hfront
  exact hfront

/-- What is quoted first comes first. -/
theorem ofText_quoted (h : '"' ∉ piece) (rest : List Char) :
    ofText config ('"' :: (piece ++ '"' :: rest)) = ofQuoted config piece ++ ofText config rest := by
  have hclosed : splitBy (· == '"') (piece ++ '"' :: rest) = piece :: splitBy (· == '"') rest := by
    rw [splitBy_append_cons (q := (· == '"')) rfl, splitBy_of_none (beq_quote_eq_false h)]
    rfl
  have hopened : splitBy (· == '"') ('"' :: (piece ++ '"' :: rest)) =
      [] :: piece :: splitBy (· == '"') rest := by
    rw [← hclosed]
    rfl
  have hnone : words [] = [] := by rw [words, runsOf]
  rw [ofText, ofText, Text.splitAt, Text.splitAt, hopened, ofPieces_outside, ofPieces_inside, hnone]
  rfl

/-- A settled word mentions itself. -/
theorem ofWord_of_settled [LawfulCharacters] {config : TokenizerConfig} {word : List Char}
    (h : Settled config word) :
    (Text.words word).flatMap (ofWord config) = [.free (String.ofList word)] := by
  rw [h.words_eq, List.flatMap_singleton, ofWord, if_neg h.ne_operator.1, if_neg h.ne_operator.2,
    h.terms_word, List.map_singleton]

end Mention

/-! ### Word by word -/

/-- A text has the terms of its words. -/
theorem TokenizerConfig.termsIn_eq_flatMap_words [CharacterTable] {config : TokenizerConfig}
    (hblank : ∀ c, isBlank c = true → isWordChar c = false) (cs : List Char) :
    config.termsIn cs = (words cs).flatMap config.termsIn := by
  have hrun {cs : List Char} (h : ∀ c ∈ cs, (!isBlank c) = true) :
      config.termsIn cs = (words cs).flatMap config.termsIn := by
    by_cases hne : cs = []
    · rw [hne, words, runsOf, termsIn_nil, List.flatMap_nil]
    · rw [words, runsOf_of_all hne h, List.flatMap_singleton]
  induction cs using separator_induction (p := fun c => !isBlank c) with
  | run cs h => exact hrun h
  | separator cs s rest h hs ih =>
    have hsplit : words (cs ++ s :: rest) = words cs ++ words rest := runsOf_append_separator hs cs rest
    have hseparator : Text.isRunChar s = false := isRunChar_of_isBlank hblank (by simpa using hs)
    rw [termsIn_append_separator hseparator, hsplit, List.flatMap_append, ← ih, ← hrun h]

theorem TokenizerConfig.terms_eq_flatMap_words [CharacterTable] {config : TokenizerConfig}
    (hblank : ∀ c, isBlank c = true → isWordChar c = false) (cs : List Char) :
    config.terms (String.ofList cs) =
      (words cs).flatMap fun word => config.terms (String.ofList word) := by
  simp only [terms_eq_map_termsIn, String.toList_ofList]
  rw [termsIn_eq_flatMap_words hblank, List.map_flatMap]

end Concordance
