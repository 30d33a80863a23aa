import Concordance.Proofs.Mentions
import Concordance.Proofs.UnicodeLaws
import Concordance.Snapshot

/-!
# The case of ASCII letters does not matter

A text has the same spans as the text with its letters of ASCII in lower case, since both forms of a letter
are word characters with case that decompose to themselves and have one lower case. So two texts that differ
in the case of such letters are tokenized alike, and planned alike if no word of them is an operator in some
case.
-/

namespace Concordance

open Text

/-! ### Letters of ASCII -/

theorem Text.asciiLower_cons (c : Char) (cs : List Char) :
    asciiLower (c :: cs) = c.toLower :: asciiLower cs :=
  rfl

@[simp] theorem Text.asciiLower_asciiLower (cs : List Char) :
    asciiLower (asciiLower cs) = asciiLower cs := by
  rw [asciiLower, asciiLower, List.map_map]
  exact List.map_congr_left fun c _ => c.toLower_toLower_eq_toLower

class Text.LawfulLetters [CharacterTable] : Prop where
  isAlphabetic_of_isAlpha {c : Char} : c.isAlpha = true → isAlphabetic c = true
  isMark_of_isAlpha {c : Char} : c.isAlpha = true → isMark c = false
  isCased_of_isAlpha {c : Char} : c.isAlpha = true → CharacterTable.isCased c = true
  isCaseIgnorable_of_isAlpha {c : Char} : c.isAlpha = true → CharacterTable.isCaseIgnorable c = false
  toLower_of_isAlpha {c : Char} : c.isAlpha = true → CharacterTable.toLower c = [c.toLower]
  decompose_of_isAlpha {c : Char} : c.isAlpha = true → CharacterTable.decompose c = [c]
  combiningClass_of_isAlpha {c : Char} : c.isAlpha = true → CharacterTable.combiningClass c = 0

theorem Text.utf8Size_toLower (c : Char) : c.toLower.utf8Size = c.utf8Size := by
  refine apply_toLower (b := 1) (fun c hc => ?_) c
  rw [isAlpha_iff] at hc
  rw [Char.utf8Size_eq_one_iff, UInt32.le_iff_toNat_le]
  show c.toNat ≤ 127
  omega

theorem Text.isJoiner_toLower (c : Char) : isJoiner c.toLower = isJoiner c := by
  refine apply_toLower (b := false) (fun c hc => ?_) c
  rw [isJoiner, Bool.or_eq_false_iff, beq_eq_false_iff_ne, beq_eq_false_iff_ne]
  constructor
  · rintro rfl
    exact absurd hc (by decide)
  · rintro rfl
    exact absurd hc (by decide)

/-- A character that is no letter of ASCII stays the only one that becomes it. -/
theorem Text.beq_toLower {d : Char} (hd : d.isAlpha = false) (c : Char) : (c.toLower == d) = (c == d) := by
  rw [Bool.eq_iff_iff, beq_iff_eq, beq_iff_eq]
  exact toLower_eq_iff hd

theorem Place.after_asciiLower (place : Place) (cs : List Char) :
    place.after (asciiLower cs) = place.after cs := by
  rw [after, after, asciiLower, List.map_map, List.length_map]
  congr 3
  exact List.map_congr_left fun c _ => utf8Size_toLower c

section Lower

variable [CharacterTable] [LawfulLetters]

open LawfulLetters

theorem Text.isRunChar_of_isAlpha {c : Char} (hc : c.isAlpha = true) : isRunChar c = true := by
  rw [isRunChar, isWordChar, isAlphabetic_of_isAlpha hc, Bool.true_or, Bool.true_or, Bool.true_or]

theorem Text.isRunChar_toLower (c : Char) : isRunChar c.toLower = isRunChar c :=
  apply_toLower (fun _ => isRunChar_of_isAlpha) c

/-! ### Lower case and folding -/

/-- Whether a cased letter comes next does not depend on the case of ASCII letters. -/
theorem meetsCased_asciiLower (cs : List Char) : meetsCased (asciiLower cs) = meetsCased cs := by
  have hignorable : CharacterTable.isCaseIgnorable ∘ Char.toLower = CharacterTable.isCaseIgnorable :=
    funext (apply_toLower fun c => isCaseIgnorable_of_isAlpha)
  rw [meetsCased, meetsCased, asciiLower, List.dropWhile_map, hignorable]
  cases cs.dropWhile CharacterTable.isCaseIgnorable with
  | nil => rfl
  | cons c rest => exact apply_toLower (fun c => isCased_of_isAlpha) c

/-- Lower case makes the same of a text whose letters of ASCII are in lower case already. -/
theorem lowerAfter_asciiLower (before cs : List Char) :
    lowerAfter (asciiLower before) (asciiLower cs) = lowerAfter before cs := by
  induction cs generalizing before with
  | nil => rfl
  | cons c rest ih =>
      -- the one character whose lower case depends on others is no letter of ASCII
      have hsigma : c.toLower = 'Σ' ↔ c = 'Σ' := toLower_eq_iff (by decide)
      have hlower : CharacterTable.toLower c.toLower = CharacterTable.toLower c := by
        refine congr_toLower (fun c hc => ?_) c
        rw [toLower_of_isAlpha hc, toLower_of_isAlpha (by rwa [Char.isAlpha_toLower_eq_isAlpha]),
          Char.toLower_toLower_eq_toLower]
      have hrest : lowerAfter (c.toLower :: asciiLower before) (asciiLower rest) =
          lowerAfter (c :: before) rest := ih (c :: before)
      rw [asciiLower_cons, lowerAfter, lowerAfter, hrest, hlower]
      simp only [hsigma, lowerSigma, meetsCased_asciiLower]

theorem lower_asciiLower (cs : List Char) : lower (asciiLower cs) = lower cs :=
  lowerAfter_asciiLower [] cs

/-- Letters of ASCII have no combining class, so marks are placed alike among capital and small ones. -/
theorem placeMark_asciiLower (c : Char) (before : List Char) :
    placeMark c.toLower (asciiLower before) = asciiLower (placeMark c before) := by
  have hclass : ∀ c : Char, CharacterTable.combiningClass c.toLower = CharacterTable.combiningClass c :=
    apply_toLower fun c => combiningClass_of_isAlpha
  induction before with
  | nil => rfl
  | cons d before ih =>
      rw [asciiLower_cons, placeMark, placeMark, hclass, hclass, ih]
      split
      · rfl
      · rfl

/-- Marks are no ASCII letters, so they are put in order alike. -/
theorem orderMarks_asciiLower (cs : List Char) : orderMarks (asciiLower cs) = asciiLower (orderMarks cs) := by
  have hfold (before : List Char) :
      (asciiLower cs).foldl (fun before c => placeMark c before) (asciiLower before) =
        asciiLower (cs.foldl (fun before c => placeMark c before) before) := by
    induction cs generalizing before with
    | nil => rfl
    | cons c rest ih =>
        rw [asciiLower_cons, List.foldl_cons, List.foldl_cons, placeMark_asciiLower, ih]
  have hnone : (asciiLower cs).foldl (fun before c => placeMark c before) [] =
      asciiLower (cs.foldl (fun before c => placeMark c before) []) := hfold []
  rw [orderMarks, hnone, orderMarks, asciiLower, asciiLower, List.map_reverse]

/-- A decomposition may have capital letters of its own, so only its lower case is the same. -/
theorem asciiLower_withoutMarks_asciiLower (cs : List Char) :
    asciiLower (withoutMarks (asciiLower cs)) = asciiLower (withoutMarks cs) := by
  have hmark : (fun c => !isMark c) ∘ Char.toLower = fun c => !isMark c :=
    funext fun c => congrArg Bool.not (apply_toLower (fun c => isMark_of_isAlpha) c)
  have hmove (cs : List Char) : asciiLower (withoutMarks cs) =
      (orderMarks (asciiLower (cs.flatMap CharacterTable.decompose))).filter fun c => !isMark c := by
    rw [orderMarks_asciiLower, asciiLower, asciiLower, List.filter_map, hmark, withoutMarks, decomposed]
  have hdecompose (c : Char) :
      asciiLower (CharacterTable.decompose c.toLower) = asciiLower (CharacterTable.decompose c) := by
    refine congr_toLower (f := fun c => asciiLower (CharacterTable.decompose c)) (fun c hc => ?_) c
    rw [decompose_of_isAlpha hc, decompose_of_isAlpha (by rwa [Char.isAlpha_toLower_eq_isAlpha]), asciiLower, asciiLower,
      List.map_singleton, List.map_singleton, Char.toLower_toLower_eq_toLower]
  have hflat : asciiLower ((asciiLower cs).flatMap CharacterTable.decompose) =
      asciiLower (cs.flatMap CharacterTable.decompose) := by
    rw [asciiLower, asciiLower, asciiLower, List.flatMap_map, List.map_flatMap, List.map_flatMap]
    exact List.flatMap_congr fun c _ => hdecompose c
  rw [hmove, hmove, hflat]

/-! ### Spans -/

def Run.lowered (run : Run) : Run :=
  ⟨run.start, asciiLower run.chars⟩

omit [CharacterTable] [LawfulLetters] in
theorem Run.stop_lowered (run : Run) : run.lowered.stop = run.stop :=
  Place.after_asciiLower run.start run.chars

omit [CharacterTable] [LawfulLetters] in
theorem Run.trimmed_lowered (run : Run) : run.lowered.trimmed = run.trimmed.lowered := by
  have hjoiner : isJoiner ∘ Char.toLower = isJoiner := funext isJoiner_toLower
  have hstart : (asciiLower run.chars).takeWhile isJoiner = asciiLower (run.chars.takeWhile isJoiner) := by
    rw [asciiLower, List.takeWhile_map, hjoiner]
    rfl
  rw [trimmed, lowered, hstart, Place.after_asciiLower, asciiLower, trimBy_map isJoiner_toLower]
  rfl

/-- Runs begin and end at the same places, as case does not tell a run character from another one. -/
theorem runsFrom_asciiLower (place : Place) (cs : List Char) :
    runsFrom place (asciiLower cs) = (runsFrom place cs).map Run.lowered := by
  have hrun : isRunChar ∘ Char.toLower = isRunChar := funext isRunChar_toLower
  fun_induction runsFrom place cs with
  | case1 place => rw [asciiLower, List.map_nil, runsFrom, List.map_nil]
  | case2 place c rest hc chars ih =>
      have hchars : c.toLower :: asciiLower (rest.takeWhile isRunChar) = asciiLower chars := rfl
      have htake : (asciiLower rest).takeWhile isRunChar = asciiLower (rest.takeWhile isRunChar) := by
        rw [asciiLower, List.takeWhile_map, hrun, asciiLower]
      have hdrop : (asciiLower rest).dropWhile isRunChar = asciiLower (rest.dropWhile isRunChar) := by
        rw [asciiLower, List.dropWhile_map, hrun, asciiLower]
      rw [asciiLower_cons, runsFrom, if_pos (by rwa [isRunChar_toLower]), htake, hdrop]
      simp only [hchars]
      rw [Place.after_asciiLower, ih, List.map_cons]
      rfl
  | case3 place c rest hc ih =>
      have hplace : place.after [c.toLower] = place.after [c] := place.after_asciiLower [c]
      rw [asciiLower_cons, runsFrom, if_neg (by rwa [isRunChar_toLower]), hplace, ih]

namespace TokenizerConfig

variable {config : TokenizerConfig}

theorem normalize_asciiLower (word : List Char) :
    config.normalize (asciiLower word) = config.normalize word := by
  rw [normalize, normalize]
  split
  · rw [← lower_asciiLower, asciiLower_withoutMarks_asciiLower, lower_asciiLower]
  · exact lower_asciiLower word

/-- The same terms stand at the same places. -/
theorem placed_asciiLower (place : Place) (cs : List Char) :
    config.placed place (asciiLower cs) = (config.placed place cs).map (Prod.map id Run.lowered) := by
  have hempty (run : Run) : run.lowered.chars.isEmpty = run.chars.isEmpty := by
    rw [Run.lowered, asciiLower, List.isEmpty_map]
  have hterms (run : Run) : config.termsOfWord run.lowered.chars = config.termsOfWord run.chars := by
    rw [termsOfWord, Run.lowered, normalize_asciiLower, termsOfWord]
  exact placed_map Run.trimmed_lowered hempty hterms (runsFrom_asciiLower place cs)

/-- A text has the spans of its lower case. -/
theorem spansOf_asciiLower (cs : List Char) : config.spansOf (asciiLower cs) = config.spansOf cs := by
  have hplaced := config.placed_asciiLower .start cs
  rw [placed, placed] at hplaced
  rw [spansOf, spansOf, hplaced, List.zipIdx_map, List.map_map]
  refine List.map_congr_left fun item _ => ?_
  simp only [Function.comp_apply, Prod.map, id, Run.stop_lowered]
  rfl

theorem terms_asciiLower (cs : List Char) :
    config.terms (String.ofList (asciiLower cs)) = config.terms (String.ofList cs) := by
  rw [terms, terms, spans, spans, String.toList_ofList, String.toList_ofList, spansOf_asciiLower]

end TokenizerConfig

end Lower

/-! ### Queries -/

/-- The words of the pieces between quotation marks that lie outside them; `inside` says that the first
one lies inside. -/
def unquotedIn (inside : Bool) : List (List Char) → List (List Char)
  | [] => []
  | piece :: pieces => (if inside then [] else words piece) ++ unquotedIn (!inside) pieces

/-- The words of a text that stand outside quotation marks. -/
def unquotedWords (text : List Char) : List (List Char) :=
  unquotedIn false (Text.splitAt '"' text)

/-- The word is an operator if case is not looked at. -/
def IsOperator (word : List Char) : Prop :=
  asciiLower word = "and".toList ∨ asciiLower word = "or".toList

def QueryError.about (text : String) : QueryError → QueryError
  | .invalidLimit limit => .invalidLimit limit
  | .unbalancedQuote _ => .unbalancedQuote text

theorem ne_and_of_not_isOperator {word : List Char} (h : ¬IsOperator word) : word ≠ "AND".toList := by
  rintro rfl
  exact h (.inl (by decide))

theorem ne_or_of_not_isOperator {word : List Char} (h : ¬IsOperator word) : word ≠ "OR".toList := by
  rintro rfl
  exact h (.inr (by decide))

theorem isOperator_asciiLower (word : List Char) : IsOperator (asciiLower word) ↔ IsOperator word := by
  rw [IsOperator, asciiLower_asciiLower, IsOperator]

theorem splitAt_quote_asciiLower (text : List Char) :
    Text.splitAt '"' (asciiLower text) = (Text.splitAt '"' text).map asciiLower :=
  splitBy_map (beq_toLower (by decide)) text

section Queries

variable [CharacterTable] [LawfulCharacters] [LawfulLetters] {config : TokenizerConfig}

open LawfulLetters

theorem isBlank_toLower (c : Char) : isBlank c.toLower = isBlank c :=
  apply_toLower (fun _ hc => isBlank_of_isRunChar (isRunChar_of_isAlpha hc)) c

theorem words_asciiLower (cs : List Char) : words (asciiLower cs) = (words cs).map asciiLower :=
  runsOf_map (fun c => by rw [isBlank_toLower]) cs

/-- Quotes and white space have no case, so a text falls into the same words. -/
theorem unquotedWords_asciiLower (text : List Char) :
    unquotedWords (asciiLower text) = (unquotedWords text).map asciiLower := by
  -- the pieces lie inside and outside in turn
  have hpieces (inside : Bool) (pieces : List (List Char)) :
      unquotedIn inside (pieces.map asciiLower) = (unquotedIn inside pieces).map asciiLower := by
    induction pieces generalizing inside with
    | nil => rfl
    | cons piece pieces ih =>
        rw [List.map_cons, unquotedIn, ih, unquotedIn, List.map_append, words_asciiLower]
        cases inside with
        | true => rfl
        | false => rfl
  rw [unquotedWords, splitAt_quote_asciiLower, hpieces, unquotedWords]

namespace Mention

omit [LawfulCharacters] in
theorem ofWord_asciiLower {word : List Char} (h : ¬IsOperator word) :
    ofWord config (asciiLower word) = ofWord config word := by
  have hlower : ¬IsOperator (asciiLower word) := by rwa [isOperator_asciiLower]
  rw [ofWord, if_neg (ne_and_of_not_isOperator hlower), if_neg (ne_or_of_not_isOperator hlower), ofWord,
    if_neg (ne_and_of_not_isOperator h), if_neg (ne_or_of_not_isOperator h), TokenizerConfig.terms_asciiLower]

/-- Pieces mention the same in lower case if no word outside quotation marks is an operator in one case and
none in the other. -/
theorem ofPieces_asciiLower (inside : Bool) {pieces : List (List Char)}
    (h : ∀ word ∈ unquotedIn inside pieces, ¬IsOperator word) :
    ofPieces config inside (pieces.map asciiLower) = ofPieces config inside pieces := by
  induction pieces generalizing inside with
  | nil => rfl
  | cons piece pieces ih =>
      have hrest := ih (!inside) fun word hword => h word (List.mem_append_right _ hword)
      rw [List.map_cons, ofPieces, ofPieces, hrest]
      congr 1
      cases inside with
      | true => rw [if_pos rfl, if_pos rfl, ofQuoted, TokenizerConfig.terms_asciiLower, ofQuoted]
      | false =>
          rw [if_neg Bool.false_ne_true, if_neg Bool.false_ne_true, words_asciiLower, List.flatMap_map]
          exact List.flatMap_congr fun word hword =>
            ofWord_asciiLower (h word (List.mem_append_left _ hword))

theorem ofText_asciiLower {text : List Char} (h : ∀ word ∈ unquotedWords text, ¬IsOperator word) :
    ofText config (asciiLower text) = ofText config text := by
  rw [ofText, splitAt_quote_asciiLower, ofPieces_asciiLower false h, ofText]

end Mention

namespace Query

variable {text text' : String}

omit [LawfulCharacters] in
/-- A text that is taken as one phrase is planned alike in lower case. -/
theorem ofPhrase_eq_of_asciiLower (h : asciiLower text.toList = asciiLower text'.toList) (mode : MatchMode) :
    ofPhrase config mode text' = ofPhrase config mode text := by
  have hspaced (cs : List Char) : asciiLower (cs.map fun c => if c = '"' then ' ' else c) =
      (asciiLower cs).map fun c => if c = '"' then ' ' else c := by
    rw [asciiLower, asciiLower, List.map_map, List.map_map]
    refine List.map_congr_left fun c _ => ?_
    have hquote : c.toLower = '"' ↔ c = '"' := toLower_eq_iff (by decide)
    rw [Function.comp_apply, Function.comp_apply, apply_ite Char.toLower]
    simp only [hquote]
    rfl
  rw [ofPhrase, ← TokenizerConfig.terms_asciiLower, hspaced, ← h, ← hspaced,
    TokenizerConfig.terms_asciiLower, ofPhrase]

/-- Only the text that an error repeats tells the two queries apart. -/
theorem parse_eq_of_asciiLower (h : asciiLower text.toList = asciiLower text'.toList)
    (hplain : ∀ word ∈ unquotedWords text.toList, ¬IsOperator word) (mode : MatchMode)
    (asPhrase : Bool) :
    parse config text' mode asPhrase = (parse config text mode asPhrase).mapError (.about text') := by
  -- being an operator survives the change of case, so the other text mentions none either
  have hplain' : ∀ word ∈ unquotedWords text'.toList, ¬IsOperator word := by
    intro word hword hoperator
    have hlowered := List.mem_map_of_mem (f := asciiLower) hword
    rw [← unquotedWords_asciiLower, ← h, unquotedWords_asciiLower] at hlowered
    obtain ⟨other, hother, heq⟩ := List.mem_map.1 hlowered
    rw [← isOperator_asciiLower, ← heq, isOperator_asciiLower] at hoperator
    exact hplain other hother hoperator
  have hcount (cs : List Char) : (asciiLower cs).count '"' = cs.count '"' := by
    rw [asciiLower, List.count_eq_countP, List.countP_map, List.count_eq_countP]
    exact List.countP_congr fun c _ => by rw [Function.comp_apply, beq_toLower (by decide)]
  -- the quotes of the two texts are the same characters, so both are balanced or neither is
  have heven : text'.toList.count '"' = text.toList.count '"' := by rw [← hcount, ← h, hcount]
  cases asPhrase with
  | true => rw [parse, if_pos rfl, parse, if_pos rfl, ofPhrase_eq_of_asciiLower h]; rfl
  | false =>
      rcases Nat.mod_two_eq_zero_or_one (text.toList.count '"') with hbalanced | hodd
      · rw [parse_of_balanced config (heven ▸ hbalanced), parse_of_balanced config hbalanced,
          ← Mention.ofText_asciiLower hplain, h, Mention.ofText_asciiLower hplain']
        rfl
      · rw [parse, if_neg Bool.false_ne_true, if_pos (heven ▸ hodd), parse,
          if_neg Bool.false_ne_true, if_pos hodd]
        rfl

end Query

/-- A search gives the same for texts that only differ in the case of letters of ASCII, apart from the text
that an error repeats. -/
theorem Snapshot.search_eq_of_asciiLower {α : Type} [Scalar α] {text text' : String}
    (h : asciiLower text.toList = asciiLower text'.toList)
    (hplain : ∀ word ∈ unquotedWords text.toList, ¬IsOperator word) (snapshot : Snapshot α)
    (options : SearchOptions) :
    snapshot.search text' options = (snapshot.search text options).mapError (.about text') := by
  rw [search, search, Query.parse_eq_of_asciiLower h hplain]
  split
  · rfl
  · cases Query.parse snapshot.config.tokenizer text options.mode options.asPhrase with
    | error e => rfl
    | ok query => rfl

end Queries

/-! ### The letters of ASCII in the table of Unicode -/

namespace Unicode

open TokenizerConfig

section Checks

set_option maxRecDepth 100000

/-- The code points of the letters of ASCII, and what the tables say of them. -/
theorem tables_letter : ∀ n ∈ List.range' 0x41 26 ++ List.range' 0x61 26,
    alphabetic.contains n = true ∧ mark.contains n = false ∧ cased.contains n = true ∧
      caseIgnorable.contains n = false ∧ decomposition.imageOf n = [n] ∧
      lowercase.imageOf n = [(Char.ofNat n).toLower.toNat] := by
  decide +kernel

end Checks

theorem toNat_mem_of_isAlpha {c : Char} (h : c.isAlpha = true) :
    c.toNat ∈ List.range' 0x41 26 ++ List.range' 0x61 26 := by
  rw [List.mem_append, List.mem_range'_1, List.mem_range'_1]
  rw [isAlpha_iff] at h
  omega

theorem image_of_imageOf {table : Table Images} {c d : Char} (h : table.imageOf c.toNat = [d.toNat]) :
    table.image c = [d] := by
  rw [Table.image, h, List.map_singleton, Char.ofNat_toNat]

/-- All that the tables say of an ASCII letter. -/
theorem tables_of_isAlpha {c : Char} (h : c.isAlpha = true) :
    alphabetic.holds c = true ∧ mark.holds c = false ∧ cased.holds c = true ∧
      caseIgnorable.holds c = false ∧ decomposition.image c = [c] ∧ lowercase.image c = [c.toLower] := by
  obtain ⟨halphabetic, hmark, hcased, hignorable, hdecomposition, hlower⟩ :=
    tables_letter _ (toNat_mem_of_isAlpha h)
  rw [Char.ofNat_toNat] at hlower
  exact ⟨halphabetic, hmark, hcased, hignorable, image_of_imageOf hdecomposition, image_of_imageOf hlower⟩

theorem decompose_of_isAlpha {c : Char} (h : c.isAlpha = true) : decompose c = [c] := by
  have hmem := toNat_mem_of_isAlpha h
  rw [List.mem_append, List.mem_range'_1, List.mem_range'_1] at hmem
  rw [decompose, if_neg (by omega)]
  exact (tables_of_isAlpha h).2.2.2.2.1

instance : LawfulLetters where
  isAlphabetic_of_isAlpha hc := (isAlphabetic_eq _).trans (tables_of_isAlpha hc).1
  isMark_of_isAlpha hc := (isMark_eq _).trans (tables_of_isAlpha hc).2.1
  isCased_of_isAlpha hc := (tables_of_isAlpha hc).2.2.1
  isCaseIgnorable_of_isAlpha hc := (tables_of_isAlpha hc).2.2.2.1
  toLower_of_isAlpha hc := (tables_of_isAlpha hc).2.2.2.2.2
  decompose_of_isAlpha hc := decompose_of_isAlpha hc
  combiningClass_of_isAlpha hc :=
    combiningClass_of_not_isMark ((isMark_eq _).trans (tables_of_isAlpha hc).2.1)

/-- The case of ASCII letters does not matter. Two texts that differ in nothing else have the same spans; if
in addition no word outside quotation marks is an operator in some case, both are planned alike or both are
refused, and every search gives the same answer. -/
theorem ascii_case_never_matters {s s' : String} (h : asciiLower s.toList = asciiLower s'.toList) :
    (∀ config : TokenizerConfig, config.spans s = config.spans s') ∧
    ((∀ word ∈ unquotedWords s.toList, ¬IsOperator word) →
      (∀ (config : TokenizerConfig) (mode : MatchMode) (asPhrase : Bool),
        Query.parse config s' mode asPhrase =
          (Query.parse config s mode asPhrase).mapError (.about s')) ∧
      ∀ {α : Type} [Scalar α] (snapshot : Snapshot α) (options : SearchOptions),
        snapshot.search s' options = (snapshot.search s options).mapError (.about s')) := by
  refine ⟨fun config => ?_, fun hplain =>
    ⟨fun config mode asPhrase => Query.parse_eq_of_asciiLower h hplain mode asPhrase,
      fun snapshot options => snapshot.search_eq_of_asciiLower h hplain options⟩⟩
  rw [spans, ← spansOf_asciiLower, h, spansOf_asciiLower, spans]

/-- A capital sigma behind a letter of ASCII, and a quoted operator. -/
theorem ascii_case_never_matters_sample :
    asciiLower "aΣ \"AND b\"".toList = asciiLower "AΣ \"and B\"".toList ∧
      (∀ word ∈ unquotedWords "aΣ \"AND b\"".toList, ¬IsOperator word) ∧
      folding.spans "aΣ \"AND b\"" = folding.spans "AΣ \"and B\"" ∧
      Query.parse folding "AΣ \"and B\"" .any false =
        (Query.parse folding "aΣ \"AND b\"" .any false).mapError (.about "AΣ \"and B\"") := by
  have hcase : asciiLower "aΣ \"AND b\"".toList = asciiLower "AΣ \"and B\"".toList := by decide
  have hwords : unquotedWords "aΣ \"AND b\"".toList = ["aΣ".toList] := by
    simp [unquotedWords, unquotedIn, Text.splitAt, splitBy, words, runsOf, isBlank]
  have hplain : ∀ word ∈ unquotedWords "aΣ \"AND b\"".toList, ¬IsOperator word := by
    rw [hwords]
    intro word hword
    rw [List.mem_singleton.1 hword, IsOperator]
    decide
  obtain ⟨hspans, hqueries⟩ := ascii_case_never_matters hcase
  exact ⟨hcase, hplain, hspans folding, (hqueries hplain).1 folding .any false⟩

end Unicode

end Concordance
