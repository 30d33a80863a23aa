import Concordance.Proofs.Mentions
import Concordance.Proofs.Tiling

/-!
# Texts on both sides of a separator

A separator cuts a text in two, and each part is tokenized as if the other one were not there: the spans of
the second part are those that it has alone, moved behind the first. So what stands between two parts makes
no difference to their terms and positions, as long as it is made of separators.
-/

namespace Concordance

open Text

/-! ### Moving behind a text -/

/-- The place, counted from the start of a text that has `offset` before it. -/
def Place.behind (offset place : Place) : Place :=
  ⟨offset.byte + place.byte, offset.char + place.char⟩

def Run.behind (offset : Place) (run : Run) : Run :=
  ⟨offset.behind run.start, run.chars⟩

/-- The span, in a text that has `count` terms and `offset` before it. -/
def Span.behind (count : Nat) (offset : Place) (span : Span) : Span where
  term := span.term
  position := span.position + UInt32.ofNat count
  start := offset.behind span.start
  stop := offset.behind span.stop

theorem Place.after_behind (offset place : Place) (cs : List Char) :
    (offset.behind place).after cs = offset.behind (place.after cs) := by
  simp only [Place.after, Place.behind, Nat.add_assoc]

@[simp] theorem Place.behind_start (offset : Place) : offset.behind .start = offset :=
  rfl

@[simp] theorem Run.stop_behind (offset : Place) (run : Run) :
    (run.behind offset).stop = offset.behind run.stop :=
  Place.after_behind offset run.start run.chars

theorem Run.trimmed_behind (offset : Place) (run : Run) :
    (run.behind offset).trimmed = run.trimmed.behind offset := by
  rw [trimmed, behind, Place.after_behind]
  rfl

variable [CharacterTable] {config : TokenizerConfig}

/-- The runs of a text are found wherever it begins. -/
theorem runsFrom_behind (offset place : Place) (cs : List Char) :
    runsFrom (offset.behind place) cs = (runsFrom place cs).map (Run.behind offset) := by
  fun_induction runsFrom place cs with
  | case1 place => rw [runsFrom, List.map_nil]
  | case2 place c rest hc chars ih =>
      simp only [chars] at ih ⊢
      rw [runsFrom, if_pos hc, List.map_cons, ← ih, ← Place.after_behind]
      rfl
  | case3 place c rest hc ih => rw [runsFrom, if_neg hc, ← ih, Place.after_behind]

namespace TokenizerConfig

theorem placed_behind (offset place : Place) (cs : List Char) :
    config.placed (offset.behind place) cs =
      (config.placed place cs).map (Prod.map id (Run.behind offset)) :=
  placed_map (Run.trimmed_behind offset) (fun _ => rfl) (fun _ => rfl) (runsFrom_behind offset place cs)

/-! ### Spans -/

/-- Behind a text and a separator, spans are moved by what stands before them. -/
theorem spans_append_separator {c : Char} (hc : isRunChar c = false) (a b : String) :
    config.spans (a ++ String.singleton c ++ b) =
      config.spans a ++ (config.spans b).map
        (Span.behind (config.spans a).length ⟨(encode a).length + c.utf8Size, a.length + 1⟩) := by
  have htext : (a ++ String.singleton c ++ b).toList = a.toList ++ c :: b.toList := by simp
  have hoffset : Place.start.after (a.toList ++ [c]) =
      ⟨(encode a).length + c.utf8Size, a.length + 1⟩ := by
    rw [Place.start_after, encode, encodeChars, encodeChars, List.flatMap_append, List.length_append,
      List.flatMap_singleton, String.length_utf8EncodeChar, List.length_append, List.length_singleton,
      String.length_toList]
  have hplaced : config.placed .start (a.toList ++ c :: b.toList) =
      config.placed .start a.toList ++ (config.placed .start b.toList).map
        (Prod.map id (Run.behind ⟨(encode a).length + c.utf8Size, a.length + 1⟩)) := by
    rw [placed_append_separator hc, hoffset, ← placed_behind, Place.behind_start]
  have hlength : (config.spans a).length = (config.placed .start a.toList).length := by
    rw [length_spans, length_placed]
  -- span by span: those before the separator keep their places, those behind move with it
  refine List.ext_getElem? fun i => ?_
  rw [getElem?_spans, htext, hplaced]
  by_cases hi : i < (config.spans a).length
  · rw [List.getElem?_append_left hi, List.getElem?_append_left (hlength ▸ hi), getElem?_spans]
  · have hle : (config.spans a).length ≤ i := Nat.le_of_not_lt hi
    have hposition : UInt32.ofNat i =
        UInt32.ofNat (i - (config.spans a).length) + UInt32.ofNat (config.spans a).length := by
      rw [← UInt32.ofNat_add, Nat.sub_add_cancel hle]
    rw [List.getElem?_append_right hle, List.getElem?_append_right (hlength ▸ hle), ← hlength,
      List.getElem?_map, List.getElem?_map, getElem?_spans, Option.map_map, Option.map_map, hposition]
    refine congrArg (Option.map · _) (funext fun item => ?_)
    simp only [Function.comp_apply, Span.behind, Prod.map, id, Run.stop_behind]
    rfl

/-! ### Terms and positions -/

theorem tokenize_congr {a b : String} (h : config.termsIn a.toList = config.termsIn b.toList) :
    config.tokenize a = config.tokenize b := by
  rw [tokenize_eq, tokenize_eq, terms_eq_map_termsIn, terms_eq_map_termsIn, h]

/-- Any number of separators keeps two parts of a text apart. -/
theorem termsIn_append_gap {gap : List Char} (hne : gap ≠ []) (h : ∀ c ∈ gap, isRunChar c = false)
    (front rest : List Char) :
    config.termsIn (front ++ gap ++ rest) = config.termsIn front ++ config.termsIn rest := by
  obtain ⟨c, gap, rfl⟩ := List.exists_cons_of_ne_nil hne
  have hgap : ∀ d ∈ gap, isRunChar d = false := fun d hd => h d (List.mem_cons_of_mem _ hd)
  rw [List.append_assoc, List.cons_append, termsIn_append_separator (h c List.mem_cons_self),
    termsIn_separators_append hgap]

/-- Pieces with the same separators between each two have the terms of the pieces. -/
theorem termsIn_joinWith {gap : List Char} (hne : gap ≠ []) (h : ∀ c ∈ gap, isRunChar c = false)
    (pieces : List (List Char)) :
    config.termsIn (joinWith gap pieces) = pieces.flatMap config.termsIn := by
  fun_induction joinWith gap pieces with
  | case1 => rw [termsIn_nil, List.flatMap_nil]
  | case2 piece => rw [List.flatMap_singleton]
  | case3 piece pieces _ ih => rw [termsIn_append_gap hne h, ih, List.flatMap_cons]

end TokenizerConfig

end Concordance

namespace Concordance.Unicode

open Text TokenizerConfig

/-- Tokenizing goes part by part. At a character that runs are not made of, the spans of a text are those of
what stands before it and then those of what stands behind it, with as many more terms, bytes and characters
before them. So a gap of white space may be replaced by any other separators, of which one space is a case,
and all gaps of a text may be collapsed, and the terms keep their positions. -/
theorem spans_part_by_part (config : TokenizerConfig) :
    (∀ (a b : String) (c : Char), isWordChar c = false → isJoiner c = false →
      config.spans (a ++ String.singleton c ++ b) =
        config.spans a ++ (config.spans b).map
          (Span.behind (config.spans a).length ⟨(encode a).length + c.utf8Size, a.length + 1⟩)) ∧
    (∀ a b gap separators : String, gap ≠ "" → (∀ c ∈ gap.toList, isBlank c = true) →
      separators ≠ "" → (∀ c ∈ separators.toList, isWordChar c = false ∧ isJoiner c = false) →
        config.tokenize (a ++ separators ++ b) = config.tokenize (a ++ gap ++ b)) ∧
    ∀ text : String, config.tokenize (String.ofList (joinWith [' '] (words text.toList))) =
      config.tokenize text := by
  have hseparates {c : Char} (hword : isWordChar c = false) (hjoiner : isJoiner c = false) :
      isRunChar c = false := by
    rw [isRunChar, hword, hjoiner, Bool.or_false]
  have hblank : ∀ c, isBlank c = true → isWordChar c = false := fun c => isWordChar_of_isBlank
  refine ⟨fun a b c hword hjoiner => spans_append_separator (hseparates hword hjoiner) a b, ?_, ?_⟩
  · intro a b gap separators hgap hblanks hne hseparators
    have hparts {between : String} (hne : between ≠ "")
        (h : ∀ c ∈ between.toList, isRunChar c = false) :
        config.termsIn (a ++ between ++ b).toList = config.termsIn a.toList ++ config.termsIn b.toList := by
      rw [String.toList_append, String.toList_append]
      exact termsIn_append_gap (fun hnil => hne (String.toList_eq_nil_iff.1 hnil)) h _ _
    apply tokenize_congr
    rw [hparts hne fun c hc => hseparates (hseparators c hc).1 (hseparators c hc).2,
      hparts hgap fun c hc => isRunChar_of_isBlank hblank (hblanks c hc)]
  · intro text
    apply tokenize_congr
    rw [String.toList_ofList, termsIn_joinWith (by simp) (by simp [isRunChar_space]),
      ← termsIn_eq_flatMap_words hblank]

/-- Two signs for a half, each folded to two terms, with a space of three bytes between them. -/
theorem spans_part_by_part_sample :
    isWordChar '\u2003' = false ∧ isJoiner '\u2003' = false ∧
      folding.spans ("½" ++ String.singleton '\u2003' ++ "½") =
        [⟨"1", 0, ⟨0, 0⟩, ⟨2, 1⟩⟩, ⟨"2", 1, ⟨0, 0⟩, ⟨2, 1⟩⟩,
          ⟨"1", 2, ⟨5, 2⟩, ⟨7, 3⟩⟩, ⟨"2", 3, ⟨5, 2⟩, ⟨7, 3⟩⟩] ∧
      "\u2003\n" ≠ "" ∧ (∀ c ∈ "\u2003\n".toList, isBlank c = true) ∧ " " ≠ "" ∧
      (∀ c ∈ " ".toList, isWordChar c = false ∧ isJoiner c = false) ∧
      folding.tokenize ("½" ++ " " ++ "½") = folding.tokenize ("½" ++ "\u2003\n" ++ "½") := by
  have hword : isWordChar '\u2003' = false := isWordChar_of_isBlank (by simp [isBlank])
  have hblanks : ∀ c ∈ "\u2003\n".toList, isBlank c = true := by simp [isBlank]
  have hspace : ∀ c ∈ " ".toList, isWordChar c = false ∧ isJoiner c = false := by
    intro c hc
    obtain rfl : c = ' ' := by simpa using hc
    exact ⟨isWordChar_of_isBlank (by decide), by decide⟩
  obtain ⟨hspans, hgaps, -⟩ := spans_part_by_part folding
  refine ⟨hword, by decide, ?_, by simp, hblanks, by simp, hspace,
    hgaps "½" "½" "\u2003\n" " " (by simp) hblanks (by simp) hspace⟩
  rw [hspans "½" "½" '\u2003' hword (by decide), spans_half]
  decide +kernel

end Concordance.Unicode
